import GpuPassthrough.Proofs.Config.Settings
import Mathlib.Data.List.Nodup

/-!
# What a Configuration File Gives

A configuration file gives a setting the value of the member that is called by its name or, in an
array, of the element at its place. Every setting that the file does not mention is as it is by
default, whatever the others are.

## Main results

* `Config.layer_ofMembers?`, `Config.layer_ofElements?`: the settings after some members or elements.
* `Config.layer_ofJson?`: the settings that a document gives.
-/

namespace GpuPassthrough

namespace ConfigField

variable {field : ConfigField}

/-- Every setting has its place. -/
theorem mem_all (field : ConfigField) : field ∈ all := by
  cases field <;> decide

/-- Members of different settings have different names. -/
theorem key_inj {a b : ConfigField} : a.key = b.key ↔ a = b := by
  refine ⟨?_, congrArg key⟩
  revert b
  cases a <;> intro b <;> cases b <;> decide

/-- The setting of a member is the one of its name. -/
theorem ofKey?_eq_some_iff {name : String} : ofKey? name = some field ↔ field.key = name := by
  have hsound : ∀ other, ofKey? name = some other → other.key = name := by
    intro other hfind
    rw [ofKey?] at hfind
    simpa using List.find?_some hfind
  refine ⟨hsound field, ?_⟩
  rintro rfl
  cases hfind : ofKey? field.key with
  | none =>
    rw [ofKey?] at hfind
    simpa using List.find?_eq_none.1 hfind field (mem_all field)
  | some other => rw [key_inj.1 (hsound other hfind)]

end ConfigField

namespace Json

/-- The member of an object that gives a setting: the first of its name. -/
def member? (field : ConfigField) (members : List (List JsonUnit × Json)) :
    Option (List JsonUnit × Json) :=
  members.find? fun member => JsonUnit.text? member.1 = some field.key

/-- The values that a document gives: those of the members of an object, or of the elements of an
array in the order of the settings. -/
def layer : Json → Layer
  | .object members, field => (member? field members).bind fun member => field.fileValue? member.2
  | .array elements, field =>
    ((ConfigField.all.zip elements).lookup field).bind field.fileValue?
  | _, _ => none

end Json

namespace Config

open Json (member?)

variable {c c' : Config} {given : List ConfigField} {field : ConfigField}

/-- **A member of an object** has another name than every setting, or it gives a setting that no
member has given. -/
theorem cases_of_ofMembers? {name : List JsonUnit} {value : Json}
    {rest : List (List JsonUnit × Json)}
    (hmembers : ofMembers? c given ((name, value) :: rest) = some c') :
    (∃ text, JsonUnit.text? name = some text ∧ (∀ field : ConfigField, field.key ≠ text) ∧
        ofMembers? c given rest = some c') ∨
      ∃ field next, JsonUnit.text? name = some field.key ∧ field ∉ given ∧
        field.set? value c = some next ∧ ofMembers? next (field :: given) rest = some c' := by
  rw [ofMembers?] at hmembers
  obtain ⟨text, htext, hmembers⟩ := Option.bind_eq_some_iff.1 hmembers
  cases hkey : ConfigField.ofKey? text with
  | none =>
    rw [hkey] at hmembers
    refine .inl ⟨text, htext, fun field hfield => ?_, hmembers⟩
    cases hkey.symm.trans (ConfigField.ofKey?_eq_some_iff.2 hfield)
  | some field =>
    rw [hkey] at hmembers
    dsimp only at hmembers
    split at hmembers
    · cases hmembers
    · next hgiven =>
      obtain ⟨next, hnext, hrest⟩ := Option.bind_eq_some_iff.1 hmembers
      rw [← ConfigField.ofKey?_eq_some_iff.1 hkey] at htext
      exact .inr ⟨field, next, htext, hgiven, hnext, hrest⟩

/-- A setting that had its turn has no more members. -/
theorem member?_eq_none {members : List (List JsonUnit × Json)}
    (hmembers : ofMembers? c given members = some c') (hgiven : field ∈ given) :
    member? field members = none := by
  induction members generalizing c given with
  | nil => rfl
  | cons member rest ih =>
    obtain ⟨name, value⟩ := member
    obtain ⟨text, htext, hother, hrest⟩ | ⟨other, next, htext, hnew, -, hrest⟩ :=
      cases_of_ofMembers? hmembers
    · rw [member?, List.find?_cons_of_neg (by simpa [htext] using (hother field).symm)]
      exact ih hrest hgiven
    · have hne : other ≠ field := fun heq => hnew (heq ▸ hgiven)
      rw [member?, List.find?_cons_of_neg (by simpa [htext, ConfigField.key_inj] using hne)]
      exact ih hrest (List.mem_cons_of_mem other hgiven)

/-- **The settings after some members**: those that the members give are as they are given, and the
others stay. -/
theorem layer_ofMembers? {members : List (List JsonUnit × Json)}
    (hmembers : ofMembers? c given members = some c') (field : ConfigField) :
    c'.layer field =
      match member? field members with
      | none => c.layer field
      | some member => (field.fileValue? member.2).or (defaults field) := by
  induction members generalizing c given with
  | nil =>
    obtain rfl := Option.some.inj hmembers
    rfl
  | cons member rest ih =>
    obtain ⟨name, value⟩ := member
    obtain ⟨text, htext, hother, hrest⟩ | ⟨other, next, htext, hnew, hset, hrest⟩ :=
      cases_of_ofMembers? hmembers
    · rw [member?, List.find?_cons_of_neg (by simpa [htext] using (hother field).symm)]
      exact ih hrest
    · by_cases heq : other = field
      · subst heq
        rw [member?, List.find?_cons_of_pos (by simpa using htext), ih hrest,
          member?_eq_none hrest List.mem_cons_self]
        exact ConfigField.layer_set?_self hset
      · rw [member?, List.find?_cons_of_neg (by simpa [htext, ConfigField.key_inj] using heq),
          ih hrest, ConfigField.layer_set?_of_ne hset (Ne.symm heq)]
        rfl

/-- **The settings after some elements**: those that have an element are as it gives them, and the
others stay. -/
theorem layer_ofElements? {fields : List ConfigField} {elements : List Json}
    (hnodup : fields.Nodup) (helements : ofElements? c fields elements = some c')
    (field : ConfigField) :
    c'.layer field =
      match (fields.zip elements).lookup field with
      | none => c.layer field
      | some value => (field.fileValue? value).or (defaults field) := by
  induction elements generalizing c fields with
  | nil =>
    rw [ofElements?] at helements
    obtain rfl := Option.some.inj helements
    rw [List.zip_nil_right, List.lookup_nil]
  | cons value rest ih =>
    cases fields with
    | nil =>
      rw [ofElements?] at helements
      cases helements
    | cons first others =>
      rw [ofElements?] at helements
      obtain ⟨next, hset, hrest⟩ := Option.bind_eq_some_iff.1 helements
      obtain ⟨hnew, hothers⟩ := List.nodup_cons.1 hnodup
      rw [List.zip_cons_cons, List.lookup_cons]
      by_cases heq : field = first
      · subst heq
        have hnone : (others.zip rest).lookup field = none := by
          refine List.lookup_eq_none_iff.2 fun entry hentry => ?_
          have hmem : entry.1 ∈ others := (List.of_mem_zip hentry).1
          exact bne_iff_ne.2 fun heq => hnew (heq ▸ hmem)
        rw [ih hothers hrest, hnone, beq_self_eq_true]
        exact ConfigField.layer_set?_self hset
      · rw [ih hothers hrest, beq_false_of_ne heq, ConfigField.layer_set?_of_ne hset heq]

/-- **The settings that a document gives**: what it mentions is as it says, and everything else as it
is by default. -/
theorem layer_ofJson? {document : Json} (hdocument : ofJson? document = some c) :
    c.layer = document.layer.above defaults := by
  funext field
  rw [Layer.above]
  cases document with
  | object members =>
    rw [layer_ofMembers? hdocument field, Json.layer]
    cases member? field members <;> rfl
  | array elements =>
    have hnodup : ConfigField.all.Nodup := by decide
    rw [layer_ofElements? hnodup hdocument field, Json.layer]
    cases (ConfigField.all.zip elements).lookup field <;> rfl
  | null | bool | number | string => cases hdocument

end Config

end GpuPassthrough
