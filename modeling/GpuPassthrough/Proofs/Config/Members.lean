import GpuPassthrough.Proofs.Config.Documents
import GpuPassthrough.Proofs.Config.Values

/-!
# Configurations from Members and Elements

What an object or an array makes of a configuration, said without an order of reading. The members of
an object give the settings that they name, each at most once; what no member names stays. Only what
the members of settings say matters, so members may change places, and members of other names may
come and go.

## Main results

* `Config.ofMembers?_eq_some_iff`, `Config.ofElements?_eq_some_iff`: the readers against the rules.
* `Config.ofJson?_eq_some_iff`: the configuration that a document describes.
* `Config.Fills.of_saysSame`: only the members of settings matter.
-/

namespace GpuPassthrough

/-- A member of an object. -/
abbrev JsonMember := List JsonUnit × Json

/-- The name of a member is a text. -/
def JsonMember.IsNamed (member : JsonMember) : Prop := (JsonUnit.text? member.1).isSome = true

/-- A member gives a setting if it has its name. -/
def ConfigField.GivenBy (field : ConfigField) (member : JsonMember) : Prop :=
  JsonUnit.text? member.1 = some field.key

instance (field : ConfigField) (member : JsonMember) : Decidable (field.GivenBy member) :=
  inferInstanceAs (Decidable (_ = _))

/-- A member that gives one of the settings. -/
def JsonMember.IsKnown (member : JsonMember) : Prop :=
  ∃ field ∈ ConfigField.all, field.GivenBy member

instance (member : JsonMember) : Decidable member.IsKnown :=
  inferInstanceAs (Decidable (∃ field ∈ ConfigField.all, _))

/-- A member gives one setting. -/
theorem ConfigField.GivenBy.unique {field other : ConfigField} {member : JsonMember}
    (hgiven : field.GivenBy member) (hother : other.GivenBy member) : other = field :=
  ConfigField.key_inj.1 (Option.some.inj (hother.symm.trans hgiven))

namespace Config

variable {base c : Config} {given : List ConfigField} {member : JsonMember}
  {rest members members' : List JsonMember} {field : ConfigField}

/-- **What members make of a configuration**, where some settings had their turn. -/
structure Fills (base : Config) (given : List ConfigField) (members : List JsonMember)
    (c : Config) : Prop where
  /-- The names are texts. -/
  named : ∀ member ∈ members, member.IsNamed
  /-- No member gives a setting that had its turn, -/
  fresh : ∀ field ∈ given, ∀ member ∈ members, ¬ field.GivenBy member
  /-- and no two members give one setting. -/
  once : ∀ field : ConfigField, members.countP (field.GivenBy ·) ≤ 1
  /-- A setting has the value of its member. -/
  values : ∀ field : ConfigField, ∀ member ∈ members, field.GivenBy member →
    field.IsValue member.2 (c.layer field)
  /-- Without a member it is as before. -/
  absent : ∀ field : ConfigField, (∀ member ∈ members, ¬ field.GivenBy member) →
    c.layer field = base.layer field

/-- Without members everything stays. -/
theorem fills_nil : Fills base given [] c ↔ base = c := by
  constructor
  · exact fun hfills => layer_inj.1 (funext fun field => (hfills.absent field nofun).symm)
  · rintro rfl
    exact ⟨nofun, nofun, fun _ => Nat.zero_le 1, nofun, fun _ _ => rfl⟩

/-- **A member of another name** is passed over. -/
theorem fills_cons_of_unknown (hnamed : member.IsNamed)
    (hunknown : ∀ field : ConfigField, ¬ field.GivenBy member) :
    Fills base given (member :: rest) c ↔ Fills base given rest c := by
  constructor
  · intro hfills
    refine ⟨(List.forall_mem_cons.1 hfills.named).2, ?_, ?_, ?_, ?_⟩
    · exact fun field hfield => (List.forall_mem_cons.1 (hfills.fresh field hfield)).2
    · intro field
      have honce := hfills.once field
      rwa [List.countP_cons_of_neg (by simpa using hunknown field)] at honce
    · exact fun field => (List.forall_mem_cons.1 (hfills.values field)).2
    · exact fun field habsent =>
        hfills.absent field (List.forall_mem_cons.2 ⟨hunknown field, habsent⟩)
  · intro hfills
    refine ⟨List.forall_mem_cons.2 ⟨hnamed, hfills.named⟩, ?_, ?_, ?_, ?_⟩
    · exact fun field hfield => List.forall_mem_cons.2 ⟨hunknown field, hfills.fresh field hfield⟩
    · intro field
      rw [List.countP_cons_of_neg (by simpa using hunknown field)]
      exact hfills.once field
    · exact fun field => List.forall_mem_cons.2
        ⟨fun hgiven => absurd hgiven (hunknown field), hfills.values field⟩
    · exact fun field habsent => hfills.absent field (List.forall_mem_cons.1 habsent).2

/-- A member of a setting gives no other one. -/
theorem not_givenBy_of_ne {other : ConfigField} (hfield : field.GivenBy member)
    (hne : other ≠ field) : ¬ other.GivenBy member :=
  fun hgiven => hne (hfield.unique hgiven)

/-- After a member of a setting, the setting had its turn. -/
theorem Fills.of_cons (hfills : Fills base given (member :: rest) c) (hfield : field.GivenBy member) :
    field ∉ given ∧
      ∃ next, field.set? member.2 base = some next ∧ Fills next (field :: given) rest c := by
  have hself := hfills.values field member List.mem_cons_self hfield
  obtain ⟨next, hset⟩ := ConfigField.exists_set? hself base
  obtain ⟨hvalue, hothers⟩ := ConfigField.set?_eq_some_iff.1 hset
  refine ⟨fun hgiven => hfills.fresh field hgiven member List.mem_cons_self hfield, next, hset, ?_⟩
  refine ⟨(List.forall_mem_cons.1 hfills.named).2, ?_, ?_, ?_, ?_⟩
  · refine List.forall_mem_cons.2 ⟨?_, fun other hgiven => ?_⟩
    · have honce := hfills.once field
      rw [List.countP_cons_of_pos (by simpa using hfield)] at honce
      have hzero : rest.countP (field.GivenBy ·) = 0 := by omega
      simpa using hzero
    · exact (List.forall_mem_cons.1 (hfills.fresh other hgiven)).2
  · exact fun other =>
      Nat.le_trans (List.sublist_cons_self member rest).countP_le (hfills.once other)
  · exact fun other => (List.forall_mem_cons.1 (hfills.values other)).2
  · intro other habsent
    by_cases heq : other = field
    · subst heq
      exact hself.unique hvalue
    · rw [hothers other heq]
      exact hfills.absent other
        (List.forall_mem_cons.2 ⟨not_givenBy_of_ne hfield heq, habsent⟩)

/-- A setting that had no turn is given by a member. -/
theorem Fills.cons {next : Config} (hfills : Fills next (field :: given) rest c)
    (hfield : field.GivenBy member) (hnew : field ∉ given)
    (hset : field.set? member.2 base = some next) : Fills base given (member :: rest) c := by
  have hnamed : member.IsNamed := by
    rw [JsonMember.IsNamed, hfield]
    rfl
  obtain ⟨hnone, hfresh⟩ := List.forall_mem_cons.1 hfills.fresh
  obtain ⟨hvalue, hothers⟩ := ConfigField.set?_eq_some_iff.1 hset
  refine ⟨List.forall_mem_cons.2 ⟨hnamed, hfills.named⟩, ?_, ?_, ?_, ?_⟩
  · intro other hgiven
    have hne : other ≠ field := fun heq => hnew (heq ▸ hgiven)
    exact List.forall_mem_cons.2 ⟨not_givenBy_of_ne hfield hne, hfresh other hgiven⟩
  · intro other
    by_cases heq : other = field
    · subst heq
      have hzero : rest.countP (other.GivenBy ·) = 0 := by simpa using hnone
      have hone : (member :: rest).countP (other.GivenBy ·) = 1 := by
        rw [List.countP_cons_of_pos (by simpa using hfield), hzero]
      exact Nat.le_of_eq hone
    · rw [List.countP_cons_of_neg (by simpa using not_givenBy_of_ne hfield heq)]
      exact hfills.once other
  · intro other
    refine List.forall_mem_cons.2 ⟨fun hgiven => ?_, hfills.values other⟩
    obtain rfl := hfield.unique hgiven
    rwa [hfills.absent other hnone]
  · intro other habsent
    obtain ⟨hhead, hrest⟩ := List.forall_mem_cons.1 habsent
    have hne : other ≠ field := fun heq => hhead (heq ▸ hfield)
    rw [hfills.absent other hrest, hothers other hne]

/-- **A member of a setting** gives the setting its value, if the setting had no turn yet. -/
theorem fills_cons_of_givenBy (hfield : field.GivenBy member) :
    Fills base given (member :: rest) c ↔ field ∉ given ∧
      ∃ next, field.set? member.2 base = some next ∧ Fills next (field :: given) rest c :=
  ⟨fun hfills => hfills.of_cons hfield,
    fun ⟨hnew, _, hset, hfills⟩ => hfills.cons hfield hnew hset⟩

/-- **The reader of members against the rules.** -/
theorem ofMembers?_eq_some_iff : ofMembers? base given members = some c ↔
    Fills base given members c := by
  induction members generalizing base given with
  | nil => rw [fills_nil, ofMembers?, Option.some.injEq]
  | cons member rest ih =>
    rw [ofMembers?]
    cases htext : JsonUnit.text? member.1 with
    | none =>
      refine iff_of_false (fun hread => by cases hread) fun hfills => ?_
      have hnamed := hfills.named member List.mem_cons_self
      rw [JsonMember.IsNamed, htext] at hnamed
      cases hnamed
    | some text =>
      cases hkey : ConfigField.ofKey? text with
      | none =>
        rw [fills_cons_of_unknown, ← ih]
        · simp [hkey]
        · rw [JsonMember.IsNamed, htext]
          rfl
        · intro field hgiven
          obtain rfl := Option.some.inj (htext.symm.trans hgiven)
          cases hkey.symm.trans (ConfigField.ofKey?_eq_some_iff.2 rfl)
      | some field =>
        obtain rfl := ConfigField.ofKey?_eq_some_iff.1 hkey
        rw [fills_cons_of_givenBy htext]
        simp only [← ih]
        by_cases hgiven : field ∈ given
        · simp [hkey, hgiven]
        · simp [hkey, hgiven, Option.bind_eq_some_iff]

/-! ### Elements of arrays -/

/-- **What elements make of a configuration**: they are the values of settings in order, and there are
not more of them than settings. -/
structure Lists (base : Config) (fields : List ConfigField) (elements : List Json) (c : Config) :
    Prop where
  /-- There is a setting for each element. -/
  length_le : elements.length ≤ fields.length
  /-- A setting has the value of its element. -/
  values : ∀ entry ∈ fields.zip elements, entry.1.IsValue entry.2 (c.layer entry.1)
  /-- Without an element it is as before. -/
  absent : ∀ field ∉ (fields.zip elements).map Prod.fst, c.layer field = base.layer field

variable {first : ConfigField} {others : List ConfigField} {value : Json} {elements : List Json}

/-- Without elements everything stays. -/
theorem lists_nil {fields : List ConfigField} : Lists base fields [] c ↔ base = c := by
  constructor
  · exact fun hlists => layer_inj.1 (funext fun field => (hlists.absent field (by simp)).symm)
  · rintro rfl
    exact ⟨Nat.zero_le _, by simp, fun _ _ => rfl⟩

/-- **An element gives the first setting its value**, and the others are left for the rest. -/
theorem lists_cons (hnew : first ∉ others) :
    Lists base (first :: others) (value :: elements) c ↔
      ∃ next, first.set? value base = some next ∧ Lists next others elements c := by
  have hrest : first ∉ (others.zip elements).map Prod.fst := by
    intro hmem
    obtain ⟨entry, hentry, rfl⟩ := List.mem_map.1 hmem
    exact hnew (List.of_mem_zip hentry).1
  constructor
  · intro hlists
    obtain ⟨hself, hvalues⟩ := List.forall_mem_cons.1 hlists.values
    obtain ⟨next, hset⟩ := ConfigField.exists_set? hself base
    obtain ⟨hvalue, hkept⟩ := ConfigField.set?_eq_some_iff.1 hset
    refine ⟨next, hset, Nat.le_of_succ_le_succ hlists.length_le, hvalues, fun field hfield => ?_⟩
    by_cases heq : field = first
    · subst heq
      exact hself.unique hvalue
    · rw [hkept field heq]
      exact hlists.absent field (by simpa [heq] using hfield)
  · rintro ⟨next, hset, hlists⟩
    obtain ⟨hvalue, hkept⟩ := ConfigField.set?_eq_some_iff.1 hset
    refine ⟨Nat.succ_le_succ hlists.length_le, ?_, fun field hfield => ?_⟩
    · refine List.forall_mem_cons.2 ⟨?_, hlists.values⟩
      dsimp only
      rwa [hlists.absent first hrest]
    · rw [List.zip_cons_cons, List.map_cons, List.mem_cons, not_or] at hfield
      rw [hlists.absent field hfield.2, hkept field hfield.1]

/-- **The reader of elements against the rules.** -/
theorem ofElements?_eq_some_iff {fields : List ConfigField} (hnodup : fields.Nodup) :
    ofElements? base fields elements = some c ↔ Lists base fields elements c := by
  induction elements generalizing base fields with
  | nil => rw [lists_nil, ofElements?, Option.some.injEq]
  | cons value rest ih =>
    cases fields with
    | nil =>
      rw [ofElements?]
      refine iff_of_false (fun hread => by cases hread) fun hlists => ?_
      exact Nat.not_succ_le_zero _ hlists.length_le
    | cons first others =>
      obtain ⟨hnew, hothers⟩ := List.nodup_cons.1 hnodup
      simp only [ofElements?, Option.bind_eq_bind, Option.bind_eq_some_iff, ih hothers,
        lists_cons hnew]

/-! ### Documents -/

/-- **The configuration that a document describes**: settings by name over the defaults, or in
order. -/
inductive Describes : Json → Config → Prop
  | object {members : List JsonMember} {c : Config} (hfills : Fills {} [] members c) :
      Describes (.object members) c
  | array {elements : List Json} {c : Config} (hlists : Lists {} ConfigField.all elements c) :
      Describes (.array elements) c

/-- **The reader of documents against the rules.** -/
theorem ofJson?_eq_some_iff {document : Json} :
    ofJson? document = some c ↔ Describes document c := by
  cases document with
  | object members =>
    rw [ofJson?, ofMembers?_eq_some_iff]
    exact ⟨.object, fun hdescribes => by cases hdescribes; assumption⟩
  | array elements =>
    rw [ofJson?, ofElements?_eq_some_iff (by decide)]
    exact ⟨.array, fun hdescribes => by cases hdescribes; assumption⟩
  | null | bool | number | string => exact iff_of_false nofun nofun

/-! ### Objects that say the same -/

/-- **Objects that say the same of all settings**: in another order, or with other members that give
no setting. -/
structure SaysSame (members members' : List JsonMember) : Prop where
  /-- The names of one are texts if those of the other are. -/
  named : (∀ member ∈ members, member.IsNamed) ↔ ∀ member ∈ members', member.IsNamed
  /-- The members of settings are the same in some order. -/
  known : (members.filter (·.IsKnown)).Perm (members'.filter (·.IsKnown))

/-- What is said by one is said by the other. -/
theorem SaysSame.symm (hsame : SaysSame members members') : SaysSame members' members :=
  ⟨hsame.named.symm, hsame.known.symm⟩

/-- An order says nothing. -/
theorem saysSame_of_perm (hperm : members.Perm members') : SaysSame members members' :=
  ⟨by simp only [hperm.mem_iff], hperm.filter _⟩

/-- A member of another name says nothing. -/
theorem saysSame_of_unknown {before after : List JsonMember} (hnamed : member.IsNamed)
    (hunknown : ¬ member.IsKnown) : SaysSame (before ++ member :: after) (before ++ after) where
  named := by simp [or_imp, forall_and, hnamed]
  known := by simp [hunknown]

/-- The members of a setting are known. -/
theorem SaysSame.mem (hsame : SaysSame members members') (hmem : member ∈ members)
    (hfield : field.GivenBy member) : member ∈ members' := by
  have hknown : member.IsKnown := ⟨field, ConfigField.mem_all field, hfield⟩
  have hmem : member ∈ members.filter (·.IsKnown) := by simp [hmem, hknown]
  exact List.mem_of_mem_filter (hsame.known.mem_iff.1 hmem)

/-- A setting has as many members in one as in the other. -/
theorem SaysSame.countP_eq (hsame : SaysSame members members') (field : ConfigField) :
    members.countP (field.GivenBy ·) = members'.countP (field.GivenBy ·) := by
  have hknown : ∀ members : List JsonMember,
      (members.filter (·.IsKnown)).countP (field.GivenBy ·) = members.countP (field.GivenBy ·) := by
    intro members
    rw [List.countP_filter]
    refine List.countP_congr fun member _ => ?_
    simpa using fun hfield => ⟨field, ConfigField.mem_all field, hfield⟩
  rw [← hknown members, hsame.known.countP_eq, hknown]

/-- **Only what members say of settings matters.** -/
theorem Fills.of_saysSame (hfills : Fills base given members c) (hsame : SaysSame members members') :
    Fills base given members' c where
  named := hsame.named.1 hfills.named
  fresh field hgiven _ hmem hfield :=
    hfills.fresh field hgiven _ (hsame.symm.mem hmem hfield) hfield
  once field := hsame.countP_eq field ▸ hfills.once field
  values field _ hmem hfield := hfills.values field _ (hsame.symm.mem hmem hfield) hfield
  absent field habsent :=
    hfills.absent field fun member hmem hfield =>
      habsent member (hsame.mem hmem hfield) hfield

end Config

end GpuPassthrough
