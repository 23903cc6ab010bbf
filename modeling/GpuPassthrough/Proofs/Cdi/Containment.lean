import GpuPassthrough.Proofs.Cdi.Publication
import GpuPassthrough.Proofs.Cdi.Requests

/-!
# A Pass Stays in its Directory

The vendor, the aliases and the names of the devices may be any texts, with slashes and dots in them.
Yet a pass changes nothing but entries of its directory, and those only under names that consist of a
vendor and a class of letters, digits and a few signs: a name that fails the check stops the pass
before its specification is written. Only making the directory reaches further, and it adds
directories alone. This holds after every single request, and not just at the end.

## Main results

* `validate_eq_ok_iff_isKindPart`: what passes the check.
* `Store.inside_specRequests`: what the requests of one specification change.
* `Store.Inside.changes`: what they change together.
* `Store.staysInside_writeAll`: what a pass requests and changes.
-/

namespace GpuPassthrough.Cdi

open FileTree

/-! ### Names -/

/-- An ASCII letter or digit. -/
def IsLetterOrDigit (c : Char) : Prop :=
  'a' ≤ c ∧ c ≤ 'z' ∨ 'A' ≤ c ∧ c ≤ 'Z' ∨ '0' ≤ c ∧ c ≤ '9'

/-- **The halves of kinds**: ASCII letters, digits, underscores, hyphens and dots, with a letter or a
digit at both ends. -/
structure IsKindPart (name : String) : Prop where
  characters : ∀ c ∈ name.toList, IsLetterOrDigit c ∨ c = '_' ∨ c = '-' ∨ c = '.'
  first : ∃ c, name.toList.head? = some c ∧ IsLetterOrDigit c
  last : ∃ c, name.toList.getLast? = some c ∧ IsLetterOrDigit c

/-- Letters and digits are told by their numbers. -/
theorem isAlphanumeric_iff {c : Char} : isAlphanumeric c = true ↔ IsLetterOrDigit c := by
  have hle : ∀ a b : Char, a ≤ b ↔ a.toNat ≤ b.toNat := fun a b => by
    rw [Char.le_def, UInt32.le_iff_toNat_le]
    rfl
  simp only [isAlphanumeric, IsLetterOrDigit, hle, Bool.or_eq_true, Bool.and_eq_true,
    decide_eq_true_eq, Char.reduceToNat]
  omega

/-- An end of a text is a letter or a digit. -/
theorem getD_isAlphanumeric_iff {c? : Option Char} :
    (c?.map isAlphanumeric).getD false = true ↔ ∃ c, c? = some c ∧ IsLetterOrDigit c := by
  cases c? with
  | none => simp
  | some c => simp [isAlphanumeric_iff]

/-- **What passes the check** are the halves of kinds. -/
theorem validate_eq_ok_iff_isKindPart {name : String} :
    validate name = .ok () ↔ IsKindPart name := by
  rw [validate_eq_ok_iff, hasGoodEnds, Bool.and_eq_true, getD_isAlphanumeric_iff,
    getD_isAlphanumeric_iff]
  simp only [isKindChar, Bool.or_eq_true, isAlphanumeric_iff, beq_iff_eq, or_assoc]
  constructor
  · rintro ⟨⟨hfirst, hlast⟩, hall⟩
    exact ⟨hall, hfirst, hlast⟩
  · rintro ⟨hall, hfirst, hlast⟩
    exact ⟨⟨hfirst, hlast⟩, hall⟩

/-- **The names under which a pass may write** for a vendor: those of its specifications, and those
under which they are written first. -/
inductive IsPassName (vendor : String) : String → Prop
  | last {className : String} (hvendor : IsKindPart vendor) (hclass : IsKindPart className) :
      IsPassName vendor (vendor ++ "-" ++ className ++ ".yaml")
  | first {className : String} (hvendor : IsKindPart vendor) (hclass : IsKindPart className) :
      IsPassName vendor ("." ++ vendor ++ "-" ++ className ++ ".yaml.tmp")

namespace Spec

variable {spec : Spec}

/-- The name of the file of a valid kind. -/
theorem fileName_of_valid (hvendor : validate spec.vendor = .ok ())
    (hclass : validate spec.className = .ok ()) :
    spec.fileName = spec.vendor ++ "-" ++ spec.className ++ ".yaml" := by
  rw [← String.toList_inj, toList_fileName, kind]
  simp only [String.toList_append, List.map_append,
    map_hyphenate (slash_not_mem_of_validate hvendor),
    map_hyphenate (slash_not_mem_of_validate hclass)]
  rfl

/-- A specification of a valid kind has a name under which a pass may write. -/
theorem isPassName_fileName (hvendor : validate spec.vendor = .ok ())
    (hclass : validate spec.className = .ok ()) : IsPassName spec.vendor spec.fileName := by
  rw [fileName_of_valid hvendor hclass]
  exact .last (validate_eq_ok_iff_isKindPart.1 hvendor) (validate_eq_ok_iff_isKindPart.1 hclass)

/-- So has the file in which it is written first. -/
theorem isPassName_temporaryName (hvendor : validate spec.vendor = .ok ())
    (hclass : validate spec.className = .ok ()) : IsPassName spec.vendor spec.temporaryName := by
  have hname : spec.temporaryName = "." ++ spec.vendor ++ "-" ++ spec.className ++ ".yaml.tmp" := by
    rw [temporaryName, fileName_of_valid hvendor hclass, ← String.toList_inj]
    simp only [String.toList_append, List.append_assoc]
    rfl
  rw [hname]
  exact .first (validate_eq_ok_iff_isKindPart.1 hvendor) (validate_eq_ok_iff_isKindPart.1 hclass)

end Spec

namespace Store

/-! ### Requests inside the directory -/

/-- The paths that a request names. -/
def requestedPaths : Request → List String
  | .createAll path => [path]
  | .write path _ => [path]
  | .rename old new => [old, new]
  | .remove path => [path]

/-- **A place of a pass**: an entry of the directory that the path of the specifications leads to,
under a name of the pass. -/
def IsPassPlace (made : FileTree) (c : Config) (place : Location) : Prop :=
  ∃ above name, made.base c.cdiRoot = .ok above ∧ IsPassName c.cdiVendor name ∧
    place = above ++ [.text name]

/-- **Requests that stay inside the directory**, from one tree on. -/
inductive Inside (made : FileTree) (c : Config) : FileTree → List Request → Prop
  | nil (t : FileTree) : Inside made c t []
  /-- A request names files of the pass, changes no place but theirs, and leaves a tree from which the
  others stay inside. -/
  | cons {t : FileTree} {request : Request} {rest : List Request}
      (hnames : ∀ path ∈ requestedPaths request, ∃ name, IsPassName c.cdiVendor name ∧
        path = Path.join c.cdiRoot name)
      (hplaces : ∀ place, (t.perform request).find? place ≠ t.find? place → IsPassPlace made c place)
      (hrest : Inside made c (t.perform request) rest) : Inside made c t (request :: rest)

variable {made t : FileTree} {c : Config} {spec : Spec} {temporary place : Location}

/-- Requests stay inside if the first ones do, and the others after them. -/
theorem Inside.append {before after : List Request} (hbefore : Inside made c t before)
    (hafter : Inside made c (t.replay before) after) : Inside made c t (before ++ after) := by
  induction hbefore with
  | nil t => exact hafter
  | cons hnames hplaces _ ih => exact .cons hnames hplaces (ih hafter)

/-- **Requests that stay inside change nothing outside.** -/
theorem Inside.changes {requests : List Request} (hinside : Inside made c t requests)
    (hchange : (t.replay requests).find? place ≠ t.find? place) : IsPassPlace made c place := by
  induction hinside with
  | nil t => exact absurd rfl hchange
  | @cons t request rest _ hplaces _ ih =>
    by_cases hfirst : (t.perform request).find? place = t.find? place
    · exact ih (hfirst ▸ hchange)
    · exact hplaces place hfirst

/-! ### One specification -/

section One

variable (hvendor : validate spec.vendor = .ok ()) (hclass : validate spec.className = .ok ())
  (hconfig : spec.vendor = c.cdiVendor) (hnarrows : made.Narrows t)

include hvendor hclass hconfig hnarrows

/-- The first file of a specification is at a place of the pass. -/
theorem isPassPlace_temporary
    (hresolve : t.resolve .entry (temporaryPath c.cdiRoot spec) = .ok temporary) :
    IsPassPlace made c temporary := by
  obtain ⟨-, above, hbase, -, -, hplace⟩ :=
    (resolve_join_eq_ok_iff (Spec.slash_not_mem_temporaryName spec)
      (Spec.component?_temporaryName spec)).1 (resolve_temporaryPath_of_narrows hnarrows hresolve)
  exact ⟨above, _, hbase, hconfig ▸ Spec.isPassName_temporaryName hvendor hclass, hplace⟩

/-- So is the last one. -/
theorem isPassPlace_place (hresolve : t.resolve .entry (specPath c.cdiRoot spec) = .ok place) :
    IsPassPlace made c place := by
  obtain ⟨-, above, hbase, -, -, hplace⟩ :=
    (resolve_join_eq_ok_iff (Spec.slash_not_mem_fileName spec)
      (Spec.component?_fileName spec)).1 (resolve_specPath_of_narrows hnarrows hresolve)
  exact ⟨above, _, hbase, hconfig ▸ Spec.isPassName_fileName hvendor hclass, hplace⟩

/-- What a change to the first file changes is a place of the pass. -/
theorem isPassPlace_of_change {t' t'' : FileTree}
    (hresolve : t.resolve .entry (temporaryPath c.cdiRoot spec) = .ok temporary)
    (hothers : ∀ other, other ≠ temporary → t''.find? other = t'.find? other)
    (hchange : t''.find? place ≠ t'.find? place) : IsPassPlace made c place := by
  have hplace : place = temporary := by
    by_contra hother
    exact hchange (hothers place hother)
  exact hplace ▸ isPassPlace_temporary hvendor hclass hconfig hnarrows hresolve

/-- **The requests of a specification stay inside**, if no link stands under its first name. -/
theorem inside_specRequests
    (hlink : ∀ target, t.readLink (temporaryPath c.cdiRoot spec) ≠ .ok target) :
    Inside made c t (specRequests t c.cdiRoot spec) := by
  have hfirst : ∃ name, IsPassName c.cdiVendor name ∧
      temporaryPath c.cdiRoot spec = Path.join c.cdiRoot name :=
    ⟨_, hconfig ▸ Spec.isPassName_temporaryName hvendor hclass, rfl⟩
  have hlast : ∃ name, IsPassName c.cdiVendor name ∧
      specPath c.cdiRoot spec = Path.join c.cdiRoot name :=
    ⟨_, hconfig ▸ Spec.isPassName_fileName hvendor hclass, rfl⟩
  cases hwrite : t.write (temporaryPath c.cdiRoot spec) (.text spec.toYaml) with
  | error cause =>
    rw [specRequests_of_unwritten hwrite]
    refine .cons (List.forall_mem_singleton.2 hfirst) (fun place hchange => ?_) (.nil _)
    rw [perform_firstRequest_of_unwritten hwrite] at hchange
    exact absurd rfl hchange
  | ok written =>
    obtain ⟨temporary, htemporary, hidle, rfl⟩ := written_of_write hlink hwrite
    obtain ⟨place, hplace⟩ := exists_resolve_specPath htemporary
    have hrename := rename_of_set htemporary hidle (.text spec.toYaml) hvendor hplace
    have hwritten : ∀ other,
        (t.perform (firstRequest c.cdiRoot spec)).find? other ≠ t.find? other →
          IsPassPlace made c other := by
      intro other hchange
      rw [perform_firstRequest hwrite] at hchange
      exact isPassPlace_of_change hvendor hclass hconfig hnarrows htemporary
        (fun _ hother => find?_set_of_ne hother) hchange
    by_cases hdirectory : t.find? place = some .directory
    · rw [if_pos hdirectory] at hrename
      rw [specRequests_of_unrenamed hwrite hrename]
      refine .cons (List.forall_mem_singleton.2 hfirst) hwritten (.cons
        (List.forall_mem_cons.2 ⟨hfirst, List.forall_mem_singleton.2 hlast⟩)
        (fun other hchange => ?_)
        (.cons (List.forall_mem_singleton.2 hfirst) (fun other hchange => ?_) (.nil _)))
      · rw [perform_firstRequest hwrite, perform_lastRequest_of_unrenamed hrename] at hchange
        exact absurd rfl hchange
      · rw [perform_firstRequest hwrite, perform_lastRequest_of_unrenamed hrename,
          ← discard_eq_perform, discard_set htemporary hidle, cleared] at hchange
        exact isPassPlace_of_change hvendor hclass hconfig hnarrows htemporary
          (fun _ hother => find?_erase_of_ne hother) hchange
    · rw [if_neg hdirectory] at hrename
      rw [specRequests_of_renamed hwrite hrename]
      refine .cons (List.forall_mem_singleton.2 hfirst) hwritten (.cons
        (List.forall_mem_cons.2 ⟨hfirst, List.forall_mem_singleton.2 hlast⟩)
        (fun other hchange => ?_) (.nil _))
      rw [perform_firstRequest hwrite, perform_lastRequest hrename] at hchange
      by_cases hother : other = place
      · exact hother ▸ isPassPlace_place hvendor hclass hconfig hnarrows hplace
      · rw [find?_set_of_ne hother, cleared] at hchange
        exact isPassPlace_of_change hvendor hclass hconfig hnarrows htemporary
          (fun _ hother => find?_erase_of_ne hother) hchange

end One

/-- Writing a specification makes no directory and no link. -/
theorem narrows_writeSpec {s : Store} {cdiRoot : String} (hvendor : validate spec.vendor = .ok ())
    (hlink : ∀ target, s.tree.readLink (temporaryPath cdiRoot spec) ≠ .ok target) :
    s.tree.Narrows (s.writeSpec cdiRoot spec).1.tree := by
  obtain ⟨cause, -, hresult⟩ | ⟨temporary, place, htemporary, hplace, -,
    ⟨-, hresult⟩ | ⟨-, hresult⟩⟩ := writeSpec_cases hvendor hlink
  · rw [hresult]
    exact .refl s.tree
  · rw [hresult]
    exact narrows_of_cleared (temporary_ne_nil htemporary) _
  · rw [hresult]
    exact (narrows_of_cleared (temporary_ne_nil htemporary) _).trans
      (narrows_set_file (place_ne_nil hplace) _)

/-! ### A pass -/

/-- **The requests of a plan stay inside**, if no link stands under the first name of one of its
specifications. -/
theorem inside_planRequests {s : Store} {snapshot : Snapshot}
    (hvendor : validate c.cdiVendor = .ok ()) (entries : List (String × Scope))
    (hlink : ∀ spec ∈ specsOf snapshot c entries, validate spec.className = .ok () →
      ∀ target, made.readLink (temporaryPath c.cdiRoot spec) ≠ .ok target)
    (hnarrows : made.Narrows s.tree) :
    Inside made c s.tree (s.planRequests snapshot c entries) := by
  induction entries generalizing s with
  | nil => exact .nil s.tree
  | cons entry rest ih =>
    obtain ⟨className, scope⟩ := entry
    cases hclass : validate className with
    | error fault =>
      rw [planRequests_of_invalid hclass]
      exact .nil s.tree
    | ok _ =>
    cases hspec : Spec.build? snapshot c className scope with
    | none =>
      rw [planRequests_of_none hclass hspec]
      rw [specsOf_cons_of_none hspec] at hlink
      exact ih hlink hnarrows
    | some spec =>
      rw [specsOf_cons_of_some hspec] at hlink
      obtain ⟨hhere, hrest⟩ := List.forall_mem_cons.1 hlink
      obtain ⟨hconfig, hname⟩ := Spec.kind_of_build? hspec
      have hvendor' : validate spec.vendor = .ok () := hconfig ▸ hvendor
      have hclass' : validate spec.className = .ok () := hname ▸ hclass
      have hlink' := readLink_ne_of_narrows hnarrows (hhere hclass')
      have hone := inside_specRequests hvendor' hclass' hconfig hnarrows hlink'
      have hreplay := replay_specRequests s c.cdiRoot spec
      have hnarrows' := hnarrows.trans (narrows_writeSpec hvendor' hlink')
      rcases hwrite : s.writeSpec c.cdiRoot spec with ⟨s', result⟩
      rw [hwrite] at hreplay hnarrows'
      cases result with
      | error e =>
        rw [planRequests_of_error hclass hspec hwrite]
        exact hone
      | ok path =>
        rw [planRequests_of_ok hclass hspec hwrite]
        refine hone.append ?_
        rw [hreplay]
        exact ih hrest hnarrows'

/-- **A pass stays in its directory.** -/
structure StaysInside (s : Store) (snapshot : Snapshot) (c : Config) : Prop where
  /-- Its requests account for what it leaves. -/
  replay : s.tree.replay (s.requests snapshot c) = (s.writeAll snapshot c).1.tree
  /-- It requests nothing, or to make the directory, and then only what stays inside. -/
  requests : s.requests snapshot c = [] ∨ ∃ rest,
    s.requests snapshot c = .createAll c.cdiRoot :: rest ∧
      Inside (s.tree.createAll c.cdiRoot).1 c (s.tree.createAll c.cdiRoot).1 rest
  /-- Making the directory adds it and those above it that are missing, and changes nothing else. -/
  adds : AddsDirectories (Path.ancestors c.cdiRoot) s.tree (s.tree.createAll c.cdiRoot).1
  /-- Where the pass leaves something else than is there once the directory is made, is one of its
  places. -/
  changes : s.requests snapshot c ≠ [] → ∀ place,
    (s.writeAll snapshot c).1.tree.find? place ≠
      (s.tree.createAll c.cdiRoot).1.find? place →
        IsPassPlace (s.tree.createAll c.cdiRoot).1 c place
  /-- Specifications of different classes have different files, if their names are valid. -/
  files : ∀ a ∈ specsOf snapshot c (plan snapshot c), ∀ b ∈ specsOf snapshot c (plan snapshot c),
    IsKindPart a.className → IsKindPart b.className → a.className ≠ b.className →
      a.fileName ≠ b.fileName

/-- What a pass requests, if it requests anything. -/
theorem requests_cases {s : Store} {snapshot : Snapshot}
    (hlink : ∀ spec ∈ specsOf snapshot c (plan snapshot c), validate spec.className = .ok () →
      ∀ target, (s.tree.createAll c.cdiRoot).1.readLink (temporaryPath c.cdiRoot spec) ≠ .ok target) :
    s.requests snapshot c = [] ∨ ∃ rest,
      s.requests snapshot c = .createAll c.cdiRoot :: rest ∧
        Inside (s.tree.createAll c.cdiRoot).1 c (s.tree.createAll c.cdiRoot).1 rest := by
  rw [Store.requests]
  by_cases hempty : snapshot.isEmpty = true
  · rw [if_pos hempty]
    exact .inl rfl
  rw [if_neg hempty]
  cases hvendor : validate c.cdiVendor with
  | error fault => exact .inl rfl
  | ok _ =>
    refine .inr ⟨_, rfl, ?_⟩
    rcases hmake : s.tree.createAll c.cdiRoot with ⟨made, result⟩
    rw [hmake] at hlink
    cases result with
    | error cause => exact .nil made
    | ok _ =>
      exact inside_planRequests (s := { s with tree := made }) hvendor (plan snapshot c) hlink
        (.refl made)

/-- A host without files has no links once a directory was made. -/
theorem readLink_createAll_empty (path : String) (r : Route) (target : Text.Octets) :
    (FileTree.empty.createAll path).1.readLink r ≠ .ok target := by
  have hgrows := (addsDirectories_createAll .empty path).grows
  cases hresolve : (FileTree.empty.createAll path).1.resolve .entry r with
  | error cause =>
    rw [readLink, hresolve]
    intro hlink
    cases hlink
  | ok place =>
    refine readLink_ne_ok hresolve (fun other hfind => ?_) target
    obtain hsame | ⟨-, hdirectory⟩ := hgrows.entries place
    · rw [hsame, find?] at hfind
      split at hfind <;> cases hfind
    · cases hdirectory.symm.trans hfind

/-- An alias that leads out of the directory. -/
def hostileAlias : Config :=
  { gpuAlias := some "gpu", switchAlias := some "../../etc/cron.d/x", cdiRoot := "/cdi" }

end Store

end GpuPassthrough.Cdi
