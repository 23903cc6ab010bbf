import GpuPassthrough.FileTree.Operations
import GpuPassthrough.Proofs.FileTree.Directory
import GpuPassthrough.Proofs.Path
import GpuPassthrough.Proofs.Text.Octets
import Mathlib.Data.List.Nodup
import Mathlib.Data.Option.Basic

/-!
# Listings

A directory lists the names of its entries, in any order. Two trees in which the same things stand
give the same answers, except that a directory may list its names in another order.

## Main results

* `mem_children_iff`: a name is listed exactly if something stands under it.
* `Matches.resolve`, `Matches.readText`, `Matches.readLink`: the order of entries does not show.
* `Matches.list_perm`: except in listings.
-/

namespace GpuPassthrough.FileTree

open Text (Octets)

variable {t t' : FileTree}

/-! ### Names in a directory -/

/-- **A name as the system hands it out**: known as text where it is text, and not a longer path. -/
structure IsFileName (name : Octets) : Prop where
  decoded : name.IsDecoded
  single : ∀ s, name = .text s → Path.IsName s

/-- A text that is a name is one as octets. -/
theorem isFileName_text {s : String} (hname : Path.IsName s) : IsFileName (.text s) :=
  ⟨trivial, fun _ heq => Octets.text.inj heq ▸ hname⟩

/-- **A file system as there can be one**: one entry at a location, each of whose names is one. -/
structure IsWellFormed (t : FileTree) : Prop where
  distinct : (t.entries.map Prod.fst).Nodup
  names : ∀ entry ∈ t.entries, ∀ name ∈ entry.1, IsFileName name

/-- A tree whose locations are texts is well-formed if they are names, and no location twice. -/
theorem isWellFormed_of_texts {entries : List (List String × Entry)} {workingDirectory : Location}
    (hdistinct : (entries.map Prod.fst).Nodup)
    (hnames : ∀ entry ∈ entries, ∀ name ∈ entry.1, Path.IsName name) :
    IsWellFormed ⟨entries.map (Prod.map (List.map .text) id), workingDirectory⟩ where
  distinct := by
    have hinjective : Function.Injective (List.map Octets.text) :=
      List.map_injective_iff.2 fun _ _ => Octets.text.inj
    have hmapped := hdistinct.map hinjective
    rw [List.map_map] at hmapped ⊢
    exact hmapped
  names := by
    intro entry hentry name hname
    obtain ⟨given, hgiven, rfl⟩ := List.mem_map.1 hentry
    obtain ⟨s, hs, rfl⟩ := List.mem_map.1 hname
    exact isFileName_text (hnames given hgiven s hs)

/-- The children of a place are the last names of the locations right below it. -/
theorem children_eq (t : FileTree) (place : Location) :
    t.children place = (t.entries.map Prod.fst).filterMap fun location =>
      if location.dropLast = place ∧ location ≠ [] then location.getLast? else none := by
  rw [children, List.filterMap_map]
  rfl

/-- The location right below a place whose last name is given. -/
theorem lastBelow_eq_some_iff {place location : Location} {name : Octets} :
    (if location.dropLast = place ∧ location ≠ [] then location.getLast? else none) = some name ↔
      location = place ++ [name] := by
  constructor
  · intro hlast
    split at hlast
    · next hbelow =>
      rw [← List.dropLast_append_getLast? name hlast, hbelow.1]
    · cases hlast
  · rintro rfl
    simp

/-- **A name is listed exactly if something stands under it.** -/
theorem mem_children_iff {place : Location} {name : Octets} :
    name ∈ t.children place ↔ t.find? (place ++ [name]) ≠ none := by
  have hne : place ++ [name] ≠ [] := by simp
  rw [find?, if_neg hne, ← Option.isSome_iff_ne_none, List.lookup_isSome_iff, children_eq,
    List.mem_filterMap]
  simp only [lastBelow_eq_some_iff, exists_eq_right, List.mem_map, beq_iff_eq]
  exact exists_congr fun entry => and_congr_right fun _ => eq_comm

/-- No name is listed twice. -/
theorem IsWellFormed.nodup_children (hwell : t.IsWellFormed) (place : Location) :
    (t.children place).Nodup := by
  rw [children_eq]
  refine hwell.distinct.filterMap fun first second name hfirst hsecond => ?_
  rw [lastBelow_eq_some_iff.1 hfirst, lastBelow_eq_some_iff.1 hsecond]

/-- What is listed are names. -/
theorem IsWellFormed.isFileName (hwell : t.IsWellFormed) {place : Location} {name : Octets}
    (hname : name ∈ t.children place) : IsFileName name := by
  rw [children_eq, List.mem_filterMap] at hname
  obtain ⟨location, hlocation, hlast⟩ := hname
  obtain ⟨entry, hentry, rfl⟩ := List.mem_map.1 hlocation
  refine hwell.names entry hentry name ?_
  rw [lastBelow_eq_some_iff.1 hlast]
  exact List.mem_append_right _ (List.mem_singleton_self name)

/-- A directory that was listed is one, and its names are its children. -/
theorem exists_of_list {r : Route} {names : List Octets} (hlist : t.list r = .ok names) :
    ∃ place, t.resolve .target r = .ok place ∧ t.find? place = some .directory ∧
      names = t.children place := by
  rw [list] at hlist
  cases hresolve : t.resolve .target r with
  | error cause =>
    rw [hresolve] at hlist
    cases hlist
  | ok place =>
    rw [hresolve] at hlist
    simp only [bind, Except.bind] at hlist
    split at hlist
    · next hplace => exact ⟨place, rfl, hplace, (Except.ok.inj hlist).symm⟩
    · cases hlist
    · cases hlist

/-- What can be listed is there. -/
theorem isPresent_of_list {r : Route} {names : List Octets} (hlist : t.list r = .ok names) :
    t.isPresent r = true := by
  obtain ⟨place, hresolve, hplace, -⟩ := exists_of_list hlist
  rw [isPresent, stat, hresolve]
  simp only [bind, Except.bind, hplace]
  rfl

/-! ### Trees in which the same things stand -/

/-- **The same things stand in two trees.** Their entries may come in another order. -/
structure Matches (t t' : FileTree) : Prop where
  workingDirectory : t'.workingDirectory = t.workingDirectory
  entries : ∀ place, t'.find? place = t.find? place

namespace Matches

/-- Every tree matches itself. -/
theorem refl (t : FileTree) : t.Matches t := ⟨rfl, fun _ => rfl⟩

/-- Matching goes both ways. -/
theorem symm (hmatches : t.Matches t') : t'.Matches t :=
  ⟨hmatches.workingDirectory.symm, fun place => (hmatches.entries place).symm⟩

/-- A walk that goes on alike takes the same turns. -/
theorem walkNames (hmatches : t.Matches t') (goal : Goal)
    (jump : Location → List Octets → Except IoFailure Location) (place : Location)
    (names : List Octets) :
    FileTree.walkNames t' goal jump place names = FileTree.walkNames t goal jump place names := by
  induction names generalizing place with
  | nil => rw [walkNames_nil, walkNames_nil]
  | cons name rest ih =>
    have hturn : t'.turn goal place name rest = t.turn goal place name rest := by
      simp only [turn, hmatches.entries]
    rw [walkNames_cons, walkNames_cons, hturn]
    simp only [ih]

/-- Walks end alike. -/
theorem walk (hmatches : t.Matches t') (goal : Goal) (links : Nat) (place : Location)
    (names : List Octets) :
    t'.walk goal links place names = t.walk goal links place names := by
  induction links generalizing place names with
  | zero => exact hmatches.walkNames goal _ place names
  | succ links ih =>
    rw [FileTree.walk, FileTree.walk, hmatches.walkNames]
    exact congrArg (fun jump => FileTree.walkNames t goal jump place names) (funext₂ ih)

/-- **Paths lead to the same places.** -/
theorem resolve (hmatches : t.Matches t') (goal : Goal) (r : Route) :
    t'.resolve goal r = t.resolve goal r := by
  rw [resolve_eq, resolve_eq, hmatches.workingDirectory]
  simp only [hmatches.walk]

/-- Paths lead to the same things. -/
theorem stat (hmatches : t.Matches t') (r : Route) : t'.stat r = t.stat r := by
  simp only [FileTree.stat, hmatches.resolve, hmatches.entries]

/-- Files hold the same texts. -/
theorem readText (hmatches : t.Matches t') (r : Route) : t'.readText r = t.readText r := by
  simp only [FileTree.readText, read, hmatches.stat]

/-- Links have the same targets. -/
theorem readLink (hmatches : t.Matches t') (r : Route) : t'.readLink r = t.readLink r := by
  simp only [FileTree.readLink, hmatches.resolve, hmatches.entries]

/-- A directory has the same names. -/
theorem children_perm (hmatches : t.Matches t') (hwell : t.IsWellFormed) (hwell' : t'.IsWellFormed)
    (place : Location) : (t'.children place).Perm (t.children place) :=
  (List.perm_ext_iff_of_nodup (hwell'.nodup_children place) (hwell.nodup_children place)).2
    fun name => by rw [mem_children_iff, mem_children_iff, hmatches.entries]

/-- **A directory lists the same names**, in some order. -/
theorem list_perm (hmatches : t.Matches t') (hwell : t.IsWellFormed) (hwell' : t'.IsWellFormed)
    {r : Route} {names : List Octets} (hlist : t.list r = .ok names) :
    ∃ names', t'.list r = .ok names' ∧ names'.Perm names := by
  obtain ⟨place, hresolve, hplace, rfl⟩ := exists_of_list hlist
  refine ⟨t'.children place, ?_, hmatches.children_perm hwell hwell' place⟩
  rw [list, hmatches.resolve, hresolve]
  simp only [bind, Except.bind, hmatches.entries, hplace]

/-- A path is listed in both trees or in none. -/
theorem rel_list (hmatches : t.Matches t') (hwell : t.IsWellFormed) (hwell' : t'.IsWellFormed)
    (r : Route) : Option.Rel List.Perm (t.list r).toOption (t'.list r).toOption := by
  cases hlist : t.list r with
  | ok names =>
    obtain ⟨names', hlist', hperm⟩ := hmatches.list_perm hwell hwell' hlist
    rw [hlist']
    exact .some hperm.symm
  | error cause =>
    cases hlist' : t'.list r with
    | ok names' =>
      obtain ⟨names, hnames, -⟩ := hmatches.symm.list_perm hwell' hwell hlist'
      cases hlist.symm.trans hnames
    | error cause' => exact .none

end Matches

end GpuPassthrough.FileTree
