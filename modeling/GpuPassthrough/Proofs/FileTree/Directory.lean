import GpuPassthrough.FileTree.Operations
import GpuPassthrough.Proofs.FileTree.Walk
import GpuPassthrough.Proofs.Path

/-!
# The Entries of a Directory

A path that is a file name below a directory leads to the entry of that name in the directory that
the path of the directory leads to, and to no other place. What happens to an entry that is no
directory and no link does not change where such paths lead.

## Main results

* `resolve_join_eq_ok_iff`: where a file name below a directory leads.
* `resolve_join_of_no_link`: what is no link is found and written where its path leads.
* `Narrows.resolve_join`: where directories and links went, such a path does not lead elsewhere.
-/

namespace GpuPassthrough

open Text (Octets)

/-! ### Paths below a directory -/

/-- A file name is a name of an entry. -/
theorem FileTree.isEntryName_text {name : String}
    (hname : Path.component? name = some (.name name)) : FileTree.IsEntryName (.text name) where
  ne_dot h := by
    obtain rfl : name = "." := Octets.text.inj h
    cases hname
  ne_slash h := by
    obtain rfl : name = "" := Octets.text.inj h
    cases hname
  ne_dotDot h := by
    obtain rfl : name = ".." := Octets.text.inj h
    cases hname

namespace Route

variable {name : String} (hslash : '/' ∉ name.toList)
  (hname : Path.component? name = some (.name name))

include hslash hname

/-- The steps to a file below a directory are the names of the directory and that of the file. -/
theorem steps_join (directory : String) :
    (ofText (Path.join directory name)).steps = (ofText directory).names ++ [.text name] := by
  have hentry := FileTree.isEntryName_text hname
  have hne : name.toList ≠ [] := fun hnil => hentry.ne_slash (congrArg _ (String.toList_inj.1 hnil))
  have hslashed : (ofText (Path.join directory name)).slashed = false := by
    rw [ofText, beq_eq_false_iff_ne, Path.getLast?_join hslash hne]
    exact fun hlast => hslash (List.mem_of_getLast? hlast)
  obtain ⟨before, hdirectory, hpieces⟩ := Path.exists_pieces_join hslash directory
  have hnames : (ofText directory).names = namesOf (before.map .text) := by
    rw [ofText, namesOf, namesOf]
    obtain rfl | hempty := hdirectory
    · rfl
    · rw [hempty, List.map_append, List.filter_append]
      simp [slash]
  rw [steps, hslashed, if_neg Bool.false_ne_true, hnames, ofText, hpieces, namesOf, namesOf,
    List.map_append, List.filter_append, List.map_singleton, List.filter_singleton]
  simp [hentry.ne_slash]

end Route

namespace FileTree

/-- The directory that the path of a directory leads to, whether a slash ends it or not. -/
def base (t : FileTree) (directory : String) : Except IoFailure Location :=
  t.walk .target linkLimit (if Path.isAbsolute directory then [] else t.workingDirectory)
    (Route.ofText directory).names

/-- Why a path is refused before anything is looked up. -/
def refusal? (r : Route) : Option IoFailure :=
  if r.holdsNul then some .nulInName
  else if r.size = 0 then some .notFound
  else if r.size ≥ pathLimit then some .nameTooLong
  else none

/-- A path is taken if it has no NUL and a size within the limit. -/
theorem refusal?_eq_none_iff {r : Route} :
    refusal? r = none ↔ r.holdsNul = false ∧ r.size ≠ 0 ∧ r.size < pathLimit := by
  rw [refusal?]
  cases r.holdsNul with
  | true => simp
  | false =>
    by_cases hempty : r.size = 0
    · simp [hempty]
    · by_cases hsize : r.size ≥ pathLimit
      · simp [hempty, hsize, Nat.not_lt.2 hsize]
      · simp [hempty, hsize, Nat.not_le.1 hsize]

/-- A path that is not refused is walked. -/
theorem resolve_eq (t : FileTree) (goal : Goal) (r : Route) :
    t.resolve goal r =
      match refusal? r with
      | some cause => .error cause
      | none => t.walk goal linkLimit (if r.absolute then [] else t.workingDirectory) r.steps := by
  rw [resolve, refusal?]
  by_cases hnul : r.holdsNul = true
  · rw [if_pos hnul, if_pos hnul]
  rw [if_neg hnul, if_neg hnul]
  by_cases hempty : r.size = 0
  · rw [if_pos hempty, if_pos hempty]
  rw [if_neg hempty, if_neg hempty]
  by_cases hsize : r.size ≥ pathLimit
  · rw [if_pos hsize, if_pos hsize]
  · rw [if_neg hsize, if_neg hsize]

variable {t t' : FileTree} {goal : Goal} {name directory : String} {place : Location}
  (hslash : '/' ∉ name.toList) (hname : Path.component? name = some (.name name))

include hslash hname

/-- A file name below a directory leads to the entry of that name, unless the path is refused or a
link is followed there. -/
theorem resolve_join_of_taken (htaken : refusal? (Path.join directory name) = none)
    (hend : EndsAt t goal (.text name) (t.base directory)) :
    t.resolve goal (Path.join directory name) =
      (t.base directory).bind (t.entryIn (.text name)) := by
  have hstart : (Route.ofText (Path.join directory name)).absolute = Path.isAbsolute directory :=
    Path.isAbsolute_join (Path.not_isAbsolute hslash) directory
  rw [resolve_eq, htaken]
  dsimp only
  rw [hstart, Route.steps_join hslash hname]
  exact walk_concat (isEntryName_text hname) _ _ _ hend

/-- **A file name below a directory leads to the entry of that name.** -/
theorem resolve_join_eq_ok_iff :
    t.resolve .entry (Path.join directory name) = .ok place ↔
      refusal? (Path.join directory name) = none ∧ ∃ above, t.base directory = .ok above ∧
        t.find? above = some .directory ∧ (Octets.text name).size ≤ nameLimit ∧
        place = above ++ [.text name] := by
  have hway : ∀ way : Except IoFailure Location, way.bind (t.entryIn (.text name)) = .ok place ↔
      ∃ above, way = .ok above ∧ t.entryIn (.text name) above = .ok place := by
    intro way
    cases way <;> simp [Except.bind]
  simp only [← entryIn_eq_ok_iff, ← hway]
  cases htaken : refusal? (Path.join directory name) with
  | none =>
    rw [resolve_join_of_taken hslash hname htaken nofun]
    exact (and_iff_right rfl).symm
  | some cause =>
    rw [resolve_eq, htaken]
    exact ⟨nofun, fun h => nomatch h.1⟩

/-- **What is no link is found and written where its path leads.** -/
theorem resolve_join_of_no_link (goal : Goal)
    (hlink : ∀ target, t.readLink (Path.join directory name) ≠ .ok target) :
    t.resolve goal (Path.join directory name) = t.resolve .entry (Path.join directory name) := by
  cases htaken : refusal? (Path.join directory name) with
  | none =>
    have hentry : t.resolve .entry (Path.join directory name) =
        (t.base directory).bind (t.entryIn (.text name)) :=
      resolve_join_of_taken hslash hname htaken nofun
    rw [hentry]
    refine resolve_join_of_taken hslash hname htaken fun _ place target hplace hfind => ?_
    refine hlink target ?_
    rw [readLink, hentry, hplace]
    simp only [Bind.bind, Except.bind, hfind]
  | some cause => rw [resolve_eq, resolve_eq, htaken]

/-- Where the directory of a path is, the path leads where it led. -/
theorem resolve_join_of_base
    (hkeeps : ∀ above, t'.base directory = .ok above → t'.find? above = some .directory →
      t.base directory = .ok above ∧ t.find? above = some .directory)
    (hresolve : t'.resolve .entry (Path.join directory name) = .ok place) :
    t.resolve .entry (Path.join directory name) = .ok place := by
  obtain ⟨htaken, above, hbase, habove, hsize, hplace⟩ :=
    (resolve_join_eq_ok_iff hslash hname).1 hresolve
  obtain ⟨hbase', habove'⟩ := hkeeps above hbase habove
  exact (resolve_join_eq_ok_iff hslash hname).2
    ⟨htaken, above, hbase', habove', hsize, hplace⟩

omit hslash hname in
/-- Where directories and links went, the path of a directory does not lead elsewhere. -/
theorem Narrows.base (hnarrows : t.Narrows t') {above : Location}
    (hbase : t'.base directory = .ok above) (habove : t'.find? above = some .directory) :
    t.base directory = .ok above := by
  rw [FileTree.base, hnarrows.workingDirectory] at hbase
  exact hnarrows.walk hbase habove

/-- **Where directories and links went, a path does not lead elsewhere.** -/
theorem Narrows.resolve_join (hnarrows : t.Narrows t')
    (hresolve : t'.resolve .entry (Path.join directory name) = .ok place) :
    t.resolve .entry (Path.join directory name) = .ok place :=
  resolve_join_of_base hslash hname
    (fun above hbase habove => ⟨hnarrows.base hbase habove, hnarrows.directories above habove⟩)
    hresolve

/-- Paths below a directory that lead to one place have one name. -/
theorem eq_of_resolve_join {other : String} (hslash' : '/' ∉ other.toList)
    (hname' : Path.component? other = some (.name other))
    (hresolve : t.resolve .entry (Path.join directory name) = .ok place)
    (hresolve' : t.resolve .entry (Path.join directory other) = .ok place) : name = other := by
  obtain ⟨-, above, -, -, -, hplace⟩ := (resolve_join_eq_ok_iff hslash hname).1 hresolve
  obtain ⟨-, above', -, -, -, hplace'⟩ := (resolve_join_eq_ok_iff hslash' hname').1 hresolve'
  have hlast := congrArg List.getLast? (hplace.symm.trans hplace')
  rw [List.getLast?_concat, List.getLast?_concat] at hlast
  exact Octets.text.inj (Option.some.inj hlast)

omit hslash hname

/-- What is found in a tree with fewer entries was found in the other. -/
theorem Shrinks.resolve (hshrinks : t.Shrinks t') {r : Route} {entry : Entry}
    (hresolve : t'.resolve goal r = .ok place) (hfind : t'.find? place = some entry) :
    t.resolve goal r = .ok place := by
  rw [resolve_eq] at hresolve ⊢
  split at hresolve
  · cases hresolve
  · rw [hshrinks.workingDirectory] at hresolve
    exact hshrinks.walk hresolve hfind

/-- A tree shrinks where an entry is taken away. -/
theorem shrinks_erase (hne : place ≠ []) : t.Shrinks (t.erase place) where
  workingDirectory := rfl
  entries other entry hfind := by
    by_cases hother : other = place
    · rw [hother, find?_erase_self hne] at hfind
      cases hfind
    · rwa [find?_erase_of_ne hother] at hfind

/-! ### Entries that change -/

/-- Whether an entry does not count on the way of a walk: it is no directory and no link. -/
structure IsIdle (entry : Option Entry) : Prop where
  ne_directory : entry ≠ some .directory
  ne_link : ∀ target, entry ≠ some (.link target)

namespace Narrows

/-- A tree narrows to itself. -/
theorem refl (t : FileTree) : t.Narrows t := ⟨rfl, fun _ h => h, fun _ _ h => h⟩

/-- Narrowing twice is narrowing. -/
theorem trans {t'' : FileTree} (hfirst : t.Narrows t') (hsecond : t'.Narrows t'') :
    t.Narrows t'' where
  workingDirectory := hsecond.workingDirectory.trans hfirst.workingDirectory
  directories place h := hfirst.directories place (hsecond.directories place h)
  links place target h := hfirst.links place target (hsecond.links place target h)

/-- A tree narrows where one place changes to what does not count on a way. -/
theorem of_change (hdirectory : t'.workingDirectory = t.workingDirectory)
    (hothers : ∀ other, other ≠ place → t'.find? other = t.find? other)
    (hplace : IsIdle (t'.find? place)) : t.Narrows t' where
  workingDirectory := hdirectory
  directories other h := by
    by_cases hother : other = place
    · exact absurd (hother ▸ h) hplace.ne_directory
    · rwa [← hothers other hother]
  links other target h := by
    by_cases hother : other = place
    · exact absurd (hother ▸ h) (hplace.ne_link target)
    · rwa [← hothers other hother]

end Narrows

/-- What stands at a place that is no link is not read as one. -/
theorem readLink_ne_ok {r : Route} (hresolve : t.resolve .entry r = .ok place)
    (hfind : ∀ target, t.find? place ≠ some (.link target)) (target : Octets) :
    t.readLink r ≠ .ok target := by
  intro hlink
  rw [readLink, hresolve] at hlink
  simp only [Bind.bind, Except.bind] at hlink
  cases hplace : t.find? place with
  | none =>
    rw [hplace] at hlink
    cases hlink
  | some entry =>
    rw [hplace] at hlink
    cases entry with
    | link other => exact hfind other hplace
    | directory => cases hlink
    | file content => cases hlink
    | socket => cases hlink

/-- A file takes the place of what is no directory there. -/
theorem rename_of_file {old new : Route} {source target : Location} {content : Octets}
    (hold : t.resolve .entry old = .ok source) (hnew : t.resolve .entry new = .ok target)
    (hsource : t.find? source = some (.file content)) (hne : source ≠ target) :
    t.rename old new =
      if t.find? target = some .directory then .error .isDirectory
      else .ok ((t.erase source).set target (.file content)) := by
  rw [rename, hold, hnew]
  simp only [Bind.bind, Except.bind, hsource, if_neg hne]

end FileTree

end GpuPassthrough
