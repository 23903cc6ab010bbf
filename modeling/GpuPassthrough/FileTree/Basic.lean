import GpuPassthrough.Text.Octets

/-!
# File Trees

A file system as a value: what stands at each location. A location is the list of names from the
root down; the root itself is always a directory.

## Main results

* `find?_set_self`, `find?_set_of_ne`: placing an entry changes one location.
* `find?_erase_self`, `find?_erase_of_ne`: so does taking one away.
-/

namespace GpuPassthrough

open Text (Octets)

/-- What can stand at a location. -/
inductive Entry where
  | directory
  | file (content : Octets)
  | link (target : Octets)
  | socket
  deriving DecidableEq

/-- The names from the root down to a place. -/
abbrev Location := List Octets

/-- A file system, and the directory that relative paths start from. -/
structure FileTree where
  entries : List (Location × Entry)
  workingDirectory : Location

namespace FileTree

/-- A file system with nothing but its root. -/
def empty : FileTree := ⟨[], []⟩

/-- What stands at a location. -/
def find? (t : FileTree) (place : Location) : Option Entry :=
  if place = [] then some .directory else t.entries.lookup place

/-- Puts an entry at a location, in place of what stood there. -/
def set (t : FileTree) (place : Location) (entry : Entry) : FileTree :=
  { t with entries := (place, entry) :: t.entries.filter fun other => other.1 ≠ place }

/-- Takes away what stands at a location. -/
def erase (t : FileTree) (place : Location) : FileTree :=
  { t with entries := t.entries.filter fun other => other.1 ≠ place }

/-- The names that stand directly in a directory. -/
def children (t : FileTree) (place : Location) : List Octets :=
  t.entries.filterMap fun other =>
    if other.1.dropLast = place ∧ other.1 ≠ [] then other.1.getLast? else none

/-- Looking up a place among entries at other places only finds nothing. -/
theorem lookup_filter_self (entries : List (Location × Entry)) (place : Location) :
    (entries.filter fun other => other.1 ≠ place).lookup place = none := by
  induction entries with
  | nil => rfl
  | cons entry rest ih =>
    rw [List.filter_cons]
    split
    · next h =>
      have hentry : entry.1 ≠ place := of_decide_eq_true h
      have hne : (place == entry.1) = false := beq_false_of_ne (Ne.symm hentry)
      rw [show entry = (entry.1, entry.2) from rfl, List.lookup_cons, hne]
      exact ih
    · exact ih

/-- Leaving out the entries of one place does not change what is found at another. -/
theorem lookup_filter_of_ne (entries : List (Location × Entry)) {place other : Location}
    (h : other ≠ place) :
    (entries.filter fun entry => entry.1 ≠ place).lookup other = entries.lookup other := by
  induction entries with
  | nil => rfl
  | cons entry rest ih =>
    rw [List.filter_cons]
    split
    · rw [show entry = (entry.1, entry.2) from rfl, List.lookup_cons, List.lookup_cons, ih]
    · next hentry =>
      have heq : entry.1 = place := by simpa using hentry
      have hne : (other == entry.1) = false := by simp [heq, h]
      rw [ih, show entry = (entry.1, entry.2) from rfl, List.lookup_cons, hne]

/-- A placed entry is found where it was placed. -/
@[simp] theorem find?_set_self {t : FileTree} {place : Location} {entry : Entry}
    (h : place ≠ []) : (t.set place entry).find? place = some entry := by
  simp [find?, set, h]

/-- Placing an entry changes no other location. -/
theorem find?_set_of_ne {t : FileTree} {place other : Location} {entry : Entry}
    (h : other ≠ place) : (t.set place entry).find? other = t.find? other := by
  have hne : (other == place) = false := by simp [h]
  simp only [find?, set, List.lookup_cons, hne]
  rw [lookup_filter_of_ne _ h]

/-- Nothing is left where an entry was taken away. -/
@[simp] theorem find?_erase_self {t : FileTree} {place : Location} (h : place ≠ []) :
    (t.erase place).find? place = none := by
  simp only [find?, erase, h, if_false]
  exact lookup_filter_self t.entries place

/-- Taking an entry away changes no other location. -/
theorem find?_erase_of_ne {t : FileTree} {place other : Location} (h : other ≠ place) :
    (t.erase place).find? other = t.find? other := by
  simp only [find?, erase]
  rw [lookup_filter_of_ne _ h]

end FileTree

end GpuPassthrough
