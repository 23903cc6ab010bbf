/-!
# Indexes

An index groups values under keys. New keys come last or, in a sorted index, at their place; the
values under a key stay in the order in which they were added.

## Main results

* `lookup_push_self`, `lookup_push_of_ne`: adding a value changes one group.
-/

namespace GpuPassthrough.Index

variable {α β : Type} [DecidableEq α]

/-- Adds a value under a key; a new key comes last. -/
def push (key : α) (value : β) : List (α × List β) → List (α × List β)
  | [] => [(key, [value])]
  | (other, values) :: rest =>
    if key = other then (other, values ++ [value]) :: rest
    else (other, values) :: push key value rest

/-- Adds a value under a key of a sorted index; a new key comes at its place. -/
def pushSorted (key : String) (value : β) : List (String × List β) → List (String × List β)
  | [] => [(key, [value])]
  | (other, values) :: rest =>
    if key = other then (other, values ++ [value]) :: rest
    else if key < other then (key, [value]) :: (other, values) :: rest
    else (other, values) :: pushSorted key value rest

/-- Adds a member to a sorted list without repeats. -/
def insertSorted (member : String) : List String → List String
  | [] => [member]
  | other :: rest =>
    if member = other then other :: rest
    else if member < other then member :: other :: rest
    else other :: insertSorted member rest

/-- The group of a key. -/
def group (key : α) (index : List (α × List β)) : List β := (index.lookup key).getD []

/-- Adding a value puts it last in the group of its key. -/
theorem lookup_push_self (key : α) (value : β) (index : List (α × List β)) :
    (push key value index).lookup key = some (group key index ++ [value]) := by
  induction index with
  | nil => simp [push, group]
  | cons head rest ih =>
    obtain ⟨other, values⟩ := head
    by_cases h : key = other
    · subst h; simp [push, group]
    · have hne : (key == other) = false := beq_false_of_ne h
      simp only [push, h, if_false, List.lookup_cons, hne, ih, group]

/-- Adding a value leaves the groups of other keys as they are. -/
theorem lookup_push_of_ne {key other : α} (h : other ≠ key) (value : β)
    (index : List (α × List β)) : (push key value index).lookup other = index.lookup other := by
  induction index with
  | nil => simp [push, List.lookup_cons, beq_false_of_ne h]
  | cons head rest ih =>
    obtain ⟨third, values⟩ := head
    by_cases h' : key = third
    · subst h'; simp [push, List.lookup_cons, beq_false_of_ne h]
    · simp [push, h', List.lookup_cons, ih]

end GpuPassthrough.Index
