import GpuPassthrough.Snapshot.Index
import Mathlib.Data.List.Nodup

/-!
# What an Index Holds

The entries of an index are its values, each with the key under which it is found. Adding a value
adds one entry, and nothing else changes, whether or not the keys are kept in order.

## Main results

* `entries_push`, `entries_pushSorted`: a value joins those that an index holds.
* `eraseDups_concat`: the values that have appeared, after one more.
* `lookup_of_mem`, `lookup_of_perm`: in an index without repeated keys a group is found under its key,
  wherever it stands.
* `mem_insertSorted`, `ascending_insertSorted`: the members of a sorted list with one more.
* `group_pushSorted_self`, `group_pushSorted_of_ne`: adding a value to a sorted index changes one
  group.
-/

namespace GpuPassthrough.Index

variable {α β : Type} [DecidableEq α]

/-! ### Keys -/

/-- A key is in an index exactly if its group can be looked up. -/
theorem lookup_isSome_iff {key : α} {index : List (α × β)} :
    (index.lookup key).isSome ↔ key ∈ index.map Prod.fst := by
  rw [List.lookup_isSome_iff, List.mem_map]
  constructor
  · rintro ⟨entry, hmem, hkey⟩
    exact ⟨entry, hmem, (eq_of_beq hkey).symm⟩
  · rintro ⟨entry, hmem, hkey⟩
    exact ⟨entry, hmem, beq_iff_eq.2 hkey.symm⟩

/-- A value adds its key, last, unless the key is there. -/
theorem keys_push (key : α) (value : β) (index : List (α × List β)) :
    (push key value index).map Prod.fst =
      if key ∈ index.map Prod.fst then index.map Prod.fst else index.map Prod.fst ++ [key] := by
  induction index with
  | nil => simp [push]
  | cons head rest ih =>
    obtain ⟨other, values⟩ := head
    by_cases hkey : key = other
    · simp [push, hkey]
    · simp only [push, hkey, if_false, List.map_cons, ih, List.mem_cons, false_or]
      split <;> rfl

/-- In an index without repeated keys a group is found under its key. -/
theorem lookup_of_mem {index : List (α × β)} (hnodup : (index.map Prod.fst).Nodup) {key : α}
    {value : β} (hmem : (key, value) ∈ index) : index.lookup key = some value := by
  induction index with
  | nil => cases hmem
  | cons head rest ih =>
    obtain ⟨hnew, hrest⟩ := List.nodup_cons.1 hnodup
    cases hmem with
    | head => rw [List.lookup_cons_self]
    | tail _ hmem =>
      have hne : key ≠ head.1 := by
        rintro rfl
        exact hnew (List.mem_map.2 ⟨_, hmem, rfl⟩)
      rw [List.lookup_cons, beq_false_of_ne hne]
      exact ih hrest hmem

/-- In an index without repeated keys it does not matter in which order the groups stand. -/
theorem lookup_of_perm {index other : List (α × β)} (hnodup : (index.map Prod.fst).Nodup)
    (hperm : other.Perm index) (key : α) : other.lookup key = index.lookup key := by
  have hkeys := hperm.map Prod.fst
  cases hlookup : index.lookup key with
  | none =>
    have hnot : key ∉ other.map Prod.fst := fun hmem => by
      have hsome := lookup_isSome_iff.2 (hkeys.mem_iff.1 hmem)
      rw [hlookup] at hsome
      cases hsome
    exact Option.not_isSome_iff_eq_none.1 (mt lookup_isSome_iff.1 hnot)
  | some value =>
    obtain ⟨before, after, hsplit, -⟩ := List.lookup_eq_some_iff.1 hlookup
    have hmem : (key, value) ∈ index := hsplit ▸ List.mem_append_right before List.mem_cons_self
    exact lookup_of_mem (hkeys.nodup_iff.2 hnodup) (hperm.mem_iff.2 hmem)

/-- A value adds itself, last, to those that have appeared, unless it is one of them. -/
theorem eraseDups_concat (values : List α) (value : α) :
    (values ++ [value]).eraseDups =
      if value ∈ values then values.eraseDups else values.eraseDups ++ [value] := by
  rw [List.eraseDups_append]
  split
  · next hmem => simp [List.removeAll, hmem]
  · next hnew => simp [List.removeAll, hnew, List.eraseDups_cons]

/-! ### Values -/

/-- The values of an index, each with its key. -/
def entries (index : List (α × List β)) : List (α × β) :=
  index.flatMap fun group => group.2.map (Prod.mk group.1)

/-- A value joins those that an index holds. -/
theorem entries_push (key : α) (value : β) (index : List (α × List β)) :
    (entries (push key value index)).Perm ((key, value) :: entries index) := by
  induction index with
  | nil => exact .refl _
  | cons head rest ih =>
    obtain ⟨other, values⟩ := head
    rw [push]
    split
    · next heq =>
      simp only [entries, List.flatMap_cons, List.map_append, List.map_singleton, List.append_assoc,
        heq]
      exact List.perm_middle
    · rw [entries, List.flatMap_cons, entries, List.flatMap_cons]
      exact (ih.append_left _).trans List.perm_middle

omit [DecidableEq α] in
/-- The values of an index without their keys. -/
theorem entries_map_snd (index : List (α × List β)) :
    (entries index).map Prod.snd = index.flatMap Prod.snd := by
  rw [entries, List.map_flatMap]
  refine List.flatMap_congr fun group _ => ?_
  rw [List.map_map]
  exact List.map_id _

omit [DecidableEq α] in
/-- A value is held under a key exactly if it is in a group of that key. -/
theorem mem_entries_iff {index : List (α × List β)} {key : α} {value : β} :
    (key, value) ∈ entries index ↔ ∃ values, (key, values) ∈ index ∧ value ∈ values := by
  rw [entries, List.mem_flatMap]
  constructor
  · rintro ⟨group, hgroup, hmem⟩
    obtain ⟨_, hvalue, heq⟩ := List.mem_map.1 hmem
    obtain ⟨rfl, rfl⟩ := Prod.mk.inj heq
    exact ⟨group.2, hgroup, hvalue⟩
  · rintro ⟨values, hgroup, hvalue⟩
    exact ⟨_, hgroup, List.mem_map_of_mem hvalue⟩

/-- A value joins those that a sorted index holds. -/
theorem entries_pushSorted (key : String) (value : β) (index : List (String × List β)) :
    (entries (pushSorted key value index)).Perm ((key, value) :: entries index) := by
  induction index with
  | nil => exact .refl _
  | cons head rest ih =>
    obtain ⟨other, values⟩ := head
    rw [pushSorted]
    split
    · next heq =>
      simp only [entries, List.flatMap_cons, List.map_append, List.map_singleton, List.append_assoc,
        heq]
      exact List.perm_middle
    · split
      · exact .refl _
      · rw [entries, List.flatMap_cons, entries, List.flatMap_cons]
        exact (ih.append_left _).trans List.perm_middle

/-- A sorted index has no group without values. -/
theorem ne_nil_of_mem_pushSorted {index : List (String × List β)}
    (hindex : ∀ group ∈ index, group.2 ≠ []) (key : String) (value : β) :
    ∀ group ∈ pushSorted key value index, group.2 ≠ [] := by
  induction index with
  | nil => simp [pushSorted]
  | cons head rest ih =>
    obtain ⟨other, values⟩ := head
    obtain ⟨hhead, hrest⟩ := List.forall_mem_cons.1 hindex
    rw [pushSorted]
    split
    · exact List.forall_mem_cons.2 ⟨by simp, hrest⟩
    · split
      · exact List.forall_mem_cons.2 ⟨by simp, hindex⟩
      · exact List.forall_mem_cons.2 ⟨hhead, ih hrest⟩

/-! ### Sorted lists -/

/-- The members of a sorted list with one more. -/
theorem mem_insertSorted {member other : String} {members : List String} :
    other ∈ insertSorted member members ↔ other = member ∨ other ∈ members := by
  induction members with
  | nil => simp [insertSorted]
  | cons first rest ih =>
    rw [insertSorted]
    split
    · next heq => simp [heq]
    · split
      · simp
      · simp only [List.mem_cons, ih]
        exact or_left_comm

/-- The members of a sorted list after some more were added. -/
theorem mem_foldl_insertSorted {other : String} (added members : List String) :
    other ∈ added.foldl (fun members member => insertSorted member members) members ↔
      other ∈ added ∨ other ∈ members := by
  induction added generalizing members with
  | nil => simp
  | cons member rest ih =>
    rw [List.foldl_cons, ih, mem_insertSorted, List.mem_cons]
    exact or_left_comm.trans or_assoc.symm

/-- A sorted list stays sorted, without repeats. -/
theorem ascending_insertSorted {members : List String} (hmembers : members.Pairwise (· < ·))
    (member : String) : (insertSorted member members).Pairwise (· < ·) := by
  induction members with
  | nil => simp [insertSorted]
  | cons first rest ih =>
    obtain ⟨hfirst, hrest⟩ := List.pairwise_cons.1 hmembers
    rw [insertSorted]
    split
    · exact hmembers
    · next hne =>
      split
      · next hlt =>
        refine List.pairwise_cons.2 ⟨fun other hother => ?_, hmembers⟩
        rcases List.mem_cons.1 hother with rfl | hother
        · exact hlt
        · exact String.lt_trans hlt (hfirst other hother)
      · next hnot =>
        refine List.pairwise_cons.2 ⟨fun other hother => ?_, ih hrest⟩
        rcases mem_insertSorted.1 hother with rfl | hother
        · exact Std.lt_of_le_of_ne (String.not_lt.1 hnot) (Ne.symm hne)
        · exact hfirst other hother

/-! ### Sorted indexes -/

/-- A value adds its key to those of a sorted index. -/
theorem keys_pushSorted (key : String) (value : β) (index : List (String × List β)) :
    (pushSorted key value index).map Prod.fst = insertSorted key (index.map Prod.fst) := by
  induction index with
  | nil => rfl
  | cons head rest ih =>
    obtain ⟨other, values⟩ := head
    simp only [pushSorted, List.map_cons, insertSorted]
    split
    · rfl
    · split
      · rfl
      · rw [List.map_cons, ih]

/-- Adding a value to a sorted index puts it last in the group of its key. -/
theorem group_pushSorted_self {index : List (String × List β)}
    (hkeys : (index.map Prod.fst).Pairwise (· < ·)) (key : String) (value : β) :
    group key (pushSorted key value index) = group key index ++ [value] := by
  induction index with
  | nil => simp [group, pushSorted]
  | cons head rest ih =>
    obtain ⟨other, values⟩ := head
    obtain ⟨hfirst, hrest⟩ := List.pairwise_cons.1 hkeys
    rw [pushSorted]
    split
    · next heq => simp [group, heq]
    · next hne =>
      split
      · next hlt =>
        -- All the keys come after the new one.
        have hnew : key ∉ ((other, values) :: rest).map Prod.fst := by
          rw [List.map_cons, List.mem_cons]
          rintro (heq | hmem)
          · exact hne heq
          · exact String.lt_irrefl key (String.lt_trans hlt (hfirst key hmem))
        have hnone := Option.not_isSome_iff_eq_none.1 (mt lookup_isSome_iff.1 hnew)
        simp only [group, hnone, List.lookup_cons_self, Option.getD_some, Option.getD_none,
          List.nil_append]
      · simp only [group, List.lookup_cons, beq_false_of_ne hne]
        exact ih hrest

/-- Adding a value to a sorted index leaves the groups of other keys as they are. -/
theorem group_pushSorted_of_ne {key other : String} (hne : other ≠ key) (value : β)
    (index : List (String × List β)) :
    group other (pushSorted key value index) = group other index := by
  induction index with
  | nil => simp [group, pushSorted, List.lookup_cons, beq_false_of_ne hne]
  | cons head rest ih =>
    obtain ⟨third, values⟩ := head
    rw [pushSorted]
    split
    · next heq => simp [group, List.lookup_cons, beq_false_of_ne (heq ▸ hne)]
    · split
      · simp [group, List.lookup_cons, beq_false_of_ne hne]
      · simp only [group, List.lookup_cons]
        split
        · rfl
        · exact ih

/-- In a sorted index a group is found under its key. -/
theorem group_of_mem {index : List (String × List β)}
    (hkeys : (index.map Prod.fst).Pairwise (· < ·)) {key : String} {values : List β}
    (hmem : (key, values) ∈ index) : group key index = values := by
  rw [group, lookup_of_mem hkeys.nodup hmem, Option.getD_some]

end GpuPassthrough.Index
