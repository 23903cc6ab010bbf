import GpuPassthrough.Proofs.Isolation.KeyNumbers

/-!
# The Order of Keys

The order of keys is a total one, so that sorting puts the keys of a snapshot in one order, however
they were found. It goes by the numbers of the keys, not by their digits, and where the numbers are
equal the texts decide, so that it tells all keys apart.

## Main results

* `UnitKey.compare_of_number_lt`: the order goes by the numbers.
* `UnitKey.pairwise_sort`, `UnitKey.sort_perm`: what sorting keys does.
* `UnitKey.pairwise_lt_sort`: keys without repetition ascend strictly.
* `UnitKey.sort_eq_of_perm`: it does not matter in which order they were.
-/

namespace GpuPassthrough

namespace UnitKey

/-! ### Comparing -/

/-- The order of keys compares their numbers and then the texts. -/
theorem compare_eq_compareLex : compare = compareLex (compareOn number) Ord.compare := rfl

/-- The order of keys is a total one. -/
instance : Std.TransCmp compare := compare_eq_compareLex ▸ inferInstance

/-- A key that does not come after one that does not come after a third does not come after the
third. -/
theorem le_trans (a b c : String) (hab : le a b = true) (hbc : le b c = true) : le a c = true :=
  Std.TransCmp.isLE_trans hab hbc

/-- Of two keys one does not come after the other. -/
theorem le_total (a b : String) : (le a b || le b a) = true := by
  rw [le, le, ← compare_swap a b]
  cases compare a b <;> rfl

/-- Keys neither of which comes after the other are one key. -/
theorem le_antisymm {a b : String} (hab : le a b = true) (hba : le b a = true) : a = b := by
  rw [le, ← compare_swap a b] at hba
  rw [le] at hab
  refine eq_of_compare_eq ?_
  cases hcompare : compare a b with
  | eq => rfl
  | lt => simp [hcompare] at hba
  | gt => simp [hcompare] at hab

/-- Keys that follow one another have numbers that do. -/
theorem number_le_of_le {a b : String} (hle : le a b = true) : number a ≤ number b :=
  Nat.isLE_compare.1 (Ordering.isLE_then_iff_and.1 hle).1

/-- **A key with a smaller number comes first.** -/
theorem compare_of_number_lt {a b : String} (hlt : number a < number b) : compare a b = .lt := by
  rw [compare, Nat.compare_eq_lt.2 hlt]
  rfl

/-- A key does not come before itself. -/
theorem ne_of_compare_eq_lt {a b : String} (hlt : compare a b = .lt) : a ≠ b := by
  rintro rfl
  cases hlt.symm.trans Std.ReflCmp.compare_self

/-- A key that does not come after another one comes before it. -/
theorem compare_eq_lt_of_le {a b : String} (hle : le a b = true) (hne : a ≠ b) :
    compare a b = .lt := by
  rw [le] at hle
  cases hcompare : compare a b with
  | lt => rfl
  | eq => exact absurd (eq_of_compare_eq hcompare) hne
  | gt =>
    rw [hcompare] at hle
    cases hle

/-! ### Sorting -/

/-- **Sorted keys ascend.** -/
theorem pairwise_sort (keys : List String) :
    (sort keys).Pairwise fun a b => le a b = true :=
  List.pairwise_mergeSort le_trans le_total keys

/-- Sorting keeps every key as often as it is there. -/
theorem sort_perm (keys : List String) : (sort keys).Perm keys := List.mergeSort_perm keys le

/-- **Keys without repetition ascend strictly** when they are sorted. -/
theorem pairwise_lt_sort {keys : List String} (hnodup : keys.Nodup) :
    (sort keys).Pairwise fun a b => compare a b = .lt :=
  (pairwise_sort keys).imp₂ (fun _ _ => compare_eq_lt_of_le)
    ((sort_perm keys).nodup_iff.2 hnodup)

/-- **Sorting forgets in which order the keys were.** -/
theorem sort_eq_of_perm {keys others : List String} (hperm : keys.Perm others) :
    sort keys = sort others :=
  ((sort_perm keys).trans (hperm.trans (sort_perm others).symm)).eq_of_pairwise
    (fun _ _ _ _ => le_antisymm) (pairwise_sort keys) (pairwise_sort others)

/-! ### The keys of groups -/

/-- The key of a group has nothing but digits. -/
theorem isDigit_of_mem_toString {n : Nat} {c : Char} (hc : c ∈ (toString n).toList) :
    c.isDigit = true := by
  rw [Nat.toString_eq_ofList_toDigits, String.toList_ofList] at hc
  exact Nat.isDigit_of_mem_toDigits (by decide) (by decide) hc

/-- The keys of groups are told apart by their numbers. -/
theorem toString_inj {m n : Nat} : toString m = toString n ↔ m = n := by
  refine ⟨fun heq => ?_, congrArg toString⟩
  have hm := Text.isNumeral_toString m
  rw [heq] at hm
  exact hm.unique (by decide) (by decide) (Text.isNumeral_toString n)

end UnitKey

end GpuPassthrough
