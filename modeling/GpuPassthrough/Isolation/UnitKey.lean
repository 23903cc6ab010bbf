import GpuPassthrough.Text.Numeral

/-!
# Unit Keys

An isolation unit is known by a key: the number of its group, or the name of a handle such as
`vfio3`. Keys are ordered by the number in them and, where that is equal, as texts.

## Main results

* `compare_swap`: the order does not depend on which key comes first.
* `eq_of_compare_eq`: only equal keys compare as equal.
-/

namespace GpuPassthrough.UnitKey

/-- An ASCII letter of either case. -/
def isLetter (c : Char) : Bool :=
  let n := c.toNat
  (65 ≤ n && n ≤ 90) || (97 ≤ n && n ≤ 122)

/-- The number in a key: what follows its leading letters, or zero where that is no number below
2⁶⁴. -/
def number (key : String) : Nat :=
  match Text.readNumeral 10 UInt64.size (key.toList.dropWhile isLetter) with
  | .ok n => n
  | .error _ => 0

/-- Keys by number, then as texts. -/
def compare (a b : String) : Ordering :=
  (Ord.compare (number a) (number b)).then (Ord.compare a b)

/-- Whether a key does not come after another. -/
def le (a b : String) : Bool := (compare a b).isLE

/-- Keys in ascending order. -/
def sort (keys : List String) : List String := keys.mergeSort le

/-- Only equal keys compare as equal. -/
theorem eq_of_compare_eq {a b : String} (h : compare a b = .eq) : a = b := by
  simp only [compare, Ordering.then_eq_eq] at h
  exact Std.LawfulEqOrd.eq_of_compare h.2

/-- The order does not depend on which key comes first. -/
theorem compare_swap (a b : String) : (compare a b).swap = compare b a := by
  simp only [compare, Ordering.swap_then]
  rw [← Std.OrientedOrd.eq_swap, ← Std.OrientedOrd.eq_swap]

end GpuPassthrough.UnitKey
