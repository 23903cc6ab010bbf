/-!
# Ranges of Code Points

A property of characters is stored as the list of the ranges of code points that have it.

## Main results

* `toNat_ofNat_or`: the number of a character that was made from a number.
-/

namespace GpuPassthrough.Unicode

/-- Whether a code point lies in one of the closed ranges of a table. -/
def inRanges (table : List (Nat × Nat)) (n : Nat) : Bool :=
  table.any fun range => range.1 ≤ n && n ≤ range.2

/-- A character has the number that it was made from, or zero where that is no code point. -/
theorem toNat_ofNat_or (n : Nat) : (Char.ofNat n).toNat = n ∨ (Char.ofNat n).toNat = 0 := by
  by_cases hvalid : n.isValidChar
  · rw [Char.ofNat, dif_pos hvalid]
    exact .inl rfl
  · rw [Char.ofNat, dif_neg hvalid]
    exact .inr rfl

end GpuPassthrough.Unicode
