/-!
# White Space

The 25 characters that Unicode calls white space. Device names collapse runs of them, and numbers
read from files are trimmed of them at both ends.

## Main results

* `isWhitespace_of_ascii`: every blank that core's ASCII class knows is white space here.
-/

namespace GpuPassthrough.Unicode

/-- The Unicode property White_Space. -/
def isWhitespace (c : Char) : Bool :=
  let n := c.toNat
  (9 ≤ n && n ≤ 13) || n == 0x20 || n == 0x85 || n == 0xA0 || n == 0x1680 ||
    (0x2000 ≤ n && n ≤ 0x200A) || n == 0x2028 || n == 0x2029 || n == 0x202F || n == 0x205F ||
    n == 0x3000

/-- Text without the white space at its start and end. -/
def trim (s : List Char) : List Char :=
  ((s.dropWhile isWhitespace).reverse.dropWhile isWhitespace).reverse

/-- Every blank of the ASCII class is white space. -/
theorem isWhitespace_of_ascii {c : Char} (h : c.isWhitespace = true) : isWhitespace c = true := by
  simp only [Char.isWhitespace, Bool.or_eq_true, decide_eq_true_eq] at h
  rcases h with ((rfl | rfl) | rfl) | rfl <;> decide

end GpuPassthrough.Unicode
