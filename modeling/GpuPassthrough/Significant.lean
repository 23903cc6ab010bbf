/-!
# Significant Bits

The nearest number that has no more than some count of significant binary digits, the rest being
zeros. Of two that are equally near, the one whose last significant digit is zero is taken.

## Main results

* `nearest_le`, `le_nearest`: the nearest number is at most half a last place away.
-/

namespace GpuPassthrough.Significant

/-- The value of the last place that a number with so many significant digits has. -/
def lastPlace (bits n : Nat) : Nat := Nat.pow 2 (n.log2 + 1 - bits)

/-- The nearest number with so many significant digits. -/
def nearest (bits n : Nat) : Nat :=
  let unit := lastPlace bits n
  let twice := 2 * (n % unit)
  let places :=
    if unit < twice ∨ twice = unit ∧ n / unit % 2 = 1 then n / unit + 1 else n / unit
  unit * places

/-- The nearest number is at most half a last place above. -/
theorem nearest_le (bits n : Nat) : 2 * nearest bits n ≤ 2 * n + lastPlace bits n := by
  have hdiv := Nat.div_add_mod n (lastPlace bits n)
  simp only [nearest]
  generalize lastPlace bits n = unit at *
  split
  · have hmul : unit * (n / unit + 1) = unit * (n / unit) + unit := Nat.mul_succ ..
    omega
  · omega

/-- The nearest number is at most half a last place below. -/
theorem le_nearest (bits n : Nat) : 2 * n ≤ 2 * nearest bits n + lastPlace bits n := by
  have hdiv := Nat.div_add_mod n (lastPlace bits n)
  have hpos : 0 < lastPlace bits n := Nat.two_pow_pos _
  have hmod := Nat.mod_lt n hpos
  simp only [nearest]
  generalize lastPlace bits n = unit at *
  split
  · have hmul : unit * (n / unit + 1) = unit * (n / unit) + unit := Nat.mul_succ ..
    omega
  · omega

end GpuPassthrough.Significant
