/-!
# Nesting

How deep the parts of a pattern nest. A single character does not nest; a group, a repetition and a
bracket are one level deeper than what they hold, and so are several parts side by side.
-/

namespace GpuPassthrough.Pattern

/-- Parts side by side: how many they are, and how deep the deepest of them nests. -/
structure Row where
  count : Nat := 0
  deepest : Nat := 0
  deriving DecidableEq

namespace Row

/-- The row with one more part. -/
def push (r : Row) (height : Nat) : Row := ⟨r.count + 1, max r.deepest height⟩

/-- How deep a row nests: several parts are one level deeper than they. -/
def height (r : Row) : Nat := if r.count ≤ 1 then r.deepest else r.deepest + 1

end Row

end GpuPassthrough.Pattern
