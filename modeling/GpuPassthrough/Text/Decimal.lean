/-!
# Decimals

Decimal numbers as text: digits before or after a point, or both, and an exponent behind the letter
`e` of either case. A sign in front is for the reader's user to deal with.

## Main results

* `digitsValue_append_digit`: a digit behind others counts once, and the others ten times.
-/

namespace GpuPassthrough.Text

/-- The digits of a decimal before and after its point, with the exponent. -/
structure Decimal where
  whole : List Char
  fraction : List Char
  exponent : Int

/-- The value of decimal digits. -/
def digitsValue (digits : List Char) : Nat :=
  digits.foldl (fun n c => n * 10 + (c.toNat - 48)) 0

/-- Reads an exponent after its mark. -/
def exponent? : List Char → Option Int
  | '-' :: digits =>
    if digits.all Char.isDigit && !digits.isEmpty then some (-(digitsValue digits : Int)) else none
  | '+' :: digits =>
    if digits.all Char.isDigit && !digits.isEmpty then some (digitsValue digits) else none
  | digits =>
    if digits.all Char.isDigit && !digits.isEmpty then some (digitsValue digits) else none

/-- Reads a decimal without a sign: digits before or after a point, or both, and an exponent. -/
def Decimal.read? (s : List Char) : Option Decimal :=
  let whole := s.takeWhile Char.isDigit
  let rest := s.dropWhile Char.isDigit
  let (fraction, rest) := match rest with
    | '.' :: rest => (rest.takeWhile Char.isDigit, rest.dropWhile Char.isDigit)
    | rest => ([], rest)
  if whole.isEmpty && fraction.isEmpty then none
  else match rest with
    | [] => some ⟨whole, fraction, 0⟩
    | c :: rest =>
      if c == 'e' || c == 'E' then (exponent? rest).map fun exponent => ⟨whole, fraction, exponent⟩
      else none

/-- A text without a sign in front. -/
def dropSign : List Char → List Char
  | '+' :: rest => rest
  | '-' :: rest => rest
  | s => s

/-- A digit behind others counts once, and the others ten times. -/
theorem digitsValue_append_digit (digits : List Char) (c : Char) :
    digitsValue (digits ++ [c]) = digitsValue digits * 10 + (c.toNat - 48) := by
  simp [digitsValue]

end GpuPassthrough.Text
