import GpuPassthrough.Text.Decimal
import GpuPassthrough.Text.Numeral

/-!
# Resolution of Plain Scalars

A plain scalar of a YAML document may stand for something else than its text: null, a truth value,
or a number. A text that would be read so has to be quoted, and so has a numeral with leading zeros,
which some readers take for a number.
-/

namespace GpuPassthrough.Yaml

/-- The spellings of null. -/
def nullSpellings : List String := ["null", "Null", "NULL", "~"]

/-- The spellings of truth values. -/
def truthSpellings : List String := ["true", "True", "TRUE", "false", "False", "FALSE"]

/-- The spellings of infinity, without a sign. -/
def infinitySpellings : List String := [".inf", ".Inf", ".INF"]

/-- The spellings of what is not a number. -/
def nanSpellings : List String := [".nan", ".NaN", ".NAN"]

/-- Whether a text is one of some spellings. -/
def isSpelled (spellings : List String) (s : List Char) : Bool :=
  spellings.any fun spelling => spelling.toList == s

/-- Whether all characters are digits below a limit and their value is below another. -/
def isNumeralBelow (radix limit : Nat) (s : List Char) : Bool :=
  s.all (fun c => (Text.digit? radix c).isSome) && (Text.readNumeral radix limit s).toBool

/-- Whether a text is a numeral with a mark of its radix, below a limit. -/
def isMarkedNumeral (limit : Nat) : List Char → Bool
  | '0' :: 'x' :: digits => isNumeralBelow 16 limit digits
  | '0' :: 'o' :: digits => isNumeralBelow 8 limit digits
  | '0' :: 'b' :: digits => isNumeralBelow 2 limit digits
  | _ => false

/-- Whether a text is a marked numeral of 128 bits: unsigned, with a plus sign, or with a minus
sign and no more than 2¹²⁷. -/
def isMarkedInteger : List Char → Bool
  | '+' :: rest => isMarkedNumeral (Nat.pow 2 128) rest
  | '-' :: rest => isMarkedNumeral (Nat.pow 2 127 + 1) rest
  | s => isMarkedNumeral (Nat.pow 2 128) s

/-- Whether a text is at least two digits of which the first is zero, with or without a sign. -/
def hasLeadingZero (s : List Char) : Bool :=
  match Text.dropSign s with
  | '0' :: c :: rest => (c :: rest).all Char.isDigit
  | _ => false

/-- From here on a number rounds to infinity as a 64-bit float. -/
def floatLimit : Nat := Nat.pow 2 1024 - Nat.pow 2 970

/-- Whether a decimal is finite as a 64-bit float. The count of digits decides but near the limit.
-/
def isFinite (d : Text.Decimal) : Bool :=
  let mantissa := (d.whole ++ d.fraction).dropWhile (· == '0')
  let scale := d.exponent - d.fraction.length
  let magnitude := scale + mantissa.length
  if mantissa.isEmpty || magnitude ≤ 308 then true
  else if magnitude > 310 then false
  else if 0 ≤ scale then Text.digitsValue mantissa * Nat.pow 10 scale.toNat < floatLimit
  else Text.digitsValue mantissa < floatLimit * Nat.pow 10 (-scale).toNat

/-- Whether a text without a plus sign is a finite decimal. -/
def isFiniteDecimal (s : List Char) : Bool :=
  let unsigned := match s with
    | '-' :: rest => rest
    | s => s
  match Text.Decimal.read? unsigned with
  | some d => isFinite d
  | none => false

/-- Whether a text is a decimal number, infinite or no number. -/
def isFloat : List Char → Bool
  | '+' :: rest =>
    match rest with
    | '-' :: _ => false
    | rest => isSpelled infinitySpellings rest || isFiniteDecimal rest
  | '-' :: rest => isSpelled infinitySpellings rest || isFiniteDecimal ('-' :: rest)
  | s => isSpelled infinitySpellings s || isSpelled nanSpellings s || isFiniteDecimal s

/-- Whether a plain scalar would be taken for something else than its text. -/
def resolves (s : List Char) : Bool :=
  s.isEmpty || isSpelled nullSpellings s || isSpelled truthSpellings s || isMarkedInteger s ||
    hasLeadingZero s || isFloat s

end GpuPassthrough.Yaml
