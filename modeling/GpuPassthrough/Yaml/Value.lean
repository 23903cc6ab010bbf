import GpuPassthrough.Yaml.Resolution

/-!
# Values of Scalars

What a scalar of a YAML document stands for. A quoted one stands for its text, and so does a plain
one, unless it is spelled like null, a truth value or a number. A number with a mark of its radix
has to fit into 128 bits, and a decimal one has to be finite as a 64-bit float.
-/

namespace GpuPassthrough.Yaml

/-- A scalar of a document, without its quotes. -/
structure Scalar where
  quoted : Bool
  text : List Char
  deriving DecidableEq

/-- What a scalar stands for. -/
inductive Value where
  | null
  | truth (holds : Bool)
  | integer (n : Int)
  | decimal (negative : Bool) (d : Text.Decimal)
  | infinity (negative : Bool)
  /-- What is not a number. -/
  | nan
  | text (s : List Char)

/-- The spellings of what is true. -/
def trueSpellings : List String := ["true", "True", "TRUE"]

/-- The spellings of what is false. -/
def falseSpellings : List String := ["false", "False", "FALSE"]

/-- Whether a text has a minus sign, and the text behind its sign. -/
def readSign : List Char → Bool × List Char
  | '-' :: rest => (true, rest)
  | '+' :: rest => (false, rest)
  | s => (false, s)

/-- A number with its sign. -/
def signed (negative : Bool) (n : Nat) : Int := if negative then -n else n

/-- The magnitudes of 128-bit numbers are below this limit. -/
def integerLimit (negative : Bool) : Nat :=
  if negative then Nat.pow 2 127 + 1 else Nat.pow 2 128

/-- Reads at least one digit. -/
def natural? (radix limit : Nat) : List Char → Option Nat
  | [] => none
  | digits => (Text.readDigits radix limit 0 digits).toOption

/-- Reads a number behind a mark of its radix. -/
def marked? (limit : Nat) : List Char → Option Nat
  | '0' :: 'x' :: digits => natural? 16 limit digits
  | '0' :: 'o' :: digits => natural? 8 limit digits
  | '0' :: 'b' :: digits => natural? 2 limit digits
  | _ => none

/-- Reads a finite decimal, which is an integer if it is nothing but digits. -/
def finite? (negative : Bool) (unsigned : List Char) : Option Value :=
  match Text.Decimal.read? unsigned with
  | none => none
  | some d =>
    if !isFinite d then none
    else if unsigned.all Char.isDigit then
      some (.integer (signed negative (Text.digitsValue unsigned)))
    else some (.decimal negative d)

/-- Reads a number. -/
def number? (s : List Char) : Option Value :=
  let (negative, unsigned) := readSign s
  match marked? (integerLimit negative) unsigned with
  | some n => some (.integer (signed negative n))
  | none =>
    if isSpelled infinitySpellings unsigned then some (.infinity negative)
    else if isSpelled nanSpellings s then some .nan
    else finite? negative unsigned

/-- What a plain scalar stands for. -/
def plainValue (s : List Char) : Value :=
  if s.isEmpty || isSpelled nullSpellings s then .null
  else if isSpelled trueSpellings s then .truth true
  else if isSpelled falseSpellings s then .truth false
  else (number? s).getD (.text s)

/-- What a scalar stands for. -/
def Scalar.value (s : Scalar) : Value := if s.quoted then .text s.text else plainValue s.text

/-- The text that a scalar stands for, if it stands for a text. -/
def Scalar.text? (s : Scalar) : Option (List Char) :=
  match s.value with
  | .text text => some text
  | _ => none

end GpuPassthrough.Yaml
