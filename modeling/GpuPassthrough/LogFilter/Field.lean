import GpuPassthrough.LogFilter.Fault
import GpuPassthrough.Text.Decimal

/-!
# Fields of Log Filters

A directive can ask for spans with a field, and for a value of it: a number, or whatever a pattern
describes. The truth values are patterns of themselves.
-/

namespace GpuPassthrough.LogFilter

/-- The spellings of numbers that are not decimals, in lower case. -/
def specialNumbers : List String := ["inf", "infinity", "nan"]

/-- Whether a text is a number: a decimal, infinity or what is no number, with or without a sign. -/
def isNumber (s : List Char) : Bool :=
  let unsigned := Text.dropSign s
  (Text.Decimal.read? unsigned).isSome ||
    specialNumbers.contains (String.ofList (unsigned.map lower))

/-- Checks the value of a field. -/
def checkValue (s : List Char) : Except Fault Unit :=
  if isNumber s then .ok () else (Pattern.check s).mapError .field

/-- Checks a field: a name and, behind an equals sign, a value up to the next one. -/
def checkField (s : List Char) : Except Fault Unit :=
  match s.dropWhile (· != '=') with
  | [] => .ok ()
  | _ :: rest => checkValue (rest.takeWhile (· != '='))

end GpuPassthrough.LogFilter
