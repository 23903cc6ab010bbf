import GpuPassthrough.Pattern.Check
import GpuPassthrough.Text.Numeral

/-!
# Faults of Log Filters

Why a text is no log filter, and which texts are levels.
-/

namespace GpuPassthrough.LogFilter

/-- Why a text is no log filter. -/
inductive Fault where
  /-- A directive does not have the form of one. -/
  | malformed
  /-- What stands behind the equals sign is no level. -/
  | level
  /-- The value of a field is no usable pattern. -/
  | field (fault : Pattern.Fault)
  /-- A part of a directive would begin or end inside a character. -/
  | insideCharacter
  deriving DecidableEq

/-- The wording of a fault. A part that ends inside a character is not reported but ends the
process. -/
def Fault.message : Fault → String
  | .malformed => "invalid filter directive"
  | .level =>
    "error parsing level filter: expected one of \"off\", \"error\", \"warn\", \"info\", " ++
      "\"debug\", \"trace\", or a number 0-5"
  | .field fault => "invalid field filter: " ++ fault.message
  | .insideCharacter => ""

/-- A character in lower case, if it is an ASCII letter. -/
def lower (c : Char) : Char :=
  if 65 ≤ c.toNat ∧ c.toNat ≤ 90 then Char.ofNat (c.toNat + 32) else c

/-- The names of the levels. -/
def levelNames : List String := ["off", "error", "warn", "info", "debug", "trace"]

/-- Whether a text is a level: a name in letters of either case, or a number up to five. -/
def isLevel (s : List Char) : Bool :=
  (Text.readNumeral 10 6 s).toBool || levelNames.contains (String.ofList (s.map lower))

/-- Checks what stands behind the equals sign of a directive: a level, or nothing. -/
def checkLevel (s : List Char) : Except Fault Unit :=
  if s.isEmpty || isLevel s then .ok () else .error .level

end GpuPassthrough.LogFilter
