import GpuPassthrough.LogFilter.Field
import GpuPassthrough.Text.Slice
import GpuPassthrough.Unicode.Alphanumeric
import GpuPassthrough.Unicode.Whitespace

/-!
# Directives of Log Filters

A directive is a level, a target, or a target and a span with a level behind an equals sign; each of
the parts but one may be missing. Blanks around a directive do not belong to it, but its parts are
cut out of the text with its blanks at the places that they have without them. So blanks in front of
a directive of several parts move the parts.
-/

namespace GpuPassthrough.LogFilter

namespace Directive

/-- What a directive is in the middle of, with the place where it began. -/
inductive Stage where
  | start
  | target (place : Nat)
  | span (place : Nat)
  | field (place : Nat)
  | afterField
  | afterSpan
  | level (place : Nat)
  deriving DecidableEq

/-- Whether a character can start a target or a level. -/
def startsTarget (c : Char) : Bool :=
  c == '-' || c == ':' || c == '_' || Unicode.isAlphanumeric c

/-- The part of a text between two places. -/
def cut (s : List Char) (start stop : Nat) : Except Fault (List Char) :=
  match Text.slice? s start stop with
  | some part => .ok part
  | none => .error .insideCharacter

/-- Checks the field of a text between two places. -/
def checkFieldAt (s : List Char) (start stop : Nat) : Except Fault Unit := do
  let field ← cut s start stop
  if field.isEmpty then .error .malformed else checkField field

/-- The stage behind the character `c` at the place `n` of a directive that is written as `s`. -/
def Stage.next (s : List Char) (n : Nat) (c : Char) : Stage → Except Fault Stage
  | .start =>
    if c == '[' then .ok (.span (n + 1))
    else if startsTarget c then .ok (.target n)
    else .error .malformed
  | .target place =>
    if c == '=' then (cut s place n).map fun _ => .level (n + 1)
    else if c == '[' then (cut s place n).map fun _ => .span (n + 1)
    else .ok (.target place)
  | .span place =>
    if c == ']' then (cut s place n).map fun _ => .afterSpan
    else if c == '\x7b' then (cut s place n).map fun _ => .field (n + 1)
    else .ok (.span place)
  | .field place =>
    if c == '\x7d' then (checkFieldAt s place n).map fun _ => .afterField else .ok (.field place)
  | .afterField => if c == ']' then .ok .afterSpan else .error .malformed
  | .afterSpan => if c == '=' then .ok (.level (n + 1)) else .error .malformed
  | .level place => .ok (.level place)

/-- Checks what a directive that is written as `s` ends in. -/
def Stage.finish (s : List Char) : Stage → Except Fault Unit
  | .target place => (cut s place (Text.byteLength s)).map fun _ => ()
  | .level place => (cut s place (Text.byteLength s)).bind checkLevel
  | .afterSpan => .ok ()
  | _ => .error .malformed

/-- Checks the rest of a directive that is written as `s`, from the place `n` on. -/
def checkFrom (s : List Char) (n : Nat) (stage : Stage) : List Char → Except Fault Unit
  | [] => stage.finish s
  | c :: rest => (stage.next s n c).bind fun stage => checkFrom s (n + c.utf8Size) stage rest

/-- Checks a directive with the blanks around it. -/
def check (s : List Char) : Except Fault Unit := checkFrom s 0 .start (Unicode.trim s)

end Directive

end GpuPassthrough.LogFilter
