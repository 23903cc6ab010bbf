/-!
# JSON Values

A JSON document as a value. Numbers keep their spelling, and strings keep the halves of surrogate
pairs that stand alone: a document may hold them where nobody reads the string.

## Main results

* `text?_scalars`: a string without lone surrogates is a text.
-/

namespace GpuPassthrough

/-- A unit of a JSON string. -/
inductive JsonUnit where
  | scalar (c : Char)
  | loneSurrogate (half : Nat)
  deriving DecidableEq

/-- A JSON document. -/
inductive Json where
  | null
  | bool (value : Bool)
  | number (spelling : List Char)
  | string (units : List JsonUnit)
  | array (elements : List Json)
  | object (members : List (List JsonUnit × Json))

namespace JsonUnit

/-- The characters of a string, unless it holds a lone surrogate. -/
def chars? : List JsonUnit → Option (List Char)
  | [] => some []
  | scalar c :: rest => (chars? rest).map (c :: ·)
  | loneSurrogate _ :: _ => none

/-- The text of a string, unless it holds a lone surrogate. -/
def text? (units : List JsonUnit) : Option String :=
  (chars? units).map String.ofList

/-- A string without lone surrogates is a text. -/
theorem text?_scalars (s : String) : text? (s.toList.map scalar) = some s := by
  have h : ∀ cs : List Char, chars? (cs.map scalar) = some cs := by
    intro cs
    induction cs with
    | nil => rfl
    | cons c rest ih => simp [chars?, ih]
  simp [text?, h]

end JsonUnit

namespace Json

/-- The number that a spelling of digits alone stands for. -/
def natural? : Json → Option Nat
  | number spelling =>
    if spelling.all Char.isDigit then
      some (spelling.foldl (fun n c => n * 10 + (c.toNat - 48)) 0)
    else none
  | _ => none

/-- The text that a string stands for. -/
def text? : Json → Option String
  | string units => JsonUnit.text? units
  | _ => none

end Json

end GpuPassthrough
