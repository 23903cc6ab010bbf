import GpuPassthrough.Pattern.Bracket
import GpuPassthrough.Pattern.Group

/-!
# Usable Patterns

Whether a text is a pattern, and one that can be matched character by character without a look at
the neighbours: a test for the edge of a word among all letters needs such a look. Counted
repetitions have braces, and a pattern is never followed to a closing brace here, so a brace that
would open one is a fault.
-/

namespace GpuPassthrough.Pattern

/-- Why a text is no usable pattern. -/
inductive Fault where
  | malformed
  /-- It tests for the edge of a word among all letters. -/
  | wordEdge
  deriving DecidableEq

/-- The wording of a fault. -/
def Fault.message : Fault → String
  | .malformed => "error building NFA"
  | .wordEdge =>
    "unsupported regex feature for DFAs: cannot build DFAs for regexes with Unicode word " ++
      "boundaries; switch to ASCII word boundaries, or heuristically enable Unicode word " ++
      "boundaries or use a different regex engine"

/-- Patterns do not nest deeper. -/
def heightLimit : Nat := 250

/-- The parts of a pattern side by side, and how deep the last one nests if it can be repeated. -/
structure Sequence where
  parts : Row := {}
  last : Option Nat := none
  deriving DecidableEq

/-- The sequence with one more part. -/
def Sequence.push (s : Sequence) (height : Nat) : Sequence := ⟨s.parts.push height, some height⟩

/-- The sequence with a change of modes, which cannot be repeated. -/
def Sequence.pushSetting (s : Sequence) : Sequence := ⟨s.parts.push 0, none⟩

/-- The sequence with its last part repeated, if there is one. -/
def Sequence.repeat? (s : Sequence) : Option Sequence :=
  s.last.map fun height =>
    ⟨{ s.parts with deepest := max s.parts.deepest (height + 1) }, some (height + 1)⟩

/-- What stands outside of an open group: the modes there, the alternatives before the one that the
group is in, and that one so far. -/
structure Context where
  modes : Modes := {}
  alternatives : Row := {}
  sequence : Sequence := {}
  deriving DecidableEq

/-- What was read of a pattern: the innermost open group, what stands outside of it from the inside
out, the names of groups, and whether there is a test for the edge of a word. -/
structure Reading where
  here : Context := {}
  outer : List Context := []
  names : List (List Char) := []
  testsWords : Bool := false
  deriving DecidableEq

namespace Reading

/-- How deep the innermost open group nests. -/
def height (r : Reading) : Nat :=
  (r.here.alternatives.push r.here.sequence.parts.height).height

/-- The reading with one more part. -/
def push (r : Reading) (height : Nat) : Reading :=
  { r with here := { r.here with sequence := r.here.sequence.push height } }

/-- The reading with the last part repeated. -/
def repeat? (r : Reading) : Option Reading :=
  r.here.sequence.repeat?.map fun sequence =>
    { r with here := { r.here with sequence := sequence } }

/-- The reading behind a bar between alternatives. -/
def alternate (r : Reading) : Reading :=
  let alternatives := r.here.alternatives.push r.here.sequence.parts.height
  { r with here := ⟨r.here.modes, alternatives, {}⟩ }

/-- The reading behind an opening parenthesis. No two groups have one name. -/
def enter? (r : Reading) : Opening → Option Reading
  | .setting modes =>
    some { r with here := ⟨modes, r.here.alternatives, r.here.sequence.pushSetting⟩ }
  | .group modes name =>
    if name.any r.names.contains then none
    else some { r with
      here := ⟨modes, {}, {}⟩
      outer := r.here :: r.outer
      names := name.toList ++ r.names }

/-- The reading behind a closing parenthesis. -/
def leave? (r : Reading) : Option Reading :=
  match r.outer with
  | [] => none
  | context :: outer => some ({ r with here := context, outer := outer }.push (r.height + 1))

/-- The reading behind an escape. -/
def pushEscape (r : Reading) (e : Escape) : Reading :=
  let r := r.push 0
  { r with testsWords := r.testsWords || (e == .wordEdge && r.here.modes.unicode) }

/-- A text behind a mark of repetition, which a question mark makes match as little as possible. -/
def afterRepetition : List Char → List Char
  | '?' :: rest => rest
  | s => s

/-- Reads a part of a pattern from its first character on. -/
def step? (r : Reading) (c : Char) (rest : List Char) : Option (Reading × List Char) :=
  let m := r.here.modes
  if c == '(' then
    (Opening.read? m rest).bind fun (opening, rest) => (r.enter? opening).map (·, rest)
  else if c == ')' then r.leave?.map (·, rest)
  else if c == '|' then some (r.alternate, rest)
  else if c == '[' then (Bracket.read? m rest).map fun (height, rest) => (r.push height, rest)
  else if c == '?' || c == '*' || c == '+' then r.repeat?.map (·, afterRepetition rest)
  else if c == '\x7b' then none
  else if c == '\\' then (Escape.read? m rest).map fun (e, rest) => (r.pushEscape e, rest)
  else if c == '.' && !m.unicode then none
  else some (r.push 0, rest)

/-- Reads the rest of a pattern. Every step reads a character, so as many steps suffice. -/
def run? : Nat → Reading → List Char → Option Reading
  | 0, _, _ => none
  | steps + 1, r, s =>
    match r.here.modes.skip s with
    | [] => some r
    | c :: rest => (r.step? c rest).bind fun (r, rest) => run? steps r rest

end Reading

/-- Whether a text is a usable pattern. -/
def check (s : List Char) : Except Fault Unit :=
  match Reading.run? (s.length + 1) {} s with
  | none => .error .malformed
  | some r =>
    if !r.outer.isEmpty || heightLimit < r.height then .error .malformed
    else if r.testsWords then .error .wordEdge
    else .ok ()

end GpuPassthrough.Pattern
