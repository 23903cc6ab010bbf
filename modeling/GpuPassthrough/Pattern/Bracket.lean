import GpuPassthrough.Pattern.Escape
import GpuPassthrough.Pattern.Row

/-!
# Brackets

A bracket describes one character: it lists characters, ranges of them and named classes, and may
nest and combine brackets by operators. Of a bracket only its nesting is kept.
-/

namespace GpuPassthrough.Pattern

/-- An open bracket: how deep what stands left of its last operator nests, the items behind it, and
whether dashes alone have come so far. -/
structure Bracket where
  left : Option Nat := none
  items : Row := {}
  isOpening : Bool := true
  deriving DecidableEq

namespace Bracket

/-- The bracket with one more item. -/
def push (b : Bracket) (height : Nat) : Bracket :=
  { b with items := b.items.push height, isOpening := false }

/-- How deep what a bracket holds nests. -/
def height (b : Bracket) : Nat :=
  match b.left with
  | none => b.items.height
  | some left => max left b.items.height + 1

/-- The bracket behind an operator. -/
def operate (b : Bracket) : Bracket := ⟨some b.height, {}, false⟩

end Bracket

/-- The names of classes of ASCII characters. -/
def classNames : List String :=
  ["alnum", "alpha", "ascii", "blank", "cntrl", "digit", "graph", "lower", "print", "punct",
    "space", "upper", "word", "xdigit"]

/-- Reads a named class behind its bracket, and whether it is negated. What is not such a class
opens a bracket of its own. -/
def readClassName? : List Char → Option (Bool × List Char)
  | ':' :: rest =>
    let (negated, rest) := match rest with
      | '^' :: rest => (true, rest)
      | rest => (false, rest)
    match rest.dropWhile (· != ':') with
    | ':' :: ']' :: after =>
      if classNames.contains (String.ofList (rest.takeWhile (· != ':'))) then some (negated, after)
      else none
    | _ => none
  | _ => none

/-- Reads an item of a bracket: a character, or several that an escape stands for. -/
def readItem? (m : Modes) : List Char → Option (Option Char × List Char)
  | [] => none
  | '\\' :: rest =>
    match Escape.read? m rest with
    | some (.literal c, rest) =>
      if m.unicode || c.toNat < 0x80 then some (some c, rest) else none
    | some (.several, rest) => some (none, rest)
    | _ => none
  | c :: rest => if m.unicode || c.toNat < 0x80 then some (some c, rest) else none

/-- Reads an item of a bracket, or a range between two characters. A dash in front of another dash
or of the closing bracket makes no range. -/
def readRange? (m : Modes) (s : List Char) : Option (List Char) :=
  match readItem? m s with
  | none => none
  | some (low, rest) =>
    match m.skip rest with
    | '-' :: after =>
      if m.ahead? after == some ']' || m.ahead? after == some '-' then some ('-' :: after)
      else match low, readItem? m (m.skip after) with
        | some low, some (some high, rest) => if low ≤ high then some rest else none
        | _, _ => none
    | rest => some rest

/-- Opens a bracket. A negated one holds more than ASCII, so only patterns of characters have it. -/
def openBracket? (m : Modes) (s : List Char) : Option (List Char) :=
  match m.skip s with
  | '^' :: rest => if m.unicode then some (m.skip rest) else none
  | rest => some rest

/-- Whether a text starts with an operator between brackets: meet, difference, or what is in one of
them only. -/
def startsOperator : List Char → Bool
  | '&' :: '&' :: _ => true
  | '-' :: '-' :: _ => true
  | '~' :: '~' :: _ => true
  | _ => false

/-- Reads up to the end of the outermost open bracket `b` inside of `outer`: how deep it nests, and
what follows it. Every step reads a character, so as many steps suffice. -/
def readBrackets? (m : Modes) : Nat → Bracket → List Bracket → List Char → Option (Nat × List Char)
  | 0, _, _, _ => none
  | steps + 1, b, outer, s =>
    match m.skip s with
    | [] => none
    | c :: rest =>
      if b.isOpening && c == '-' then
        readBrackets? m steps { b with items := b.items.push 0 } outer rest
      else if b.isOpening && b.items.count == 0 && c == ']' then
        readBrackets? m steps (b.push 0) outer rest
      else if c == '[' then
        match readClassName? rest with
        | some (negated, rest) =>
          if negated && !m.unicode then none else readBrackets? m steps (b.push 0) outer rest
        | none => (openBracket? m rest).bind (readBrackets? m steps {} (b :: outer))
      else if c == ']' then
        match outer with
        | [] => some (b.height + 1, rest)
        | next :: outer => readBrackets? m steps (next.push (b.height + 1)) outer rest
      else if startsOperator (c :: rest) then
        readBrackets? m steps b.operate outer (rest.drop 1)
      else (readRange? m (c :: rest)).bind (readBrackets? m steps (b.push 0) outer)

/-- Reads a bracket behind its opening: how deep it nests, and what follows it. -/
def Bracket.read? (m : Modes) (s : List Char) : Option (Nat × List Char) :=
  (openBracket? m s).bind (readBrackets? m (s.length + 1) {} [])

end GpuPassthrough.Pattern
