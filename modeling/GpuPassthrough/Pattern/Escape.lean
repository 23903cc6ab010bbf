import GpuPassthrough.Pattern.Modes
import GpuPassthrough.Text.Numeral

/-!
# Escapes

What a backslash and the characters behind it stand for in a pattern: a character that has a meaning
of its own otherwise, a character given by its number, a class of characters, or a place.
-/

namespace GpuPassthrough.Pattern

/-- What a backslash and what follows it stand for. -/
inductive Escape where
  | literal (c : Char)
  /-- Digits, blanks or the characters of words, all others than these, or those of a property. -/
  | several
  /-- The start or the end of the text. -/
  | edge
  /-- A start or an end of a word, or a place that is neither. -/
  | wordEdge
  deriving DecidableEq

/-- The characters that have a meaning of their own in patterns. -/
def metaChars : List Char := "\\.+*?()|[]\x7b\x7d^$#&-~".toList

/-- Whether a backslash makes a character stand for itself: one with a meaning of its own, or an
ASCII character other than letters, digits and angles. -/
def isEscapable (c : Char) : Bool :=
  metaChars.contains c || (c.toNat < 0x80 && !c.isAlphanum && c != '<' && c != '>')

/-- The letters of the general categories: others, letters, marks, numbers, punctuation, symbols and
separators. -/
def categoryLetters : List Char := "clmnpszCLMNPSZ".toList

/-- The character that a letter behind a backslash stands for. -/
def controlChar? (letter : Char) : Option Char :=
  if letter == 'a' then some '\x07'
  else if letter == 'f' then some '\x0c'
  else if letter == 't' then some '\t'
  else if letter == 'n' then some '\n'
  else if letter == 'r' then some '\r'
  else if letter == 'v' then some '\x0b'
  else none

/-- Reads hexadecimal digits, a given number of them, behind those that made up `value`. -/
def readHex? (m : Modes) : Nat → Nat → List Char → Option (Nat × List Char)
  | 0, value, s => some (value, s)
  | _ + 1, _, [] => none
  | n + 1, value, c :: rest =>
    (Text.digit? 16 c).bind fun digit => readHex? m n (value * 16 + digit) (m.skip rest)

/-- The number of hexadecimal digits that follow a letter. -/
def hexDigits? (letter : Char) : Option Nat :=
  if letter == 'x' then some 2
  else if letter == 'u' then some 4
  else if letter == 'U' then some 8
  else none

/-- Reads a character given by its number. Two digits give a byte, which has to be ASCII where the
pattern speaks of bytes. -/
def readNumbered? (m : Modes) (digits : Nat) (s : List Char) : Option (Escape × List Char) :=
  match readHex? m digits 0 (m.skip s) with
  | none => none
  | some (n, rest) =>
    if n.isValidChar ∧ (m.unicode ∨ digits ≠ 2 ∨ n < 0x80) then
      some (.literal (Char.ofNat n), rest)
    else none

/-- Reads the letter of a category, which only characters have. -/
def readCategory? (m : Modes) (s : List Char) : Option (Escape × List Char) :=
  match m.skip s with
  | [] => none
  | c :: rest =>
    if m.unicode && categoryLetters.contains c then some (.several, m.skip rest) else none

/-- Reads what follows a backslash. Bytes other than those of a class may not be ASCII, so only
patterns of characters have these classes. -/
def Escape.read? (m : Modes) : List Char → Option (Escape × List Char)
  | [] => none
  | c :: rest =>
    match hexDigits? c, controlChar? c with
    | some digits, _ => readNumbered? m digits rest
    | none, some control => some (.literal control, rest)
    | none, none =>
      if isEscapable c then some (.literal c, rest)
      else if c == 'p' || c == 'P' then readCategory? m rest
      else if c == 'd' || c == 's' || c == 'w' then some (.several, rest)
      else if c == 'D' || c == 'S' || c == 'W' then
        if m.unicode then some (.several, rest) else none
      else if c == 'A' || c == 'z' then some (.edge, rest)
      else if c == 'b' || c == 'B' || c == '<' || c == '>' then some (.wordEdge, rest)
      else none

end GpuPassthrough.Pattern
