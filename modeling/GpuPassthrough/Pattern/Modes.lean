import GpuPassthrough.Unicode.Whitespace

/-!
# Modes of a Pattern

A pattern describes a set of texts. It is read under modes that it may change from some place on: it
speaks of characters or of bytes, and the blanks between its parts count or do not.
-/

namespace GpuPassthrough.Pattern

/-- How a pattern is read from some place on. -/
structure Modes where
  /-- The pattern speaks of characters; otherwise of bytes, of which it may only name ASCII. -/
  unicode : Bool := true
  /-- Blanks between the parts do not count, nor do comments from a number sign to the end of the
  line. -/
  spaced : Bool := false
  deriving DecidableEq

/-- A text without the blanks and comments at its start; `inComment` says that it starts in one. -/
def skipBlanks (inComment : Bool) : List Char → List Char
  | [] => []
  | c :: rest =>
    if inComment then skipBlanks (c != '\n') rest
    else if Unicode.isWhitespace c then skipBlanks false rest
    else if c == '#' then skipBlanks true rest
    else c :: rest

/-- A text without what does not count at its start. -/
def Modes.skip (m : Modes) (s : List Char) : List Char := if m.spaced then skipBlanks false s else s

/-- The character that a look ahead finds. It passes over blanks and over the mark of one comment,
but not over what the comment says. -/
def Modes.ahead? (m : Modes) (s : List Char) : Option Char :=
  if m.spaced then
    match s.dropWhile Unicode.isWhitespace with
    | '#' :: rest => (rest.dropWhile Unicode.isWhitespace).head?
    | rest => rest.head?
  else s.head?

/-- The modes after a letter that switches one of them on or off; other letters switch how a pattern
matches, which its form does not depend on. -/
def Modes.switch (m : Modes) (letter : Char) (on : Bool) : Modes :=
  if letter == 'u' then { m with unicode := on }
  else if letter == 'x' then { m with spaced := on }
  else m

end GpuPassthrough.Pattern
