import GpuPassthrough.Yaml.Scalar
import GpuPassthrough.Yaml.Value

/-!
# Lines of a Document

A part of YAML that is read line by line: block sequences and mappings, their keys and their
scalars, each on one line, empty flow collections, and comments. What is outside this part is
refused, never read in another way: tags, anchors, other flow collections, literal and folded
scalars, scalars of several lines, several documents, and characters that YAML does not allow.

Every line gives tokens. A token stands in a column; a value behind its key on the same line only
has to be deeper than the key, and is counted one column behind it.
-/

namespace GpuPassthrough.Yaml

/-! ### Scalars -/

/-- Adds a character in front of what was read. -/
def prepend (c : Char) (read : List Char × List Char) : List Char × List Char :=
  (c :: read.1, read.2)

/-- Reads what stands behind a single quote, up to the one that ends it; a quote in between is
written twice. `quote` tells whether the last character was a quote. -/
def readSingle? (quote : Bool) : List Char → Option (List Char × List Char)
  | [] => if quote then some ([], []) else none
  | c :: rest =>
    if quote then
      if c == '\x27' then (readSingle? false rest).map (prepend c) else some ([], c :: rest)
    else if c == '\x27' then readSingle? true rest
    else (readSingle? false rest).map (prepend c)

/-- What the letters of escapes stand for. -/
def escapedLetters : List (Char × Char) :=
  [('0', '\x00'), ('a', '\x07'), ('b', '\x08'), ('t', '\t'), ('n', '\n'), ('v', '\x0b'),
   ('f', '\x0c'), ('r', '\r'), ('e', '\x1b'), (' ', ' '), ('\x22', '\x22'), ('/', '/'),
   ('\\', '\\'), ('N', '\u0085'), ('_', '\u00a0'), ('L', '\u2028'), ('P', '\u2029')]

/-- The letters of escapes that are followed by hexadecimal digits, and how many. -/
def escapedNumbers : List (Char × Nat) := [('x', 2), ('u', 4), ('U', 8)]

/-- The character of a number. -/
def charOf? (n : Nat) : Option Char := if n.isValidChar then some (Char.ofNat n) else none

/-- Where a reader stands between double quotes. -/
inductive QuoteState where
  | text
  /-- Behind a backslash. -/
  | escape
  /-- In front of some more digits of a number, which has a value so far. -/
  | digits (left value : Nat)

/-- Reads what stands behind a double quote, up to the one that ends it. -/
def readDouble? : QuoteState → List Char → Option (List Char × List Char)
  | _, [] => none
  | .text, c :: rest =>
    if c == '\x22' then some ([], rest)
    else if c == '\\' then readDouble? .escape rest
    else (readDouble? .text rest).map (prepend c)
  | .escape, c :: rest =>
    match escapedNumbers.lookup c with
    | some width => readDouble? (.digits width 0) rest
    | none =>
      match escapedLetters.lookup c with
      | some d => (readDouble? .text rest).map (prepend d)
      | none => none
  | .digits left value, c :: rest =>
    match Text.digit? 16 c with
    | none => none
    | some digit =>
      if left ≤ 1 then
        match charOf? (value * 16 + digit) with
        | some d => (readDouble? .text rest).map (prepend d)
        | none => none
      else readDouble? (.digits (left - 1) (value * 16 + digit)) rest

/-- Whether a plain scalar can start so. -/
def startsPlain : List Char → Bool
  | [] => false
  | c :: rest =>
    !(isBlank c || startIndicators.contains c ||
      ((c == '?' || c == ':' || c == '-') && blankNext rest))

/-- What belongs to a plain scalar: all up to a colon in front of a blank, or to a comment. -/
def plainPart : List Char → List Char × List Char
  | [] => ([], [])
  | c :: rest =>
    if c == ':' && blankNext rest || c == ' ' && rest.head? == some '#' then ([], c :: rest)
    else prepend c (plainPart rest)

/-- A text without the spaces at its end. -/
def trimEnd (s : List Char) : List Char := (s.reverse.dropWhile (· == ' ')).reverse

/-- Reads a scalar from the start of a text. -/
def readScalar? : List Char → Option (Scalar × List Char)
  | [] => none
  | c :: rest =>
    if c == '\x27' then (readSingle? false rest).map fun read => (⟨true, read.1⟩, read.2)
    else if c == '\x22' then (readDouble? .text rest).map fun read => (⟨true, read.1⟩, read.2)
    else if startsPlain (c :: rest) then
      let read := plainPart (c :: rest)
      some (⟨false, trimEnd read.1⟩, read.2)
    else none

/-! ### Tokens -/

/-- A value that stands on one line. -/
inductive Leaf where
  | scalar (s : Scalar)
  | emptySequence
  | emptyMapping
  deriving DecidableEq

/-- What stands in a place of a document. -/
inductive Mark where
  /-- An item of a sequence, whose value follows. -/
  | entry
  /-- A key of a mapping, whose value follows. -/
  | key (s : Scalar)
  | leaf (value : Leaf)
  deriving DecidableEq

/-- A mark and the column in which it stands. -/
structure Token where
  column : Nat
  mark : Mark
  deriving DecidableEq

/-- A text without the spaces at its start. -/
def skipSpaces (s : List Char) : List Char := s.dropWhile (· == ' ')

/-- Whether nothing but spaces and a comment follows. -/
def endsLine (s : List Char) : Bool :=
  match skipSpaces s with
  | [] => true
  | c :: _ => c == '#' && s.head? == some ' '

/-- Reads a value that takes up the rest of a line. -/
def readLeaf? : List Char → Option Leaf
  | '[' :: ']' :: rest => if endsLine rest then some .emptySequence else none
  | '\x7b' :: '\x7d' :: rest => if endsLine rest then some .emptyMapping else none
  | s => (readScalar? s).bind fun read => if endsLine read.2 then some (.scalar read.1) else none

/-- Reads a key from the start of a text, and gives what stands behind its colon. -/
def readKey? (s : List Char) : Option (Scalar × List Char) :=
  match readScalar? s with
  | some (key, c :: rest) => if c == ':' && blankNext rest then some (key, rest) else none
  | _ => none

/-- Reads what stands behind a key, which may be nothing. -/
def readValue? (column : Nat) (s : List Char) : Option (List Token) :=
  if endsLine s then some []
  else (readLeaf? (skipSpaces s)).map fun leaf => [⟨column, .leaf leaf⟩]

/-- Reads a key with its value, or a value alone. -/
def readField? (column : Nat) (s : List Char) : Option (List Token) :=
  match readKey? s with
  | some (key, rest) => (readValue? (column + 1) rest).map (⟨column, .key key⟩ :: ·)
  | none => (readLeaf? s).map fun leaf => [⟨column, .leaf leaf⟩]

/-- Reads what stands from a column on: entries, and a key or a value. -/
def readContent? (column : Nat) : List Char → Option (List Token)
  | [] => some []
  | c :: rest =>
    if c == ' ' then readContent? (column + 1) rest
    else if c == '#' then some []
    else if c == '-' && blankNext rest then
      (readContent? (column + 1) rest).map (⟨column, .entry⟩ :: ·)
    else readField? column (c :: rest)

/-! ### Documents -/

/-- Whether a line could start or end a document. -/
def isMarker (s : List Char) : Bool :=
  "---".toList.isPrefixOf s || "...".toList.isPrefixOf s

/-- Reads a line. -/
def readLine? (s : List Char) : Option (List Token) :=
  if isMarker s || s.any (fun c => !isPrintable c || isBreak c) then none else readContent? 0 s

/-- Reads the lines of a document. -/
def readTokens? (document : List Char) : Option (List Token) :=
  ((document.splitOn '\n').mapM readLine?).map List.flatten

end GpuPassthrough.Yaml
