import GpuPassthrough.Yaml.Resolution

/-!
# Scalars

How a text is written as a scalar of a YAML document: plain where that reads back as the text,
literally where it has lines, between single quotes where it needs them, and between double quotes
with escapes where it holds what quotes alone cannot carry.
-/

namespace GpuPassthrough.Yaml

/-! ### Characters -/

/-- The characters that end a line. -/
def isBreak (c : Char) : Bool :=
  c == '\n' || c == '\r' || c == '\u0085' || c == '\u2028' || c == '\u2029'

/-- A space, a tab or the end of a line. -/
def isBlank (c : Char) : Bool := c == ' ' || c == '\t' || isBreak c

/-- The characters that may be written as they are. -/
def isPrintable (c : Char) : Bool :=
  let n := c.toNat
  n == 0x0A || (0x20 ≤ n && n ≤ 0x7E) || (0xA0 ≤ n && n ≤ 0xFFFD && n != 0xFEFF) || 0x10000 ≤ n

/-- The characters that mean something at the start of a scalar. -/
def startIndicators : List Char :=
  ['#', ',', '[', ']', '\x7b', '\x7d', '&', '*', '!', '|', '>', '\x27', '\x22', '%', '@', '\x60']

/-! ### What a text holds -/

/-- Whether a text is at its end or goes on with a blank. -/
def blankNext : List Char → Bool
  | [] => true
  | c :: _ => isBlank c

/-- Whether two neighbours satisfy a predicate. -/
def anyPair (p : Char → Char → Bool) : List Char → Bool
  | [] => false
  | [_] => false
  | a :: b :: rest => p a b || anyPair p (b :: rest)

/-- Whether a text holds, after its first character, a colon before a blank or the end, or a hash
mark after a blank. -/
def holdsIndicator : List Char → Bool
  | [] => false
  | c :: rest =>
    (match rest with
      | [] => false
      | d :: after => (d == ':' && blankNext after) || (d == '#' && isBlank c)) ||
    holdsIndicator rest

/-- Whether a text starts with what means something there. -/
def startsWithIndicator (s : List Char) : Bool :=
  "---".toList.isPrefixOf s || "...".toList.isPrefixOf s ||
  match s with
  | [] => false
  | c :: rest =>
    startIndicators.contains c || ((c == '?' || c == ':' || c == '-') && blankNext rest)

/-- Whether a text holds what no quotes can carry without escapes. -/
def needsEscapes (s : List Char) : Bool :=
  s.any (fun c => !isPrintable c) || anyPair (fun a b => a == ' ' && isBreak b) s

/-- Whether a line of a text after the first starts with a space. -/
def indents (s : List Char) : Bool := anyPair (fun a b => isBreak a && b == ' ') s

/-- Whether a text starts or ends with a space or a line end. -/
def isPadded (s : List Char) : Bool :=
  (match s.head? with
    | some c => c == ' ' || isBreak c
    | none => false) ||
  match s.getLast? with
  | some c => c == ' ' || isBreak c
  | none => false

/-! ### Styles -/

/-- The ways of writing a scalar. -/
inductive Style where
  | plain
  | singleQuoted
  | doubleQuoted
  | literal
  deriving DecidableEq

/-- Whether a text can be written plainly. -/
def allowsPlain (s : List Char) : Bool :=
  !(isPadded s || s.any isBreak || needsEscapes s || startsWithIndicator s || holdsIndicator s)

/-- The quotes that a text needs. -/
def quotes (s : List Char) : Style :=
  if indents s || needsEscapes s then .doubleQuoted else .singleQuoted

/-- The style of a text. -/
def style (s : List Char) : Style :=
  if s.contains '\n' then
    if s.getLast? == some ' ' || needsEscapes s then .doubleQuoted else .literal
  else if resolves s then quotes s
  else if allowsPlain s then .plain
  else quotes s

/-! ### Writing -/

/-- A line's indentation. -/
def spaces (n : Nat) : List Char := List.replicate n ' '

/-- A digit in upper case. -/
def upperHexDigit (n : Nat) : Char := if n < 10 then Char.ofNat (48 + n) else Char.ofNat (55 + n)

/-- A number in a fixed number of hexadecimal digits. -/
def hexDigits : Nat → Nat → List Char
  | 0, _ => []
  | width + 1, n => hexDigits width (n / 16) ++ [upperHexDigit (n % 16)]

/-- The characters that have a letter for their escape. -/
def letterEscapes : List (Char × Char) :=
  [('\x00', '0'), ('\x07', 'a'), ('\x08', 'b'), ('\t', 't'), ('\n', 'n'), ('\x0b', 'v'),
   ('\x0c', 'f'), ('\r', 'r'), ('\x1b', 'e'), ('\x22', '\x22'), ('\\', '\\'), ('\u0085', 'N'),
   ('\u00a0', '_'), ('\u2028', 'L'), ('\u2029', 'P')]

/-- A character as an escape. -/
def escape (c : Char) : List Char :=
  match letterEscapes.lookup c with
  | some letter => ['\\', letter]
  | none =>
    let n := c.toNat
    if n ≤ 0xFF then '\\' :: 'x' :: hexDigits 2 n
    else if n ≤ 0xFFFF then '\\' :: 'u' :: hexDigits 4 n
    else '\\' :: 'U' :: hexDigits 8 n

/-- A character between double quotes. -/
def doubleQuotedChar (c : Char) : List Char :=
  if !isPrintable c || isBreak c || c == '\x22' || c == '\\' then escape c else [c]

/-- The characters between single quotes. A quote is written twice, and a line after the first
starts with its indentation. -/
def singleQuotedChars (indent : Nat) (fresh : Bool) : List Char → List Char
  | [] => if fresh then spaces indent else []
  | c :: rest =>
    if isBreak c then c :: singleQuotedChars indent true rest
    else
      (if fresh then spaces indent else []) ++ (if c == '\x27' then [c, c] else [c]) ++
        singleQuotedChars indent false rest

/-- The lines of a literal scalar, each but the empty ones with its indentation. -/
def literalChars (indent : Nat) (fresh : Bool) : List Char → List Char
  | [] => []
  | c :: rest =>
    if isBreak c then c :: literalChars indent true rest
    else (if fresh then spaces indent else []) ++ c :: literalChars indent false rest

/-- What says how deep a literal scalar is indented: given where its first line does not show it. -/
def indentationHint : List Char → List Char
  | [] => []
  | c :: _ => if c == ' ' || isBreak c then ['2'] else []

/-- What says what becomes of the line ends at the end of a literal scalar. -/
def chompingHint (s : List Char) : List Char :=
  match s.reverse with
  | [] => ['-']
  | [c] => if isBreak c then ['+'] else ['-']
  | c :: d :: _ => if !isBreak c then ['-'] else if isBreak d then ['+'] else []

/-- A scalar and the end of its line; its further lines are indented by `indent`. -/
def scalarLine (indent : Nat) (s : List Char) : List Char :=
  match style s with
  | .plain => s ++ ['\n']
  | .singleQuoted => '\x27' :: singleQuotedChars indent false s ++ ['\x27', '\n']
  | .doubleQuoted => '\x22' :: s.flatMap doubleQuotedChar ++ ['\x22', '\n']
  | .literal =>
    '|' :: indentationHint s ++ chompingHint s ++ '\n' :: literalChars indent true s ++
      (if (s.getLast?.map isBreak).getD false then [] else ['\n'])

end GpuPassthrough.Yaml
