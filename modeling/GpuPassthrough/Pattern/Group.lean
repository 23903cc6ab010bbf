import GpuPassthrough.Pattern.Modes
import GpuPassthrough.Unicode.Alphanumeric

/-!
# Opening a Group

What stands behind an opening parenthesis: the name of a group, letters that switch modes for the
group or from here on, or nothing. A pattern does not look ahead or back.
-/

namespace GpuPassthrough.Pattern

/-- What a parenthesis opens: a group, or nothing but a change of modes from here on. -/
inductive Opening where
  | group (modes : Modes) (name : Option (List Char))
  | setting (modes : Modes)
  deriving DecidableEq

/-- Whether a text can name a group. -/
def isGroupName : List Char → Bool
  | [] => false
  | c :: rest =>
    (c == '_' || Unicode.isAlphabetic c) &&
      rest.all fun c =>
        c == '_' || c == '.' || c == '[' || c == ']' || Unicode.isAlphanumeric c

/-- Reads the name of a group up to the angle that closes it. -/
def readName? (m : Modes) (s : List Char) : Option (Opening × List Char) :=
  match s.dropWhile (· != '>') with
  | [] => none
  | _ :: rest =>
    let name := s.takeWhile (· != '>')
    if isGroupName name then some (.group m (some name), rest) else none

/-- The letters that switch modes. -/
def modeLetters : List Char := "imsUuRx".toList

/-- Reads letters that switch modes, behind those in `seen`, newest first. No letter comes twice,
and one dash may turn the letters behind it off. -/
def readLetters? (seen : List Char) (m : Modes) : List Char → Option (Opening × List Char)
  | [] => none
  | c :: rest =>
    if c == ':' || c == ')' then
      if seen.head? == some '-' then none
      else if c == ':' then some (.group m none, rest)
      else if seen.isEmpty then none
      else some (.setting m, rest)
    else if seen.contains c then none
    else if c == '-' then readLetters? (c :: seen) m rest
    else if modeLetters.contains c then
      readLetters? (c :: seen) (m.switch c (!seen.contains '-')) rest
    else none

/-- Reads what stands behind an opening parenthesis. -/
def Opening.read? (m : Modes) (s : List Char) : Option (Opening × List Char) :=
  match m.skip s with
  | '?' :: 'P' :: '<' :: rest =>
    readName? m rest
  | '?' :: '<' :: rest =>
    if rest.head? == some '=' || rest.head? == some '!' then none else readName? m rest
  | '?' :: rest => readLetters? [] m rest
  | rest => some (.group m none, rest)

end GpuPassthrough.Pattern
