import GpuPassthrough.Unicode.Printable
import GpuPassthrough.Unicode.GraphemeExtend

/-!
# Quoted Text

Messages quote paths and names between double quotes and single characters between single quotes.
The delimiter and the backslash are escaped by a backslash, the common controls have letters, and
whatever is not printable or would join its neighbour is written by its code point.
-/

namespace GpuPassthrough.Text

/-- A character by its code point, in lower-case hexadecimal without padding. -/
def codePointEscape (c : Char) : List Char :=
  ['\\', 'u', '\x7b'] ++ Nat.toDigits 16 c.toNat ++ ['\x7d']

/-- A character inside quotes of the given kind. -/
def escape (delimiter c : Char) : List Char :=
  if c == '\x00' then ['\\', '0']
  else if c == '\t' then ['\\', 't']
  else if c == '\n' then ['\\', 'n']
  else if c == '\r' then ['\\', 'r']
  else if c == '\\' || c == delimiter then ['\\', c]
  else if Unicode.isGraphemeExtend c || !Unicode.isPrintable c then codePointEscape c
  else [c]

/-- A text between double quotes. -/
def quoteText (s : String) : String :=
  String.ofList ('\x22' :: (s.toList.flatMap (escape '\x22') ++ ['\x22']))

/-- A character between single quotes. -/
def quoteChar (c : Char) : String :=
  String.ofList ('\x27' :: (escape '\x27' c ++ ['\x27']))

end GpuPassthrough.Text
