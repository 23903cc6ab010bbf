import GpuPassthrough.Unicode.Uppercase
import GpuPassthrough.Unicode.Whitespace

/-!
# Resource Names

A device name becomes a resource name in four passes: upper case, a slash or a dot as an
underscore, each run of white space as one underscore, and nothing but ASCII letters, digits,
underscores and hyphens kept.

## Main results

* `isNameChar_of_mem_formatChars`: a formatted name holds only characters of resource names.
-/

namespace GpuPassthrough.Naming

/-- The characters of resource names. -/
def isNameChar (c : Char) : Bool :=
  let n := c.toNat
  (48 ≤ n && n ≤ 57) || (65 ≤ n && n ≤ 90) || (97 ≤ n && n ≤ 122) || c == '_' || c == '-'

/-- A slash or a dot as an underscore. -/
def separate (c : Char) : Char :=
  if c == '/' || c == '.' then '_' else c

/-- Each run of white space as one underscore; `blank` says whether the text follows a blank. -/
def collapse (blank : Bool) : List Char → List Char
  | [] => []
  | c :: rest =>
    if Unicode.isWhitespace c then
      if blank then collapse true rest else '_' :: collapse true rest
    else c :: collapse false rest

/-- The four passes on the characters of a name. -/
def formatChars (s : List Char) : List Char :=
  (collapse false ((s.flatMap Unicode.uppercase).map separate)).filter isNameChar

/-- The resource name of a device name. -/
def format (name : String) : String :=
  String.ofList (formatChars name.toList)

/-- The separators that a resource name neither starts nor ends with. -/
def isSeparator (c : Char) : Bool := c == '_' || c == '-'

/-- A name without separators at its ends. -/
def trimSeparators (name : String) : String :=
  String.ofList ((name.toList.dropWhile isSeparator).reverse.dropWhile isSeparator).reverse

/-- A formatted name holds only characters of resource names. -/
theorem isNameChar_of_mem_formatChars {s : List Char} {c : Char} (h : c ∈ formatChars s) :
    isNameChar c = true :=
  (List.mem_filter.1 h).2

end GpuPassthrough.Naming
