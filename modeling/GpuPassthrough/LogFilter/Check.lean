import GpuPassthrough.LogFilter.Directive

/-!
# Log Filters

A log filter is a list of directives between commas; nothing between two commas is no directive. The
first fault decides.
-/

namespace GpuPassthrough.LogFilter

/-- The parts of a text between commas. -/
def parts : List Char → List (List Char)
  | [] => [[]]
  | c :: rest =>
    match parts rest with
    | [] => [[]]
    | part :: others => if c = ',' then [] :: part :: others else (c :: part) :: others

/-- Checks a log filter. -/
def check (s : String) : Except Fault Unit :=
  ((parts s.toList).filter fun part => !part.isEmpty).forM Directive.check

end GpuPassthrough.LogFilter
