import GpuPassthrough.Text.Octets
import GpuPassthrough.Path

/-!
# Routes

A path as the system reads it: where it starts, the names to walk, and its size. A path that ends in
a slash asks for a directory, as if an empty name followed the last slash. Where something is looked
up this is the same as ending in the name `.`; a directory that is made may be asked for in this way
before it is there, and a file that is made may not.
-/

namespace GpuPassthrough

open Text (Octets)

/-- A path as the system reads it. -/
structure Route where
  absolute : Bool
  names : List Octets
  /-- Whether the path asks for a directory. -/
  slashed : Bool
  size : Nat
  holdsNul : Bool

namespace Route

/-- The pieces of bytes between slashes. -/
def splitBytes : List UInt8 → List (List UInt8)
  | [] => [[]]
  | b :: rest =>
    match splitBytes rest with
    | [] => [[]]
    | piece :: pieces => if b = 0x2F then [] :: piece :: pieces else (b :: piece) :: pieces

/-- The name of the directory itself. -/
def dot : Octets := .text "."

/-- The empty name behind the last slash of a path. -/
def slash : Octets := .text ""

/-- The name of the directory above. -/
def dotDot : Octets := .text ".."

/-- The names among pieces. -/
def namesOf (pieces : List Octets) : List Octets := pieces.filter (· ≠ slash)

/-- The route of a path. -/
def ofText (path : String) : Route where
  absolute := Path.isAbsolute path
  names := namesOf ((Path.pieces path).map .text)
  slashed := path.toList.getLast? == some '/'
  size := path.utf8ByteSize
  holdsNul := path.toList.contains '\x00'

/-- The route of a path that need not be text. -/
def ofOctets : Octets → Route
  | .text path => ofText path
  | .raw bytes => {
      absolute := bytes.head? == some 0x2F
      names := namesOf ((splitBytes bytes).map Octets.ofBytes)
      slashed := bytes.getLast? == some 0x2F
      size := bytes.length
      holdsNul := bytes.contains 0 }

instance : Coe String Route := ⟨ofText⟩

/-- The names to walk to what the path asks for. -/
def steps (r : Route) : List Octets := if r.slashed then r.names ++ [slash] else r.names

/-- The last name of a path, unless the path ends by going up. -/
def lastName? (r : Route) : Option Octets :=
  match (r.names.filter (· ≠ dot)).getLast? with
  | some name => if name = dotDot then none else some name
  | none => none

end Route

end GpuPassthrough
