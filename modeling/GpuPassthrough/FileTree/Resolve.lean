import GpuPassthrough.FileTree.Basic
import GpuPassthrough.FileTree.Route
import GpuPassthrough.IoFailure

/-!
# Resolving Paths

A path is resolved by walking its names from a directory. Every name but the last must lead to a
directory, links on the way are followed, at most forty of them, and the last name need not exist.
What happens at the end depends on what is sought there.

## Main results

* `walkNames_nil`: a walk without names stays where it is.
-/

namespace GpuPassthrough.FileTree

open Text (Octets)

/-- The longest name, in bytes. -/
def nameLimit : Nat := 255

/-- Paths of this many bytes and more are refused. -/
def pathLimit : Nat := 4096

/-- The links that one resolution follows. -/
def linkLimit : Nat := 40

/-- What is sought at the end of a path. -/
inductive Goal where
  /-- What stands there, be it a link. -/
  | entry
  /-- What the links there lead to. -/
  | target
  /-- A file, made where the links there lead to nothing. A slash behind its name asks for a
  directory instead, whatever stands there. -/
  | file
  deriving DecidableEq

/-- Walks names from a directory; `jump` goes on where a link was met. -/
def walkNames (t : FileTree) (goal : Goal)
    (jump : Location → List Octets → Except IoFailure Location) :
    Location → List Octets → Except IoFailure Location
  | place, [] => .ok place
  | place, name :: rest =>
    match t.find? place with
    | none => .error .notFound
    | some .directory =>
      if name = Route.dot ∨ name = Route.slash then walkNames t goal jump place rest
      else if name = Route.dotDot then walkNames t goal jump place.dropLast rest
      else if goal = .file ∧ rest = [Route.slash] then .error .isDirectory
      else if name.size > nameLimit then .error .nameTooLong
      else match t.find? (place ++ [name]) with
        | some (.link target) =>
          if rest = [] ∧ goal = .entry then .ok (place ++ [name])
          else
            let route := Route.ofOctets target
            jump (if route.absolute then [] else place) (route.steps ++ rest)
        | _ => walkNames t goal jump (place ++ [name]) rest
    | some _ => .error .notDirectory

/-- Walks names from a directory, following at most `links` links. -/
def walk (t : FileTree) (goal : Goal) : Nat → Location → List Octets → Except IoFailure Location
  | 0 => walkNames t goal fun _ _ => .error .tooManyLinks
  | links + 1 => walkNames t goal (walk t goal links)

/-- The location that a path leads to. -/
def resolve (t : FileTree) (goal : Goal) (r : Route) : Except IoFailure Location :=
  if r.holdsNul then .error .nulInName
  else if r.size = 0 then .error .notFound
  else if r.size ≥ pathLimit then .error .nameTooLong
  else t.walk goal linkLimit (if r.absolute then [] else t.workingDirectory) r.steps

/-- A walk without names stays where it is. -/
@[simp] theorem walkNames_nil {t : FileTree} {goal : Goal}
    {jump : Location → List Octets → Except IoFailure Location} {place : Location} :
    walkNames t goal jump place [] = .ok place := by
  rw [walkNames]

end GpuPassthrough.FileTree
