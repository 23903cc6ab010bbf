import GpuPassthrough.FileTree.Resolve

/-!
# File Operations

The requests that the plugin makes of a file system. A request that fails leaves the file system as
it was, except for `createAll`, which keeps the directories it made before it failed.

## Main results

* `write_eq_ok_iff`: a file is written exactly where a path leads to a file or to nothing.
* `remove_eq_ok_iff`: everything but a directory can be removed.
-/

namespace GpuPassthrough.FileTree

open Text (Octets)

/-! ### Looking -/

/-- What a path leads to, links followed. -/
def stat (t : FileTree) (r : Route) : Except IoFailure Entry := do
  match t.find? (← t.resolve .target r) with
  | some entry => .ok entry
  | none => .error .notFound

/-- How a system answers to a look at a path, links followed: with what stands there, or with the
reason why it cannot be looked at. -/
abbrev Look := String → Except IoFailure Entry

/-- The answers of a file system that nobody is kept from looking at. -/
def look (t : FileTree) : Look := fun path => t.stat path

instance : Coe FileTree Look := ⟨look⟩

/-- Whether a path leads to something. -/
def isPresent (t : FileTree) (r : Route) : Bool :=
  (t.stat r).toOption.isSome

/-- Whether a path leads to a directory. -/
def isDirectory (t : FileTree) (r : Route) : Bool :=
  (t.stat r).toOption == some .directory

/-- The content of a file. -/
def read (t : FileTree) (r : Route) : Except IoFailure Octets := do
  match ← t.stat r with
  | .file content => .ok content
  | .directory => .error .isDirectory
  | .socket => .error .noDevice
  | .link _ => .error .tooManyLinks

/-- The content of a file that holds text. -/
def readText (t : FileTree) (r : Route) : Except IoFailure String := do
  match (← t.read r).text? with
  | some s => .ok s
  | none => .error .notText

/-- The names in a directory. -/
def list (t : FileTree) (r : Route) : Except IoFailure (List Octets) := do
  let place ← t.resolve .target r
  match t.find? place with
  | some .directory => .ok (t.children place)
  | some _ => .error .notDirectory
  | none => .error .notFound

/-- The target of a link. -/
def readLink (t : FileTree) (r : Route) : Except IoFailure Octets := do
  match t.find? (← t.resolve .entry r) with
  | some (.link target) => .ok target
  | some _ => .error .invalid
  | none => .error .notFound

/-! ### Changing -/

/-- Puts an entry where nothing stands. -/
def place (t : FileTree) (r : Route) (taken : IoFailure) (entry : Entry) :
    Except IoFailure FileTree := do
  let spot ← t.resolve .entry r
  match t.find? spot with
  | some _ => .error taken
  | none => .ok (t.set spot entry)

/-- Makes a directory. -/
def createDirectory (t : FileTree) (r : Route) : Except IoFailure FileTree :=
  t.place { r with slashed := false } .alreadyExists .directory

/-- Makes a link. -/
def createLink (t : FileTree) (r : Route) (target : Octets) : Except IoFailure FileTree :=
  t.place r .alreadyExists (.link target)

/-- Makes the first of the directories, of which each is the parent of the one before it, and those
of the others that are missing. -/
def createFrom (t : FileTree) : List String → FileTree × Except IoFailure Unit
  | [] => (t, .ok ())
  | path :: above =>
    match t.createDirectory path with
    | .ok made => (made, .ok ())
    | .error failure =>
      if failure = .notFound ∧ above ≠ [] then
        match t.createFrom above with
        | (made, .error failure) => (made, .error failure)
        | (made, .ok ()) =>
          match made.createDirectory path with
          | .ok made => (made, .ok ())
          | .error failure => (made, if made.isDirectory path then .ok () else .error failure)
      else (t, if t.isDirectory path then .ok () else .error failure)

/-- Makes a directory and the directories above it that are missing. -/
def createAll (t : FileTree) (path : String) : FileTree × Except IoFailure Unit :=
  t.createFrom (Path.ancestors path)

/-- Writes a whole file, in place of what a file of that path held. -/
def write (t : FileTree) (r : Route) (content : Octets) : Except IoFailure FileTree := do
  let spot ← t.resolve .file r
  match t.find? spot with
  | some .directory => .error .isDirectory
  | some .socket => .error .noDevice
  | _ => .ok (t.set spot (.file content))

/-- Gives a file or a link another name, in place of what is not a directory there. Directories are
not moved. -/
def rename (t : FileTree) (old new : Route) : Except IoFailure FileTree := do
  let source ← t.resolve .entry old
  let target ← t.resolve .entry new
  match t.find? source with
  | none => .error .notFound
  | some .directory => .error .isDirectory
  | some entry =>
    if source = target then .ok t
    else if t.find? target = some .directory then .error .isDirectory
    else .ok ((t.erase source).set target entry)

/-- Removes what is not a directory. -/
def remove (t : FileTree) (r : Route) : Except IoFailure FileTree := do
  let spot ← t.resolve .entry r
  match t.find? spot with
  | none => .error .notFound
  | some .directory => .error .isDirectory
  | some _ => .ok (t.erase spot)

/-- Removes what a path names, with all that is below it. -/
def removeAll (t : FileTree) (r : Route) : Except IoFailure FileTree := do
  let spot ← t.resolve .entry r
  match t.find? spot with
  | none => .error .notFound
  | some _ => .ok { t with entries := t.entries.filter fun other => !spot.isPrefixOf other.1 }

/-- Socket paths of this many bytes and more are refused. -/
def socketPathLimit : Nat := 108

/-- Makes the socket of a server. -/
def bindSocket (t : FileTree) (path : String) : Except IoFailure FileTree :=
  let r := Route.ofText path
  if r.holdsNul then .error .nulInSocketPath
  else if r.size ≥ socketPathLimit then .error .socketPathTooLong
  else t.place r .addressInUse .socket

/-! ### When changes succeed -/

/-- A file is written exactly where its path leads to a file, to a link at the limit, or to
nothing. -/
theorem write_eq_ok_iff {t t' : FileTree} {r : Route} {content : Octets} :
    t.write r content = .ok t' ↔ ∃ spot, t.resolve .file r = .ok spot ∧
      t.find? spot ≠ some .directory ∧ t.find? spot ≠ some .socket ∧
      t' = t.set spot (.file content) := by
  unfold write
  cases h : t.resolve .file r with
  | error e => simp [Bind.bind, Except.bind]
  | ok spot =>
    simp only [Bind.bind, Except.bind]
    cases hf : t.find? spot with
    | none => simp [hf, eq_comm]
    | some entry => cases entry <;> simp [hf, eq_comm]

/-- Everything but a directory can be removed. -/
theorem remove_eq_ok_iff {t t' : FileTree} {r : Route} :
    t.remove r = .ok t' ↔ ∃ spot entry, t.resolve .entry r = .ok spot ∧
      t.find? spot = some entry ∧ entry ≠ .directory ∧ t' = t.erase spot := by
  unfold remove
  cases h : t.resolve .entry r with
  | error e => simp [Bind.bind, Except.bind]
  | ok spot =>
    simp only [Bind.bind, Except.bind]
    cases hf : t.find? spot with
    | none => simp [hf]
    | some entry => cases entry <;> simp [hf, eq_comm]

end GpuPassthrough.FileTree
