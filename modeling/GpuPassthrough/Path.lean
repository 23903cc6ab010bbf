/-!
# Paths

A path is text. Two paths name the same place for the program when their components agree, so a
repeated slash, a trailing slash and an inner `.` do not count, while `..` and a leading `.` do.

## Main results

* `SamePath.refl`, `SamePath.symm`, `SamePath.trans`: naming the same place is an equivalence.
-/

namespace GpuPassthrough

/-- One step of a path. -/
inductive PathComponent where
  | root
  | here
  | up
  | name (s : String)
  deriving DecidableEq

namespace Path

/-- The pieces of a text between its slashes; there is one more piece than slashes. -/
def splitSlashes : List Char → List (List Char)
  | [] => [[]]
  | c :: rest =>
    match splitSlashes rest with
    | [] => [[]]
    | piece :: pieces => if c = '/' then [] :: piece :: pieces else (c :: piece) :: pieces

/-- The pieces of a path between its slashes. -/
def pieces (path : String) : List String :=
  (splitSlashes path.toList).map String.ofList

/-- Whether a path starts at the root. -/
def isAbsolute (path : String) : Bool :=
  path.toList.head? == some '/'

/-- The component that a piece stands for; empty pieces and inner dots stand for none. -/
def component? : String → Option PathComponent
  | "" => none
  | "." => none
  | ".." => some .up
  | s => some (.name s)

/-- The components of a path. A dot counts only at the start of a relative path. -/
def components (path : String) : List PathComponent :=
  let start :=
    if isAbsolute path then [.root]
    else if (pieces path).head? == some "." then [.here]
    else []
  start ++ (pieces path).filterMap component?

/-- A path below another. An absolute second part replaces the first. -/
def join (base part : String) : String :=
  if isAbsolute part then part
  else if base.toList.getLast? == none || base.toList.getLast? == some '/' then base ++ part
  else base ++ "/" ++ part

/-- The last component of a path, if it is a name. -/
def fileName? (path : String) : Option String :=
  match (components path).getLast? with
  | some (.name s) => some s
  | _ => none

/-- Pieces without those at the end that stand for no component. -/
def dropIdle (pieces : List String) : List String :=
  (pieces.reverse.dropWhile fun piece => piece == "" || piece == ".").reverse

/-- A path without its last component; the root and the empty path have no parent. -/
def parent? (path : String) : Option String :=
  let above (body : List String) : String := "/".intercalate (dropIdle body.dropLast)
  if isAbsolute path then
    let body := dropIdle (pieces path).tail
    if body.isEmpty then none else some ("/" ++ above body)
  else if (pieces path).head? == some "." then
    let body := dropIdle (pieces path).tail
    if body.isEmpty then some ""
    else some ("/".intercalate ("." :: dropIdle body.dropLast))
  else
    let body := dropIdle (pieces path)
    if body.isEmpty then none else some (above body)

/-- The path itself, its parent, and so on, at most `fuel` of them. -/
def ancestorsWithin : Nat → String → List String
  | 0, _ => []
  | fuel + 1, path =>
    match parent? path with
    | none => []
    | some above => path :: ancestorsWithin fuel above

/-- The path itself, its parent, and so on up to the last one that has a parent. -/
def ancestors (path : String) : List String :=
  ancestorsWithin ((pieces path).length + 1) path

end Path

/-- Whether two paths name the same place. -/
def SamePath (a b : String) : Prop := Path.components a = Path.components b

instance (a b : String) : Decidable (SamePath a b) :=
  inferInstanceAs (Decidable (Path.components a = Path.components b))

/-- A path names the place that it names. -/
@[refl] theorem SamePath.refl (a : String) : SamePath a a := Eq.refl _

/-- Naming the same place is symmetric. -/
@[symm] theorem SamePath.symm {a b : String} (h : SamePath a b) : SamePath b a := Eq.symm h

/-- Naming the same place is transitive. -/
theorem SamePath.trans {a b c : String} (h : SamePath a b) (h' : SamePath b c) : SamePath a c :=
  Eq.trans h h'

/-- Splitting at slashes gives at least one piece. -/
theorem Path.splitSlashes_ne_nil (s : List Char) : Path.splitSlashes s ≠ [] := by
  cases s with
  | nil => simp [Path.splitSlashes]
  | cons c rest =>
    rw [Path.splitSlashes]
    split
    · simp
    · split <;> simp

end GpuPassthrough
