import GpuPassthrough.CommandLine.Flag

/-!
# Reading the Command Line

A flag takes its value from what is attached to it or from the next argument, and is dealt with when
the next flag is met or the arguments are over; an argument that is not understood is reported
before that. After the arguments the environment is asked for each flag that was not given.
-/

namespace GpuPassthrough

/-- The values of the flags that were given. -/
abbrev Arguments := List (Flag × FlagValue)

/-- The environment of the process. -/
abbrev Environment := List (String × String)

namespace CommandLine

/-- A reader between two arguments. -/
structure Reader where
  /-- The values that were dealt with. -/
  given : Arguments := []
  /-- The last flag, with its value if there was one. -/
  last : Option (Flag × Option String) := none

/-- Takes the value of a flag that was not given before. -/
def accept (given : Arguments) (flag : Flag) (s : String) : Except UsageFault Arguments :=
  if flag ∈ given.map (·.1) then .error .argumentConflict
  else do return given ++ [(flag, ← flag.read s)]

namespace Reader

/-- Deals with the last flag. -/
def resolve (r : Reader) : Except UsageFault Arguments :=
  match r.last with
  | none => .ok r.given
  | some (_, none) => .error .invalidValue
  | some (flag, some s) => accept r.given flag s

/-- Meets a flag, with the value that is attached to it or without one. -/
def meet (r : Reader) (flag : Flag) (attached : Option String) : Except UsageFault Reader := do
  let given ← r.resolve
  match attached with
  | some s => return ⟨← accept given flag s, none⟩
  | none => return ⟨given, some (flag, none)⟩

/-- Meets the request for help. -/
def help (r : Reader) : Except UsageFault Reader := do
  let _ ← r.resolve
  .error .displayHelp

/-- Meets an argument that starts with two hyphens, which are left out here. -/
def long (r : Reader) (s : List Char) : Except UsageFault Reader :=
  let name := s.takeWhile (· ≠ '=')
  let attached : Option String :=
    match s.dropWhile (· ≠ '=') with
    | [] => none
    | _ :: value => some (String.ofList value)
  if name = "help".toList then
    if attached.isSome then .error .tooManyValues else r.help
  else match Flag.ofName? name with
    | some flag => r.meet flag attached
    | none => .error .unknownArgument

/-- What is attached to a letter: the rest, without an equals sign in front of it. -/
def attachedTo : List Char → Option String
  | [] => none
  | '=' :: value => some (String.ofList value)
  | value => some (String.ofList value)

/-- Meets an argument that starts with one hyphen, which is left out here. -/
def short (r : Reader) : List Char → Except UsageFault Reader
  | [] => .error .unknownArgument
  | 'h' :: _ => r.help
  | c :: rest =>
    match Flag.ofLetter? c with
    | some flag => r.meet flag (attachedTo rest)
    | none => .error .unknownArgument

/-- Meets an argument that is no flag: the value that is waited for, or nothing known. -/
def value (r : Reader) (s : List Char) : Except UsageFault Reader :=
  match r.last with
  | some (flag, none) => .ok { r with last := some (flag, some (String.ofList s)) }
  | _ => .error .unknownArgument

/-- Reads arguments. Two hyphens alone end the flags, and nothing may come after them. -/
def readAll (r : Reader) : List (List Char) → Except UsageFault Arguments
  | [] => r.resolve
  | ['-', '-'] :: rest => if rest.isEmpty then r.resolve else .error .unknownArgument
  | ('-' :: '-' :: s) :: rest => do (← r.long s).readAll rest
  | ['-'] :: rest => do (← r.value ['-']).readAll rest
  | ('-' :: s) :: rest => do (← r.short s).readAll rest
  | s :: rest => do (← r.value s).readAll rest

end Reader

/-- Takes a flag from the environment if it was not given. -/
def fromEnvironment (env : Environment) (given : Arguments) (flag : Flag) :
    Except UsageFault Arguments :=
  if flag ∈ given.map (·.1) then .ok given
  else match env.lookup flag.environmentName with
    | some s => accept given flag s
    | none => .ok given

/-- Reads a command line and the environment behind it. -/
def read (args : List String) (env : Environment) : Except UsageFault Arguments := do
  let given ← Reader.readAll {} (args.map String.toList)
  Flag.all.foldlM (fromEnvironment env) given

end CommandLine

end GpuPassthrough
