import GpuPassthrough.Daemon.Run

/-!
# The Command

The command reads its settings and the parts of the host's file system that discovery looks at,
writes the device specifications and prints the plugins that the host asks for, one a line. All
decisions are made by `Daemon.prepare` and `Cdi.Store.writeAll` on a copy of these parts.
-/

namespace GpuPassthrough.Command

open Text (Octets)

/-- The variables of the environment that the command looks at. -/
def environment : IO Environment := do
  let names := Daemon.logVariable :: Flag.all.map Flag.environmentName
  let values ← names.mapM fun name => do
    return (← IO.getEnv name).map fun value => (name, value)
  return values.filterMap id

/-- The names from the root to a path. -/
def placeOf (path : String) : Location :=
  (Path.components path).filterMap fun
    | .name s => some (.text s)
    | .up => some Route.dotDot
    | _ => none

/-- The copy with one more entry and the directories above it. -/
def copyEntry (t : FileTree) (path : String) (entry : Entry) : FileTree :=
  let place := placeOf path
  let above := (List.range place.length).map place.take
  (above.foldl (fun t directory => if directory = [] then t else t.set directory .directory) t).set
    place entry

/-- Copies a file, if it can be read. -/
def copyFile (t : FileTree) (path : String) : IO FileTree := do
  match ← (IO.FS.readBinFile path).toBaseIO with
  | .ok bytes => return copyEntry t path (.file (Octets.ofBytes bytes.toList))
  | .error _ => return t

/-- Copies that there is something, whatever it is. -/
def copyPresence (t : FileTree) (path : String) : IO FileTree := do
  match ← (IO.FS.realPath path).toBaseIO with
  | .ok real => return if ← real.pathExists then copyEntry t path (.file (.text "")) else t
  | .error _ => return t

/-- Copies a link as one to the place that it leads to, if it leads anywhere. -/
def copyLink (t : FileTree) (path : String) : IO FileTree := do
  match ← (IO.FS.realPath path).toBaseIO with
  | .ok target => return copyEntry t path (.link (.text target.toString))
  | .error _ => return t

/-- The names in a directory; none if it cannot be listed. -/
def namesIn (path : String) : IO (List String) := do
  match ← (do (← IO.FS.realPath path).readDir : IO _).toBaseIO with
  | .ok found => return found.toList.map fun entry => entry.fileName
  | .error _ => return []

/-- Copies a directory of empty files, if it can be listed. -/
def copyNames (t : FileTree) (path : String) : IO FileTree := do
  let names ← namesIn path
  return names.foldl (fun t name => copyEntry t (Path.join path name) (.file (.text ""))) t

/-- Copies what the kernel shows of a device. -/
def copyDevice (t : FileTree) (path : String) : IO FileTree := do
  let t ← ["vendor", "device", "class"].foldlM (fun t name => copyFile t (Path.join path name)) t
  let t ← ["driver", "iommu_group"].foldlM (fun t name => copyLink t (Path.join path name)) t
  copyNames t (Path.join path "vfio-dev")

/-- Copies what discovery looks at. -/
def copyHost (t : FileTree) (c : Config) : IO FileTree := do
  let t ← copyPresence t (Path.join c.hostRoot Isolation.capabilityNode)
  let root := Path.join c.sysfsRoot PciDevice.devicesPath
  let names ← namesIn root
  let t := if names.isEmpty then t else copyEntry t root .directory
  names.foldlM (fun t name => copyDevice t (Path.join root name)) t

/-- Writes a specification from the copy to the disk. -/
def publish (t : FileTree) (path : String) : IO Unit := do
  match t.readText path with
  | .ok content =>
    if let some directory := Path.parent? path then IO.FS.createDirAll directory
    IO.FS.writeFile path content
  | .error _ => return

/-- Prints a plugin. -/
def announce (c : Config) (plan : PluginPlan) : IO Unit :=
  IO.println (PluginSocket.resource c.deviceNamespace plan.className ++ " at " ++
    PluginSocket.path c.pluginDirectory plan.className ++ ": " ++ " ".intercalate plan.units)

/-- A run of the command. -/
def run (args : List String) : IO UInt32 := do
  let env ← environment
  let configFile := (CommandLine.read args env).toOption.bind fun given =>
    Arguments.text? given .configFile
  let t ← match configFile with
    | some path => copyFile .empty path
    | none => pure .empty
  let t ← match configure t args env with
    | .ok c => copyHost t c
    | .error _ => pure t
  match Daemon.prepare t args env with
  | .error fault =>
    fault.lines.forM fun line => IO.eprintln line
    return UInt32.ofNat fault.exitStatus
  | .ok (c, s) =>
    let (store, written) := Cdi.Store.writeAll ⟨t, {}⟩ s c
    match written with
    | .ok paths => paths.forM (publish store.tree)
    | .error e => IO.eprintln e.message
    (PluginPlan.ofSnapshot s c).forM (announce c)
    return 0

end GpuPassthrough.Command

/-- The command. -/
def main (args : List String) : IO UInt32 := GpuPassthrough.Command.run args
