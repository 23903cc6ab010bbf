import GpuPassthrough.CallStatus
import GpuPassthrough.Lifecycle.Restart
import GpuPassthrough.Plugin.Consultation
import GpuPassthrough.Text.Duration
import GpuPassthrough.Watch.Targets

/-!
# Sites

A site is where plugins are deployed: a file system, a kubelet that takes registrations, and the
watchers that report changes of the file system to the plugins. A watcher watches the directory of
the device nodes, if it exists, and the directory of the plugin's socket; a change in one of them is
reported under the path by which it is watched. Where a file stands in the directory's place, its
removal is reported under its own path, and ends the watch.
-/

namespace GpuPassthrough

open Text (Octets)

/-- What a plugin says of itself when it registers. -/
structure Registration where
  /-- The name of the socket in the directory of the plugin sockets. -/
  endpoint : String
  resource : String
  deriving DecidableEq

/-- The version of the interface that plugins speak. -/
def Registration.version : String := "v1beta1"

/-- How a plugin says that it wants to be used. -/
def Registration.options : PluginOptions := .plain

/-- A kubelet. -/
structure Kubelet where
  /-- The socket on which plugins register. -/
  socketPath : String
  /-- Whether it runs. -/
  isUp : Bool := false
  /-- How many of the next registrations it refuses. -/
  refusals : Nat := 0
  /-- The reason that it gives for a refusal. -/
  refusal : String := ""
  /-- Every registration that arrived, refused or not. -/
  registrations : List Registration := []

namespace Kubelet

/-- Takes a registration. -/
def take (k : Kubelet) (r : Registration) : Kubelet × Except CallStatus Unit :=
  let heard := { k with registrations := k.registrations ++ [r] }
  match k.refusals with
  | 0 => (heard, .ok ())
  | refusals + 1 => ({ heard with refusals := refusals }, .error ⟨.unavailable, k.refusal⟩)

end Kubelet

/-- What watches the file system for one generation of a plugin. -/
structure Watcher where
  generation : Nat
  targets : WatchTargets
  /-- The places that are watched, directories as a rule, each with the path under which it is. -/
  places : List (Location × String)
  /-- The reports that were not looked at yet. -/
  inbox : List FileEvent := []
  /-- The health events of the last report that did not get into the queue yet. -/
  pending : List HealthEvent := []
  /-- The restart that the watcher carries out. -/
  restart : Option RestartPhase := none
  gone : Bool := false

namespace Watcher

/-- The path under which a watcher hears of an entry of a directory that it watches. -/
def pathOf? (w : Watcher) (spot : Location) : Option String := do
  let name ← spot.getLast?
  let (_, directory) ← w.places.reverse.find? fun watched => watched.1 = spot.dropLast
  return Path.join directory name.lossy

/-- The path under which a watcher hears of the removal of what it watches itself. -/
def ownPath? (w : Watcher) (spot : Location) : Option String :=
  (w.places.reverse.find? fun watched => watched.1 = spot).map (·.2)

/-- Whether the removal of an entry ends the watch of a place: it stood there, or it had the path
under which the place is watched. -/
def isLost (w : Watcher) (spot place : Location) : Bool :=
  place = spot || w.places.any fun watched =>
    watched.1 = place &&
      ((w.pathOf? spot).map fun path => decide (SamePath watched.2 path)) = some true

/-- A watcher that has heard of a change. Of a removal it hears first from the directory. -/
def hear (w : Watcher) (change : FileChange) (spot : Location) : Watcher :=
  if w.gone then w
  else if change = .removed then
    let paths := (w.pathOf? spot).toList ++ (w.ownPath? spot).toList
    { w with
      inbox := w.inbox ++ paths.map fun path => ⟨change, [path]⟩
      places := w.places.filter fun watched => !w.isLost spot watched.1 }
  else { w with inbox := w.inbox ++ (w.pathOf? spot).toList.map fun path => ⟨change, [path]⟩ }

end Watcher

/-- Where plugins are deployed. -/
structure Site where
  tree : FileTree
  kubelet : Kubelet
  watchers : List Watcher := []

namespace Site

/-- The site after its watchers have heard of a change. -/
def report (s : Site) (change : FileChange) (spot : Location) : Site :=
  { s with watchers := s.watchers.map fun w => w.hear change spot }

/-! ### Changes of the file system -/

/-- Removes what is not a directory. -/
def remove (s : Site) (path : String) : Site × Except IoFailure Unit :=
  match s.tree.remove path, s.tree.resolve .entry path with
  | .ok t, .ok spot => ({ s with tree := t }.report .removed spot, .ok ())
  | .error cause, _ => (s, .error cause)
  | _, .error cause => (s, .error cause)

/-- Makes an empty file, or empties the file that is there. -/
def makeFile (s : Site) (path : String) : Site × Except IoFailure Unit :=
  match s.tree.write path (.text ""), s.tree.resolve .file path with
  | .ok t, .ok spot =>
    let s' : Site := { s with tree := t }
    (if (s.tree.find? spot).isSome then s' else s'.report .created spot, .ok ())
  | .error cause, _ => (s, .error cause)
  | _, .error cause => (s, .error cause)

/-- Makes the socket of a server. -/
def bind (s : Site) (path : String) : Site × Except IoFailure Unit :=
  match s.tree.bindSocket path, s.tree.resolve .entry path with
  | .ok t, .ok spot => ({ s with tree := t }.report .created spot, .ok ())
  | .error cause, _ => (s, .error cause)
  | _, .error cause => (s, .error cause)

/-- Whether a path leads to a socket. -/
def isSocket (s : Site) (path : String) : Bool :=
  (s.tree.stat path).toOption == some .socket

/-! ### The kubelet -/

/-- Starts the kubelet, which makes its socket anew. -/
def startKubelet (s : Site) : Site :=
  let (s, _) := s.remove s.kubelet.socketPath
  let (s, bound) := s.bind s.kubelet.socketPath
  { s with kubelet := { s.kubelet with isUp := bound.toBool } }

/-- Stops the kubelet, which takes its socket away. -/
def stopKubelet (s : Site) : Site :=
  let (s, _) := s.remove s.kubelet.socketPath
  { s with kubelet := { s.kubelet with isUp := false } }

/-- Lets the kubelet refuse the next registrations. -/
def refuse (s : Site) (times : Nat) (reason : String) : Site :=
  { s with kubelet := { s.kubelet with refusals := times, refusal := reason } }

/-- Whether plugins can register on a socket: whether it is that of a running kubelet. -/
def acceptsRegistrations (s : Site) (socketPath : String) : Bool :=
  s.kubelet.isUp && s.isSocket socketPath &&
    (s.tree.resolve .target socketPath).toOption ==
      (s.tree.resolve .target s.kubelet.socketPath).toOption

/-! ### What a plugin asks of its site -/

/-- A path that starts from the root. -/
def absolute (t : FileTree) (path : String) : String :=
  Path.join ("/" ++ "/".intercalate (t.workingDirectory.map Octets.lossy)) path

/-- A place to watch, where it is and under which path, if something stands there. -/
def watched? (t : FileTree) (path : String) : Option (Location × String) :=
  if t.isPresent path then
    (t.resolve .target path).toOption.map fun spot => (spot, absolute t path)
  else none

/-- The directory of the socket of a plugin. -/
def socketDirectory (p : Instance) : String := (Path.parent? p.socketPath).getD "."

/-- A watcher for a generation of a plugin. -/
def watcherFor (s : Site) (p : Instance) (generation : Nat) : Watcher where
  generation := generation
  targets := .ofUnits p.deviceRoot (p.hub.units.map AdvertisedUnit.key) p.socketPath
  places := [p.deviceRoot, socketDirectory p].filterMap fun path =>
    watched? s.tree (if path = "" then "." else path)

/-- What a plugin says of itself when it registers. -/
def registrationOf (p : Instance) : Registration :=
  ⟨(Path.fileName? p.socketPath).getD "", p.resource⟩

/-- Whether the kubelet's socket has become that of a plugin, which then registers with itself. -/
def isOwnKubelet (s : Site) (p : Instance) : Bool :=
  s.isSocket p.socketPath &&
    (s.tree.resolve .target p.config.kubeletSocketPath).toOption ==
      (s.tree.resolve .target p.socketPath).toOption

/-- The answers of a site to a plugin. A server answers as soon as it is bound, so that only a
plugin that does not wait at all fails to reach it. A plugin does not take registrations, and a
missing kubelet is waited for in vain. -/
def host (p : Instance) : Host Site where
  clearSocket s := s.remove p.socketPath
  bindSocket s := s.bind p.socketPath
  probe s := (s, if p.timeout = 0 then .error ("timed out after " ++ Text.duration 0) else .ok ())
  register s :=
    if s.isOwnKubelet p then (s, .error CallStatus.unknownCall.received.message)
    else if s.acceptsRegistrations p.config.kubeletSocketPath then
      let (kubelet, result) := s.kubelet.take (registrationOf p)
      ({ s with kubelet := kubelet }, result.mapError fun status => status.received.message)
    else (s, .error ("timed out after " ++ Text.duration p.timeout ++ ": transport error"))
  watch generation s := ({ s with watchers := s.watchers ++ [s.watcherFor p generation] }, .ok ())

end Site

end GpuPassthrough
