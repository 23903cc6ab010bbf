import GpuPassthrough.FileTree.Operations
import GpuPassthrough.Health

/-!
# Watched Paths

What a change in the file system means for a plugin: the node of a unit that appears or disappears
changes the health of the unit, and the removal of the plugin's own socket asks for a restart.

## Main results

* `classify_remove_socket`: the removal of the socket asks for a restart and for nothing else.
-/

namespace GpuPassthrough

/-- What happened to the paths of a file event. -/
inductive FileChange where
  | created
  | removed
  /-- The first path got another name. -/
  | renamedFrom
  /-- A path is the new name of something. -/
  | renamedTo
  /-- The first path became the second. -/
  | renamedBoth
  /-- A path is the old or the new name of something. -/
  | renamedEither
  /-- Nothing that says whether a path exists. -/
  | touched
  deriving DecidableEq

/-- A change in the file system as it is reported. -/
structure FileEvent where
  change : FileChange
  paths : List String
  deriving DecidableEq

/-- What a plugin does about a file event. -/
inductive WatchAction where
  | health (event : HealthEvent)
  | restart
  deriving DecidableEq

/-- The paths that a plugin watches. -/
structure WatchTargets where
  /-- The paths of nodes with the keys of their units. -/
  nodes : List (String × String)
  /-- The socket of the plugin. -/
  socket : String

namespace WatchTargets

/-- The nodes of units in a directory, and a socket. -/
def ofUnits (deviceRoot : String) (keys : List String) (socket : String) : WatchTargets :=
  ⟨keys.map fun key => (Path.join deviceRoot key, key), socket⟩

/-- The unit whose node a path names; of units that share a node, the last. -/
def unit? (w : WatchTargets) (path : String) : Option String :=
  (w.nodes.reverse.find? fun node => SamePath node.1 path).map (·.2)

/-- The health event of a path, if it names a node. -/
def event? (w : WatchTargets) (health : Health) (path : String) : Option WatchAction :=
  (w.unit? path).map fun unit => .health ⟨unit, health⟩

/-- What a plugin does about a file event, in the order of the paths. -/
def classify (w : WatchTargets) (t : FileTree) (e : FileEvent) : List WatchAction :=
  match e.change with
  | .created | .renamedTo => e.paths.filterMap (w.event? .healthy)
  | .renamedFrom => e.paths.filterMap (w.event? .unhealthy)
  | .removed =>
    if e.paths.any fun path => SamePath path w.socket then [.restart]
    else e.paths.filterMap (w.event? .unhealthy)
  | .renamedBoth =>
    (e.paths.head?.bind (w.event? .unhealthy)).toList ++
      (e.paths[1]?.bind (w.event? .healthy)).toList
  | .renamedEither =>
    e.paths.filterMap fun path : String =>
      w.event? (if t.isPresent path then .healthy else .unhealthy) path
  | .touched => []

/-- The removal of the socket asks for a restart and for nothing else. -/
theorem classify_remove_socket {w : WatchTargets} {t : FileTree} {paths : List String}
    {path : String} (hmem : path ∈ paths) (h : SamePath path w.socket) :
    w.classify t ⟨.removed, paths⟩ = [.restart] := by
  have hany : (paths.any fun path => decide (SamePath path w.socket)) = true :=
    List.any_eq_true.2 ⟨path, hmem, decide_eq_true h⟩
  simp only [classify, hany, if_true]

end WatchTargets

end GpuPassthrough
