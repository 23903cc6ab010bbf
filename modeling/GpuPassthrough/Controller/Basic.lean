import GpuPassthrough.Error
import GpuPassthrough.Plugin.Plan

/-!
# The Controller

The controller creates a plugin for each plan, starts them in order, keeps those that started, and
stops these when the process shuts down. It is the same for every kind of plugin: a kind says how
plugins are created, started and stopped in a world `W`.
-/

namespace GpuPassthrough

/-- A kind of plugin in a world. -/
structure PluginKind (W P : Type) where
  /-- Creates a plugin with its class name, its device directory and what it advertises. -/
  create : String → String → List AdvertisedUnit → W → W × P
  className : P → String
  start : P → W → W × P × Except PluginError Unit
  stop : P → W → W × P × Except PluginError Unit

/-- The controller of a snapshot, with the plugins that it keeps. -/
structure Controller (P : Type) where
  snapshot : Snapshot
  config : Config
  plugins : List P := []

namespace Controller

variable {W P : Type}

/-- The directory whose entries tell which devices are there. -/
def deviceRoot (c : Controller P) : String :=
  Isolation.sensingRoot c.config.vfioRoot c.snapshot.handles

/-- The class names of the plugins that are kept. -/
def running (kind : PluginKind W P) (c : Controller P) : List String :=
  c.plugins.map kind.className

/-- The number of plugins that are kept, which a start reports. -/
def count (c : Controller P) : Nat := c.plugins.length

/-- Creates and starts a plugin; one that does not start is dropped. -/
def launch (kind : PluginKind W P) (deviceRoot : String) (plan : PluginPlan) (w : W) :
    W × Option P :=
  let (w, plugin) := kind.create plan.className deviceRoot plan.advertised w
  match kind.start plugin w with
  | (w, plugin, .ok ()) => (w, some plugin)
  | (w, _, .error _) => (w, none)

/-- Creates and starts the plugins of some plans, and gives those that started. -/
def launchAll (kind : PluginKind W P) (deviceRoot : String) : List PluginPlan → W → W × List P
  | [], w => (w, [])
  | plan :: rest, w =>
    let (w, started) := launch kind deviceRoot plan w
    let (w, others) := launchAll kind deviceRoot rest w
    (w, started.toList ++ others)

/-- Creates and starts a plugin for each plan of the snapshot. -/
def start (kind : PluginKind W P) (c : Controller P) (w : W) : W × Controller P :=
  let (w, started) := launchAll kind c.deviceRoot (PluginPlan.ofSnapshot c.snapshot c.config) w
  (w, { c with plugins := c.plugins ++ started })

/-- Stops plugins in order; that one cannot be stopped does not matter to the others. -/
def stopAll (kind : PluginKind W P) : List P → W → W
  | [], w => w
  | plugin :: rest, w => stopAll kind rest (kind.stop plugin w).1

/-- Stops every plugin that is kept, and keeps none. -/
def stop (kind : PluginKind W P) (c : Controller P) (w : W) : W × Controller P :=
  (stopAll kind c.plugins w, { c with plugins := [] })

/-- Starts the plugins, waits for the shutdown, during which `wait` happens to the world, and stops
them. -/
def run (kind : PluginKind W P) (wait : W → W) (c : Controller P) (w : W) : W × Controller P :=
  let (w, c) := c.start kind w
  c.stop kind (wait w)

end Controller

end GpuPassthrough
