import GpuPassthrough.Health
import GpuPassthrough.Isolation.Nodes
import GpuPassthrough.Snapshot.Names

/-!
# Plan of the Plugins

One plugin for each name under which device classes are advertised. Classes that share a name share
a plugin, which advertises the units of all of them.
-/

namespace GpuPassthrough

/-- A plugin to create: the name of its class and the keys of the units that it advertises. -/
structure PluginPlan where
  className : String
  units : List String
  deriving DecidableEq

namespace PluginPlan

/-- Enters the units of a class under a name. -/
def enter (name : String) (units : List String) : List PluginPlan → List PluginPlan
  | [] => [⟨name, units⟩]
  | plan :: rest =>
    if plan.className = name then { plan with units := plan.units ++ units } :: rest
    else plan :: enter name units rest

/-- The plugins for the classes of a snapshot, in the order of the classes. -/
def ofSnapshot (s : Snapshot) (c : Config) : List PluginPlan :=
  s.classes.foldl (fun plans entry => enter (s.displayName c entry.1) entry.2 plans) []

/-- What a plugin advertises at first. -/
def advertised (p : PluginPlan) : List AdvertisedUnit := AdvertisedUnit.allHealthy p.units

end PluginPlan

end GpuPassthrough
