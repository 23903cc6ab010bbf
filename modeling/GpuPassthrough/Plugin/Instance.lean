import GpuPassthrough.CallStatus
import GpuPassthrough.Config.Basic
import GpuPassthrough.Plugin.Allocation
import GpuPassthrough.Plugin.Socket
import GpuPassthrough.Session.Hub

/-!
# Plugins

An instance of a plugin offers the units of one class as one resource on one socket. Its sessions
share its hub.
-/

namespace GpuPassthrough

/-- A plugin for one class of devices. -/
structure Instance where
  config : Config
  snapshot : Snapshot
  /-- The directory whose entries tell which devices are there. -/
  deviceRoot : String
  /-- The bound on waiting for a server, in milliseconds. -/
  timeout : Nat
  hub : Hub
  /-- The generation of the server, while there is one. -/
  serving : Option Nat := none

namespace Instance

/-- The class of the plugin. -/
def className (p : Instance) : String := p.hub.className

/-- The socket of the plugin. -/
def socketPath (p : Instance) : String :=
  PluginSocket.path p.config.pluginDirectory p.className

/-- The resource that the plugin offers. -/
def resource (p : Instance) : String :=
  PluginSocket.resource p.config.deviceNamespace p.className

/-- The gauge of the plugin shows a number of devices. -/
def gauge (p : Instance) (n : Nat) : Instance :=
  { p with hub := { p.hub with metrics := p.hub.metrics.set (.pluginDevices p.className) n } }

/-- Answers a request for units. -/
def allocate (p : Instance) (request : List (List String)) :
    Instance × Except PluginError (List (List GrantedNode)) :=
  let granted := Allocation.resolve p.snapshot p.config.vfioRoot request
  ({ p with hub := p.hub.countAllocation granted.toBool }, granted)

/-- The call of a kubelet that asks for units: what each container is told, or a status. -/
def answer (p : Instance) (request : List (List String)) :
    Instance × Except CallStatus (List (List ContainerNode)) :=
  let (p, granted) := p.allocate request
  (p, (granted.map fun nodes => nodes.map (List.map GrantedNode.told)).mapError CallStatus.ofError)

end Instance

end GpuPassthrough
