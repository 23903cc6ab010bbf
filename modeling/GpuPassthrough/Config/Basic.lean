import GpuPassthrough.Error
import GpuPassthrough.Path

/-!
# Configuration

The settings of the plugin with their defaults, what makes them unusable, and what is derived from
them: the socket of the kubelet and the names that replace those of device classes.

## Main results

* `validate_eq_ok_iff`: a usable configuration has a namespace, a vendor and a timeout.
* `aliasFor_eq_some_iff`: an empty alias counts as none.
-/

namespace GpuPassthrough

/-- The settings of the plugin. -/
structure Config where
  /-- The namespace of the resources advertised to the kubelet. -/
  deviceNamespace : String := "nvidia.com"
  /-- The class name for every GPU. -/
  gpuAlias : Option String := none
  /-- The class name for every switch. -/
  switchAlias : Option String := none
  /-- The directory of the device specifications. -/
  cdiRoot : String := "/var/run/cdi"
  /-- The vendor half of the kind of a device specification. -/
  cdiVendor : String := "nvidia.com"
  /-- The root of the host's file system. -/
  hostRoot : String := "/"
  /-- Where the kernel shows the devices. -/
  sysfsRoot : String := "/sys"
  /-- The directory of the device nodes. -/
  vfioRoot : String := "/dev/vfio"
  /-- The directory of the plugin sockets. -/
  pluginDirectory : String := "/var/lib/kubelet/device-plugins"
  /-- The registration socket of the kubelet. -/
  kubeletSocket : Option String := none
  /-- The bound on waiting for a server, in seconds. -/
  timeoutSeconds : UInt64 := 5
  /-- Which events are logged. -/
  logLevel : String := "info"
  /-- The port on which metrics are shown. -/
  metricsPort : Option UInt16 := none
  deriving DecidableEq

/-- Why a configuration cannot be used. -/
inductive ConfigFault where
  | unreadable (path : String) (cause : IoFailure)
  | malformed
  | emptyNamespace
  | emptyVendor
  | zeroTimeout
  deriving DecidableEq

/-- The wording of a fault. -/
def ConfigFault.message : ConfigFault → String
  | unreadable path cause => "Failed to read config " ++ path ++ ": " ++ cause.message
  | malformed => "Failed to parse config"
  | emptyNamespace => "device namespace must not be empty"
  | emptyVendor => "CDI vendor must not be empty"
  | zeroTimeout => "connection timeout must be at least one second"

/-- A fault as an error of the plugin. -/
def ConfigFault.toError (fault : ConfigFault) : PluginError :=
  .invalidConfig fault.message

namespace Config

/-- Refuses settings that cannot give a working plugin. -/
def validate (c : Config) : Except ConfigFault Unit :=
  if c.deviceNamespace = "" then .error .emptyNamespace
  else if c.cdiVendor = "" then .error .emptyVendor
  else if c.timeoutSeconds = 0 then .error .zeroTimeout
  else .ok ()

/-- The name of the kubelet's socket in the directory of the plugin sockets. -/
def kubeletSocketName : String := "kubelet.sock"

/-- The registration socket of the kubelet, given or derived. -/
def kubeletSocketPath (c : Config) : String :=
  c.kubeletSocket.getD (Path.join c.pluginDirectory kubeletSocketName)

/-- The alias for switches or for GPUs; an empty one counts as none. -/
def aliasFor (c : Config) (switch : Bool) : Option String :=
  (if switch then c.switchAlias else c.gpuAlias).filter (· ≠ "")

/-- A usable configuration has a namespace, a vendor and a timeout. -/
theorem validate_eq_ok_iff {c : Config} :
    c.validate = .ok () ↔ c.deviceNamespace ≠ "" ∧ c.cdiVendor ≠ "" ∧ c.timeoutSeconds ≠ 0 := by
  unfold validate
  by_cases h₁ : c.deviceNamespace = "" <;> by_cases h₂ : c.cdiVendor = "" <;>
    by_cases h₃ : c.timeoutSeconds = 0 <;> simp [h₁, h₂, h₃]

/-- An empty alias counts as none. -/
theorem aliasFor_eq_some_iff {c : Config} {switch : Bool} {name : String} :
    c.aliasFor switch = some name ↔
      (if switch then c.switchAlias else c.gpuAlias) = some name ∧ name ≠ "" := by
  simp [aliasFor, Option.filter_eq_some_iff]

end Config

end GpuPassthrough
