import GpuPassthrough.Config.Basic
import GpuPassthrough.Text.Numeral

/-!
# Flags

Each flag of the command line has a name, an environment variable that stands in for it, and a kind
of value. A path must not be empty, and a port is a decimal number below 2¹⁶, signed or not.
-/

namespace GpuPassthrough

/-- The flags of the command line that take a value. -/
inductive Flag where
  | configFile
  | gpuAlias
  | switchAlias
  | cdiRoot
  | cdiVendor
  | deviceNamespace
  | hostRoot
  | sysfsRoot
  | pluginDirectory
  | kubeletSocket
  | vfioRoot
  | logLevel
  | metricsPort
  deriving DecidableEq

/-- What the value of a flag has to be. -/
inductive FlagKind where
  | text
  | path
  | port
  deriving DecidableEq

/-- The value of a flag. -/
inductive FlagValue where
  | text (s : String)
  | port (n : UInt16)
  deriving DecidableEq

/-- Why a command line is not understood; asking for help is one of the reasons. -/
inductive UsageFault where
  | unknownArgument
  | invalidValue
  | valueValidation
  | argumentConflict
  | tooManyValues
  | displayHelp
  deriving DecidableEq

/-- The exit status of the process after a fault of its command line. -/
def UsageFault.exitCode : UsageFault → Nat
  | displayHelp => 0
  | _ => 2

namespace Flag

/-- The flags, in the order in which the environment is asked for them. -/
def all : List Flag :=
  [configFile, gpuAlias, switchAlias, cdiRoot, cdiVendor, deviceNamespace, hostRoot, sysfsRoot,
    pluginDirectory, kubeletSocket, vfioRoot, logLevel, metricsPort]

/-- The name of a flag, after two hyphens. -/
def name : Flag → String
  | configFile => "config"
  | gpuAlias => "pgpu-alias"
  | switchAlias => "nvswitch-alias"
  | cdiRoot => "cdi-root"
  | cdiVendor => "cdi-vendor"
  | deviceNamespace => "device-namespace"
  | hostRoot => "host-root"
  | sysfsRoot => "sysfs-root"
  | pluginDirectory => "device-plugin-path"
  | kubeletSocket => "kubelet-socket"
  | vfioRoot => "vfio-root"
  | logLevel => "log-level"
  | metricsPort => "metrics-port"

/-- The letter of a flag, after one hyphen. -/
def letter? : Flag → Option Char
  | configFile => some 'c'
  | _ => none

/-- The environment variable that stands in for a flag. -/
def environmentName : Flag → String
  | configFile => "SANDBOX_PLUGIN_CONFIG"
  | gpuAlias => "PGPU_ALIAS"
  | switchAlias => "NVSWITCH_ALIAS"
  | cdiRoot => "CDI_ROOT"
  | cdiVendor => "CDI_VENDOR"
  | deviceNamespace => "DEVICE_NAMESPACE"
  | hostRoot => "HOST_ROOT"
  | sysfsRoot => "SYSFS_ROOT"
  | pluginDirectory => "DEVICE_PLUGIN_PATH"
  | kubeletSocket => "KUBELET_SOCKET"
  | vfioRoot => "VFIO_ROOT"
  | logLevel => "LOG_LEVEL"
  | metricsPort => "METRICS_PORT"

/-- The kind of value that a flag takes. -/
def kind : Flag → FlagKind
  | gpuAlias | switchAlias | cdiVendor | deviceNamespace | logLevel => .text
  | configFile | cdiRoot | hostRoot | sysfsRoot => .path
  | pluginDirectory | kubeletSocket | vfioRoot => .path
  | metricsPort => .port

/-- The flag of a name. -/
def ofName? (s : List Char) : Option Flag := all.find? fun flag => flag.name.toList = s

/-- The flag of a letter. -/
def ofLetter? (c : Char) : Option Flag := all.find? fun flag => flag.letter? = some c

/-- Ports are below this number. -/
def portLimit : Nat := UInt16.size

/-- Reads a port. A number with a minus sign is one only if it is zero. -/
def readPort (s : String) : Except UsageFault FlagValue :=
  let number : Option Nat :=
    match s.toList with
    | ['-'] => none
    | '-' :: digits => (Text.readDigits 10 1 0 digits).toOption
    | other => (Text.readNumeral 10 portLimit other).toOption
  match number with
  | some n => .ok (.port (UInt16.ofNat n))
  | none => .error .valueValidation

/-- Reads the value of a flag. -/
def read (flag : Flag) (s : String) : Except UsageFault FlagValue :=
  match flag.kind with
  | .text => .ok (.text s)
  | .path => if s = "" then .error .invalidValue else .ok (.text s)
  | .port => readPort s

end Flag

end GpuPassthrough
