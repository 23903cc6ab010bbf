import GpuPassthrough.CommandLine.Reader
import GpuPassthrough.Config.File

/-!
# Layers of the Configuration

The configuration of a run has layers: the defaults, a configuration file, the environment and the
command line. Each setting comes from the highest layer that gives it. What is merged has to be
usable, and so has the file on its own.
-/

namespace GpuPassthrough

namespace Arguments

/-- The text that a flag gives. -/
def text? (a : Arguments) (flag : Flag) : Option String :=
  match a.lookup flag with
  | some (.text s) => some s
  | _ => none

/-- The port that a flag gives. -/
def port? (a : Arguments) (flag : Flag) : Option UInt16 :=
  match a.lookup flag with
  | some (.port n) => some n
  | _ => none

/-- A configuration below the flags. -/
def overlay (a : Arguments) (c : Config) : Config where
  deviceNamespace := (a.text? .deviceNamespace).getD c.deviceNamespace
  gpuAlias := (a.text? .gpuAlias).or c.gpuAlias
  switchAlias := (a.text? .switchAlias).or c.switchAlias
  cdiRoot := (a.text? .cdiRoot).getD c.cdiRoot
  cdiVendor := (a.text? .cdiVendor).getD c.cdiVendor
  hostRoot := (a.text? .hostRoot).getD c.hostRoot
  sysfsRoot := (a.text? .sysfsRoot).getD c.sysfsRoot
  vfioRoot := (a.text? .vfioRoot).getD c.vfioRoot
  pluginDirectory := (a.text? .pluginDirectory).getD c.pluginDirectory
  kubeletSocket := (a.text? .kubeletSocket).or c.kubeletSocket
  timeoutSeconds := c.timeoutSeconds
  logLevel := (a.text? .logLevel).getD c.logLevel
  metricsPort := (a.port? .metricsPort).or c.metricsPort

end Arguments

/-- Why a run has no configuration. -/
inductive SetupFault where
  /-- The command line is not understood, or asks for help. -/
  | usage (fault : UsageFault)
  /-- The configuration file cannot be loaded. -/
  | file (path : String) (fault : ConfigFault)
  /-- The merged configuration is not usable. -/
  | merged (fault : ConfigFault)
  deriving DecidableEq

/-- The layer below the flags: the configuration file, if one is named, or the defaults. -/
def baseConfig (t : FileTree) (a : Arguments) : Except SetupFault Config :=
  match a.text? .configFile with
  | none => .ok {}
  | some path =>
    match Config.load t path with
    | .ok c => .ok c
    | .error fault => .error (.file path fault)

/-- The configuration of a run. -/
def configure (t : FileTree) (args : List String) (env : Environment) :
    Except SetupFault Config :=
  match CommandLine.read args env with
  | .error fault => .error (.usage fault)
  | .ok a =>
    match baseConfig t a with
    | .error fault => .error fault
    | .ok base =>
      match (a.overlay base).validate with
      | .error fault => .error (.merged fault)
      | .ok () => .ok (a.overlay base)

end GpuPassthrough
