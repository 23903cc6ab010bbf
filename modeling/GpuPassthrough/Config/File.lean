import GpuPassthrough.Config.Basic
import GpuPassthrough.Json.Reader
import GpuPassthrough.FileTree.Operations

/-!
# Configuration Files

A configuration file is a JSON object whose members name settings, or an array of the settings in
order. A setting that is missing keeps its default, members with other names are passed over, and a
setting that is given twice is refused.

## Main results

* `validate_of_load`: what is loaded is usable.
-/

namespace GpuPassthrough

/-- A setting that a file can give. -/
inductive ConfigField where
  | deviceNamespace
  | gpuAlias
  | switchAlias
  | cdiRoot
  | cdiVendor
  | hostRoot
  | sysfsRoot
  | vfioRoot
  | pluginDirectory
  | kubeletSocket
  | timeoutSeconds
  | logLevel
  | metricsPort
  deriving DecidableEq

namespace ConfigField

/-- The settings in the order of an array. -/
def all : List ConfigField :=
  [deviceNamespace, gpuAlias, switchAlias, cdiRoot, cdiVendor, hostRoot, sysfsRoot, vfioRoot,
    pluginDirectory, kubeletSocket, timeoutSeconds, logLevel, metricsPort]

/-- The member that gives a setting. -/
def key : ConfigField → String
  | deviceNamespace => "device_namespace"
  | gpuAlias => "pgpu_alias"
  | switchAlias => "nvswitch_alias"
  | cdiRoot => "cdi_root"
  | cdiVendor => "cdi_vendor"
  | hostRoot => "host_root"
  | sysfsRoot => "sysfs_root"
  | vfioRoot => "vfio_root"
  | pluginDirectory => "device_plugin_path"
  | kubeletSocket => "kubelet_socket"
  | timeoutSeconds => "connection_timeout_secs"
  | logLevel => "log_level"
  | metricsPort => "metrics_port"

/-- The setting that a member gives. -/
def ofKey? (name : String) : Option ConfigField :=
  all.find? fun field => field.key = name

/-- A value that may be null. -/
def optional? {α : Type} (read : Json → Option α) : Json → Option (Option α)
  | .null => some none
  | value => (read value).map some

/-- A number below a limit. -/
def below? (limit : Nat) (value : Json) : Option Nat :=
  value.natural?.filter (· < limit)

/-- A configuration with one setting from a file, if the value is of its type. -/
def set? (field : ConfigField) (value : Json) (c : Config) : Option Config :=
  match field with
  | deviceNamespace => value.text?.map fun s => { c with deviceNamespace := s }
  | gpuAlias => (optional? Json.text? value).map fun s => { c with gpuAlias := s }
  | switchAlias => (optional? Json.text? value).map fun s => { c with switchAlias := s }
  | cdiRoot => value.text?.map fun s => { c with cdiRoot := s }
  | cdiVendor => value.text?.map fun s => { c with cdiVendor := s }
  | hostRoot => value.text?.map fun s => { c with hostRoot := s }
  | sysfsRoot => value.text?.map fun s => { c with sysfsRoot := s }
  | vfioRoot => value.text?.map fun s => { c with vfioRoot := s }
  | pluginDirectory => value.text?.map fun s => { c with pluginDirectory := s }
  | kubeletSocket => (optional? Json.text? value).map fun s => { c with kubeletSocket := s }
  | timeoutSeconds =>
    (below? UInt64.size value).map fun n => { c with timeoutSeconds := UInt64.ofNat n }
  | logLevel => value.text?.map fun s => { c with logLevel := s }
  | metricsPort =>
    (optional? (below? UInt16.size) value).map fun n => { c with metricsPort := n.map UInt16.ofNat }

end ConfigField

namespace Config

/-- Takes settings from the members of an object; `given` lists those that had their turn. -/
def ofMembers? (c : Config) (given : List ConfigField) :
    List (List JsonUnit × Json) → Option Config
  | [] => some c
  | (name, value) :: rest => do
    match ConfigField.ofKey? (← JsonUnit.text? name) with
    | none => ofMembers? c given rest
    | some field =>
      if field ∈ given then none
      else ofMembers? (← field.set? value c) (field :: given) rest

/-- Takes settings in order from the elements of an array. -/
def ofElements? (c : Config) : List ConfigField → List Json → Option Config
  | _, [] => some c
  | [], _ :: _ => none
  | field :: fields, value :: rest => do ofElements? (← field.set? value c) fields rest

/-- The configuration that a document gives. -/
def ofJson? : Json → Option Config
  | .object members => ofMembers? {} [] members
  | .array elements => ofElements? {} ConfigField.all elements
  | _ => none

/-- The configuration that a text gives, usable or not. -/
def ofText? (s : String) : Option Config := do ofJson? (← Json.read? s)

/-- Loads a configuration file. -/
def load (t : FileTree) (path : String) : Except ConfigFault Config :=
  match t.readText path with
  | .error cause => .error (.unreadable path cause)
  | .ok content =>
    match ofText? content with
    | none => .error .malformed
    | some c =>
      match c.validate with
      | .error fault => .error fault
      | .ok () => .ok c

/-- What is loaded is usable. -/
theorem validate_of_load {t : FileTree} {path : String} {c : Config} (h : load t path = .ok c) :
    c.validate = .ok () := by
  unfold load at h
  split at h
  · simp at h
  · split at h
    · simp at h
    · split at h
      · simp at h
      · next hvalid =>
        simp only [Except.ok.injEq] at h
        exact h ▸ hvalid

end Config

end GpuPassthrough
