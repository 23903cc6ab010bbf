import GpuPassthrough.Config.File

/-!
# Settings as Layers

A layer gives values to some settings. A configuration is the layer of its own settings, in which an
optional setting that is off has no value, and a layer over another one gives what it can and leaves
the rest to the lower one. Whether a configuration is usable, the socket of the kubelet and the
aliases are read off its layer.

## Main results

* `Config.isUnusable_layer_iff`: which configurations are refused.
* `Config.kubeletSocketPath_of_some`, `Config.kubeletSocketPath_of_none`: where the socket of the
  kubelet is.
* `Config.aliasFor_eq_some_iff_layer`: which alias a category goes by.
* `ConfigField.layer_set?_self`, `ConfigField.layer_set?_of_ne`: a value from a file is that of its
  own setting, and of no other one.
-/

namespace GpuPassthrough

/-- The value of a setting. -/
inductive SettingValue where
  | text (s : String)
  | seconds (n : UInt64)
  | port (n : UInt16)
  deriving DecidableEq

/-- The values that a layer of the configuration gives. -/
abbrev Layer := ConfigField → Option SettingValue

namespace Layer

/-- The layer that gives nothing. -/
def empty : Layer := fun _ => none

/-- A layer over another one: each setting comes from the upper one, if that gives it. -/
def above (upper lower : Layer) : Layer := fun field => (upper field).or (lower field)

/-- **Settings that cannot give a working plugin**: the namespace or the vendor is empty, or the
timeout is zero. -/
def IsUnusable (layer : Layer) : Prop :=
  layer .deviceNamespace = some (.text "") ∨ layer .cdiVendor = some (.text "") ∨
    layer .timeoutSeconds = some (.seconds 0)

/-- It does not matter which of three layers are put together first. -/
theorem above_assoc (upper middle lower : Layer) :
    (upper.above middle).above lower = upper.above (middle.above lower) := by
  funext field
  exact Option.or_assoc

end Layer

/-- The setting of the alias for switches or for GPUs. -/
def ConfigField.alias (switch : Bool) : ConfigField := if switch then .switchAlias else .gpuAlias

namespace Config

variable {c : Config}

/-- The settings of a configuration; an optional one may have no value. -/
def layer (c : Config) : Layer
  | .deviceNamespace => some (.text c.deviceNamespace)
  | .gpuAlias => c.gpuAlias.map .text
  | .switchAlias => c.switchAlias.map .text
  | .cdiRoot => some (.text c.cdiRoot)
  | .cdiVendor => some (.text c.cdiVendor)
  | .hostRoot => some (.text c.hostRoot)
  | .sysfsRoot => some (.text c.sysfsRoot)
  | .vfioRoot => some (.text c.vfioRoot)
  | .pluginDirectory => some (.text c.pluginDirectory)
  | .kubeletSocket => c.kubeletSocket.map .text
  | .timeoutSeconds => some (.seconds c.timeoutSeconds)
  | .logLevel => some (.text c.logLevel)
  | .metricsPort => c.metricsPort.map .port

/-- The settings that hold where no layer gives another value. -/
def defaults : Layer := layer {}

/-- **Which configurations are refused.** -/
theorem isUnusable_layer_iff : c.layer.IsUnusable ↔ c.validate ≠ .ok () := by
  simp only [Layer.IsUnusable, layer, ne_eq, validate_eq_ok_iff, Option.some.injEq,
    SettingValue.text.injEq, SettingValue.seconds.injEq, Decidable.not_and_iff_not_or_not,
    Decidable.not_not]

/-- The socket of the kubelet is the one that is set. -/
theorem kubeletSocketPath_of_some {socket : String}
    (hsocket : c.layer .kubeletSocket = some (.text socket)) : c.kubeletSocketPath = socket := by
  obtain ⟨other, hother, heq⟩ := Option.map_eq_some_iff.1 hsocket
  rw [kubeletSocketPath, hother, Option.getD_some]
  exact SettingValue.text.inj heq

/-- Where none is set it is in the directory of the plugin sockets. -/
theorem kubeletSocketPath_of_none (hsocket : c.layer .kubeletSocket = none) {directory : String}
    (hdirectory : c.layer .pluginDirectory = some (.text directory)) :
    c.kubeletSocketPath = Path.join directory "kubelet.sock" := by
  have hnone : c.kubeletSocket = none := Option.map_eq_none_iff.1 hsocket
  rw [kubeletSocketPath, hnone, Option.getD_none, kubeletSocketName]
  rw [← SettingValue.text.inj (Option.some.inj hdirectory)]

/-- **Which alias a category goes by**: the one that is set, unless it is empty. -/
theorem aliasFor_eq_some_iff_layer {switch : Bool} {name : String} :
    c.aliasFor switch = some name ↔
      c.layer (.alias switch) = some (.text name) ∧ name ≠ "" := by
  rw [aliasFor_eq_some_iff]
  cases switch <;> simp [ConfigField.alias, layer]

end Config

namespace ConfigField

/-- The value that a file gives a setting; `null` gives none. -/
def fileValue? (field : ConfigField) (value : Json) : Option SettingValue :=
  match field with
  | timeoutSeconds => (below? UInt64.size value).map fun n => .seconds (UInt64.ofNat n)
  | metricsPort => (below? UInt16.size value).map fun n => .port (UInt16.ofNat n)
  | _ => value.text?.map .text

variable {field other : ConfigField} {value : Json} {c c' : Config}

/-- A value that may be `null` is none, or it is what is read. -/
theorem read_of_optional? {α : Type} {read : Json → Option α} (hnull : read .null = none)
    {result : Option α} (hread : optional? read value = some result) : read value = result := by
  cases value with
  | null => exact hnull.trans (Option.some.inj hread)
  | bool | number | string | array | object =>
    obtain ⟨x, hx, hsome⟩ := Option.map_eq_some_iff.1 hread
    exact hx.trans hsome

/-- **A value from a file is that of its setting**; `null` leaves an optional setting as it is by
default. -/
theorem layer_set?_self (hset : field.set? value c = some c') :
    c'.layer field = (field.fileValue? value).or (Config.defaults field) := by
  cases field
  case gpuAlias | switchAlias | kubeletSocket =>
    obtain ⟨result, hread, rfl⟩ := Option.map_eq_some_iff.1 hset
    have hresult := read_of_optional? rfl hread
    simp [fileValue?, Config.layer, Config.defaults, hresult]
  case metricsPort =>
    obtain ⟨result, hread, rfl⟩ := Option.map_eq_some_iff.1 hset
    have hresult := read_of_optional? rfl hread
    simp [fileValue?, Config.layer, Config.defaults, hresult, Function.comp_def]
  all_goals
    obtain ⟨result, hread, rfl⟩ := Option.map_eq_some_iff.1 hset
    simp [fileValue?, Config.layer, hread]

/-- **It changes no other setting.** -/
theorem layer_set?_of_ne (hset : field.set? value c = some c') (hne : other ≠ field) :
    c'.layer other = c.layer other := by
  cases field <;> obtain ⟨_, -, rfl⟩ := Option.map_eq_some_iff.1 hset <;> cases other <;>
    first
    | rfl
    | exact absurd rfl hne

end ConfigField

end GpuPassthrough
