/-!
# Consultations

Besides what it does for health and allocations, a plugin can be asked how it wants to be used, which
units it would rather give away, and to prepare a container that is about to start. It wants nothing
special, has no preference, and has nothing to prepare.
-/

namespace GpuPassthrough

/-- How a plugin wants to be used. -/
structure PluginOptions where
  /-- Whether it is to be told before a container starts. -/
  preStartRequired : Bool
  /-- Whether it can be asked for its preference. -/
  preferenceAvailable : Bool
  deriving DecidableEq

/-- How every plugin wants to be used. -/
def PluginOptions.plain : PluginOptions := ⟨false, false⟩

/-- What a plugin is asked besides. -/
inductive Consultation where
  /-- How does it want to be used? -/
  | options
  /-- Which of the units that are available to each container would it rather give away? -/
  | preference (available : List (List String))
  /-- A container with some units is about to start. -/
  | prepare (units : List String)

/-- What a plugin says to a consultation. -/
inductive Advice where
  | options (options : PluginOptions)
  /-- The units that are preferred, for each container that a preference is about. -/
  | preference (preferred : List (List String))
  | prepared
  deriving DecidableEq

/-- The answer to a consultation, which is the same for every plugin. -/
def Consultation.advice : Consultation → Advice
  | options => .options .plain
  | preference _ => .preference []
  | prepare _ => .prepared

end GpuPassthrough
