import GpuPassthrough.Config.Basic
import GpuPassthrough.Naming
import GpuPassthrough.Snapshot.Basic

/-!
# Class Names

The name under which a device class is advertised: the alias of its category, the formatted name of
one of its devices, or its number.
-/

namespace GpuPassthrough.Snapshot

/-- The formatted name of the first device of a class, first among the units that the class owns and
then among all; empty if there is none. Separators at the ends of the name are padding. -/
def deviceName (s : Snapshot) (classId : String) : String :=
  let owned := (s.classUnits classId).flatMap fun key => (s.unit? key).getD []
  match (owned ++ s.devices).find? fun d => d.classId = classId with
  | some d => Naming.trimSeparators (Naming.format d.name)
  | none => ""

/-- The name of a class by its devices, or by its number if they have no usable name. -/
def plainName (s : Snapshot) (classId : String) : String :=
  if s.deviceName classId = "" then classId else s.deviceName classId

/-- The name under which a class is advertised. -/
def displayName (s : Snapshot) (c : Config) (classId : String) : String :=
  (c.aliasFor (s.isSwitchClass classId)).getD (s.plainName classId)

/-- The name of the first class of GPUs. -/
def gpuClassName? (s : Snapshot) (c : Config) : Option String :=
  ((s.classes.map (·.1)).find? fun id => !s.isSwitchClass id).map (s.displayName c)

end GpuPassthrough.Snapshot
