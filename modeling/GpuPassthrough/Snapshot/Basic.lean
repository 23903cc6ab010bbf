import GpuPassthrough.Snapshot.Index
import GpuPassthrough.Text.Numeral

/-!
# Snapshots

What one discovery pass found: the isolation units with their devices, and for each device class the
units that it owns. A unit belongs to the class of the first device that was seen in it.

## Main results

* `unit?_add_self`, `unit?_add_of_ne`: a device joins exactly the unit of its key.
-/

namespace GpuPassthrough

/-- A GPU or a switch that is in the hands of user space. -/
structure PassthroughDevice where
  address : String := "0000:01:00.0"
  deviceId : UInt16 := 0
  name : String := ""
  group : UInt32 := 0
  handle : Option String := none
  isSwitch : Bool := false
  deriving DecidableEq

namespace PassthroughDevice

/-- The class of a device: its device number. -/
def classId (d : PassthroughDevice) : String := Text.hexWord d.deviceId

/-- The key of the unit of a device: its handle where the host gives out handles and the device has
one, else the number of its group. -/
def unitKey (handles : Bool) (d : PassthroughDevice) : String :=
  match d.handle, handles with
  | some handle, true => handle
  | _, _ => toString d.group.toNat

end PassthroughDevice

/-- The result of a discovery pass. -/
structure Snapshot where
  /-- Whether the host gives out handles. -/
  handles : Bool := false
  /-- The units with their devices, in the order in which the units were first seen. -/
  units : List (String × List PassthroughDevice) := []
  /-- The classes, ascending, with the keys of the units that they own. -/
  classes : List (String × List String) := []
  /-- The classes of switches, ascending. -/
  switchClasses : List String := []

namespace Snapshot

/-- The devices of a unit. -/
def unit? (s : Snapshot) (key : String) : Option (List PassthroughDevice) := s.units.lookup key

/-- The keys of the units that a class owns. -/
def classUnits (s : Snapshot) (classId : String) : List String := Index.group classId s.classes

/-- Whether a class holds switches. -/
def isSwitchClass (s : Snapshot) (classId : String) : Bool := s.switchClasses.contains classId

/-- Whether nothing was found. -/
def isEmpty (s : Snapshot) : Bool := s.units.isEmpty

/-- Every device, unit by unit. -/
def devices (s : Snapshot) : List PassthroughDevice := s.units.flatMap (·.2)

/-- A snapshot with one more device. -/
def add (s : Snapshot) (d : PassthroughDevice) : Snapshot :=
  let key := d.unitKey s.handles
  { s with
    units := Index.push key d s.units
    classes := if (s.unit? key).isSome then s.classes else Index.pushSorted d.classId key s.classes
    switchClasses :=
      if d.isSwitch then Index.insertSorted d.classId s.switchClasses else s.switchClasses }

/-- The snapshot of a list of devices. -/
def ofDevices (handles : Bool) (devices : List PassthroughDevice) : Snapshot :=
  devices.foldl add { handles := handles }

/-- A device joins the unit of its key, as its last member. -/
theorem unit?_add_self (s : Snapshot) (d : PassthroughDevice) :
    (s.add d).unit? (d.unitKey s.handles) =
      some ((s.unit? (d.unitKey s.handles)).getD [] ++ [d]) :=
  Index.lookup_push_self _ _ _

/-- A device joins no other unit. -/
theorem unit?_add_of_ne (s : Snapshot) {d : PassthroughDevice} {key : String}
    (h : key ≠ d.unitKey s.handles) : (s.add d).unit? key = s.unit? key :=
  Index.lookup_push_of_ne h _ _

/-- Adding a device does not change whether the host gives out handles. -/
@[simp] theorem handles_add (s : Snapshot) (d : PassthroughDevice) :
    (s.add d).handles = s.handles := rfl

end Snapshot

end GpuPassthrough
