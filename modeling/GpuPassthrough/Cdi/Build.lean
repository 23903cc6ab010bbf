import GpuPassthrough.Cdi.Plan
import GpuPassthrough.Cdi.Spec
import GpuPassthrough.Isolation.Nodes
import GpuPassthrough.Isolation.UnitKey

/-!
# Building a Device Specification

The units are visited in the order of their keys. Each device in scope claims its ordinal, the
number of its group and its handle as names, and the first device to claim a name keeps it.

## Main results

* `claim_of_mem`: a name that is taken stays as it is.
-/

namespace GpuPassthrough.Cdi

/-- The nodes that a device of a unit brings: the node of its handle where the host gives out
handles and the device has one, else the control node and the node of the unit. -/
def deviceNodes (vfioRoot key : String) (handles : Bool) (d : PassthroughDevice) : List String :=
  match d.handle, handles with
  | some handle, true => [Isolation.handleNode vfioRoot handle]
  | _, _ => [Isolation.controlNode vfioRoot, Isolation.groupNode vfioRoot key]

namespace Spec

/-- The names that a device claims. -/
def namesOf (ordinal : Nat) (d : PassthroughDevice) : List String :=
  [toString ordinal, toString d.group.toNat] ++ d.handle.toList

/-- Gives nodes a name, unless the name is taken. -/
def claim (nodes : List String) (devices : List Device) (name : String) : List Device :=
  if name ∈ devices.map Device.name then devices else devices ++ [⟨name, nodes⟩]

/-- The devices of a snapshot in the order of the keys of their units, each with its unit. -/
def inKeyOrder (s : Snapshot) : List (String × PassthroughDevice) :=
  (UnitKey.sort (s.units.map (·.1))).flatMap fun key =>
    ((s.unit? key).getD []).map (Prod.mk key)

/-- Enters the names of devices, the first of which has the given ordinal. -/
def enterFrom (vfioRoot : String) (handles : Bool) :
    Nat → List Device → List (String × PassthroughDevice) → List Device
  | _, entered, [] => entered
  | ordinal, entered, (key, d) :: rest =>
    enterFrom vfioRoot handles (ordinal + 1)
      ((namesOf ordinal d).foldl (claim (deviceNodes vfioRoot key handles d)) entered) rest

/-- The specification of a class, if a device is in its scope. -/
def build? (s : Snapshot) (c : Config) (className : String) (scope : Scope) : Option Spec :=
  let devices := enterFrom c.vfioRoot s.handles 0 []
    ((inKeyOrder s).filter fun entry => scope.covers entry.2)
  if devices.isEmpty then none else some ⟨c.cdiVendor, className, devices⟩

/-- A name that is taken stays as it is. -/
theorem claim_of_mem {nodes : List String} {devices : List Device} {name : String}
    (h : name ∈ devices.map Device.name) : claim nodes devices name = devices := by
  simp only [claim, h, if_true]

end Spec

end GpuPassthrough.Cdi
