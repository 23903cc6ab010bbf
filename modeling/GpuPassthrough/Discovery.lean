import GpuPassthrough.Isolation.Handles
import GpuPassthrough.Metrics
import GpuPassthrough.Pci.Sysfs
import GpuPassthrough.Snapshot.Basic

/-!
# Discovery

A discovery pass keeps the GPUs and switches that are in the hands of user space and belong to an
isolation group. Whether the host gives out handles is asked first, so that a failure to find out
wins over a failure to list the devices.

## Main results

* `accept?_eq_some_iff`: which devices are kept, and as what.
-/

namespace GpuPassthrough

/-- A listed device as a passed-through one, if it is one. -/
def PciDevice.accept? (d : PciDevice) : Option PassthroughDevice :=
  if (d.isGpu || d.isSwitch) && d.isPassedThrough then
    d.group.map fun group => {
      address := d.address
      deviceId := d.deviceId
      name := d.name
      group := group
      handle := d.handle
      isSwitch := d.isSwitch }
  else none

namespace Discovery

/-- A discovery pass over what the host supports and what was listed. A failed pass leaves the
metrics as they are. -/
def run (capability : Except PluginError Bool) (listing : Except PluginError (List PciDevice))
    (m : Metrics) : Metrics × Except PluginError Snapshot :=
  match capability, listing with
  | .error e, _ => (m, .error e)
  | .ok _, .error e => (m, .error e)
  | .ok handles, .ok devices =>
    let s := Snapshot.ofDevices handles (devices.filterMap PciDevice.accept?)
    (m.set .discoveredUnits s.units.length, .ok s)

/-- A discovery pass on a host whose devices were listed. -/
def discover (look : FileTree.Look) (hostRoot : String)
    (listing : Except PluginError (List PciDevice)) (m : Metrics) :
    Metrics × Except PluginError Snapshot :=
  run (Isolation.supportsHandles look hostRoot) listing m

end Discovery

/-- A device is kept exactly if it is a GPU or a switch, in the hands of user space, in a group. -/
theorem PciDevice.accept?_eq_some_iff {d : PciDevice} {p : PassthroughDevice} :
    d.accept? = some p ↔ (d.isGpu = true ∨ d.isSwitch = true) ∧ d.isPassedThrough = true ∧
      ∃ group, d.group = some group ∧
        p = ⟨d.address, d.deviceId, d.name, group, d.handle, d.isSwitch⟩ := by
  unfold accept?
  split
  · next h =>
    simp only [Bool.and_eq_true, Bool.or_eq_true] at h
    rw [Option.map_eq_some_iff]
    constructor
    · rintro ⟨group, hgroup, rfl⟩; exact ⟨h.1, h.2, group, hgroup, rfl⟩
    · rintro ⟨-, -, group, hgroup, rfl⟩; exact ⟨group, hgroup, rfl⟩
  · next h =>
    simp only [Bool.and_eq_true, Bool.or_eq_true] at h
    constructor
    · intro h'; simp at h'
    · rintro ⟨h₁, h₂, -⟩; exact absurd ⟨h₁, h₂⟩ h

end GpuPassthrough
