import GpuPassthrough.Proofs.Snapshot.Units
import GpuPassthrough.Snapshot.Names

/-!
# Classes of a Snapshot

A unit belongs to the class of the device that opened it, and to no other; no class is without a
unit. The classes of switches are those of the devices that are switches. Where the devices of a unit
are of one class, a class owns the units of its devices.

## Main results

* `entries_classes_ofDevices`: a unit belongs to the class of its first device.
* `ne_nil_of_mem_classes`: no class is without a unit.
* `isSwitchClass_ofDevices_iff`: the classes of switches.
* `HasPureUnits.mem_entries_iff`: the units of a class, where units are of one class.
-/

namespace GpuPassthrough.Snapshot

/-! ### Which class owns a unit -/

/-- A device that opens a unit gives it to its class. -/
theorem entries_classes_add (s : Snapshot) (d : PassthroughDevice) {id key : String} :
    (id, key) ∈ Index.entries (s.add d).classes ↔
      (id, key) ∈ Index.entries s.classes ∨
        s.unit? key = none ∧ key = d.unitKey s.handles ∧ id = d.classId := by
  by_cases hsome : (s.unit? (d.unitKey s.handles)).isSome
  · have hclasses : (s.add d).classes = s.classes := if_pos hsome
    rw [hclasses]
    refine ⟨.inl, fun hor => hor.resolve_right ?_⟩
    rintro ⟨hnone, rfl, -⟩
    rw [hnone] at hsome
    cases hsome
  · have hclasses : (s.add d).classes =
        Index.pushSorted d.classId (d.unitKey s.handles) s.classes := if_neg hsome
    rw [hclasses, (Index.entries_pushSorted ..).mem_iff, List.mem_cons, Prod.mk.injEq, or_comm]
    refine or_congr_right ⟨?_, fun h => ⟨h.2.2, h.2.1⟩⟩
    rintro ⟨rfl, rfl⟩
    exact ⟨Option.not_isSome_iff_eq_none.1 hsome, rfl, rfl⟩

/-- **A unit belongs to the class of its first device**, and to no other. -/
theorem entries_classes_ofDevices {handles : Bool} {devices : List PassthroughDevice}
    {id key : String} :
    (id, key) ∈ Index.entries (ofDevices handles devices).classes ↔
      ∃ first rest, (ofDevices handles devices).unit? key = some (first :: rest) ∧
        first.classId = id := by
  induction devices using List.reverseRecOn with
  | nil => simp [ofDevices, Index.entries, unit?]
  | append_singleton devices d ih =>
    rw [ofDevices_concat, entries_classes_add, ih]
    by_cases hkey : key = d.unitKey (ofDevices handles devices).handles
    · rw [hkey, unit?_add_self]
      cases hunit : (ofDevices handles devices).unit? (d.unitKey (ofDevices handles devices).handles) with
      | none => simp [eq_comm]
      | some members =>
        obtain ⟨first, rest, rfl⟩ := List.exists_cons_of_ne_nil (members_ofDevices hunit).1
        simp
    · rw [unit?_add_of_ne _ hkey]
      exact or_iff_left fun h => hkey h.2.1

/-- **No class is without a unit.** -/
theorem ne_nil_of_mem_classes (handles : Bool) (devices : List PassthroughDevice) :
    ∀ owner ∈ (ofDevices handles devices).classes, owner.2 ≠ [] := by
  induction devices using List.reverseRecOn with
  | nil => exact fun _ howner => nomatch howner
  | append_singleton devices d ih =>
    rw [ofDevices_concat]
    simp only [add]
    split
    · exact ih
    · exact Index.ne_nil_of_mem_pushSorted ih _ _

/-- **The classes of switches** are those of the devices that are switches. -/
theorem isSwitchClass_ofDevices_iff {handles : Bool} {devices : List PassthroughDevice}
    {id : String} :
    (ofDevices handles devices).isSwitchClass id = true ↔
      ∃ d ∈ devices, d.isSwitch = true ∧ d.classId = id := by
  rw [isSwitchClass, List.contains_iff_mem]
  induction devices using List.reverseRecOn with
  | nil => simp [ofDevices]
  | append_singleton devices d ih =>
    rw [ofDevices_concat]
    simp only [add]
    split
    · next hswitch =>
      rw [Index.mem_insertSorted, ih]
      simp [hswitch, or_and_right, exists_or, or_comm, eq_comm (a := id)]
    · next hgpu =>
      rw [ih]
      simp [hgpu, or_and_right, exists_or]

/-! ### Units of one class -/

/-- **Units are of one class**: devices of one unit have one number. -/
def HasPureUnits (handles : Bool) (devices : List PassthroughDevice) : Prop :=
  ∀ d ∈ devices, ∀ other ∈ devices, d.unitKey handles = other.unitKey handles →
    d.deviceId = other.deviceId

instance (handles : Bool) (devices : List PassthroughDevice) :
    Decidable (HasPureUnits handles devices) :=
  inferInstanceAs (Decidable (∀ d ∈ devices, ∀ other ∈ devices,
    d.unitKey handles = other.unitKey handles → d.deviceId = other.deviceId))

namespace HasPureUnits

variable {handles : Bool} {devices : List PassthroughDevice}

/-- **A class owns the units of its devices.** -/
theorem mem_entries_iff (hpure : HasPureUnits handles devices) {id key : String} :
    (id, key) ∈ Index.entries (ofDevices handles devices).classes ↔
      ∃ d ∈ devices, d.classId = id ∧ d.unitKey handles = key := by
  rw [entries_classes_ofDevices]
  constructor
  · rintro ⟨first, rest, hunit, hclass⟩
    obtain ⟨hlisted, hkey⟩ := (mem_members_iff hunit).1 List.mem_cons_self
    exact ⟨first, hlisted, hclass, hkey⟩
  · rintro ⟨d, hd, hclass, rfl⟩
    obtain ⟨members, hunit, -⟩ := exists_members hd handles
    obtain ⟨first, rest, rfl⟩ := List.exists_cons_of_ne_nil (members_ofDevices hunit).1
    obtain ⟨hlisted, hkey⟩ := (mem_members_iff hunit).1 List.mem_cons_self
    refine ⟨first, rest, hunit, ?_⟩
    rw [← hclass, PassthroughDevice.classId, PassthroughDevice.classId,
      hpure first hlisted d hd hkey]

/-- A class that owns something is that of a device, and every device is of such a class. -/
theorem mem_keys_classes_iff (hpure : HasPureUnits handles devices) {id : String} :
    (∃ owner ∈ (ofDevices handles devices).classes, owner.1 = id) ↔
      ∃ d ∈ devices, d.classId = id := by
  constructor
  · rintro ⟨⟨id, keys⟩, howner, rfl⟩
    obtain ⟨key, hkey⟩ :=
      List.exists_mem_of_ne_nil _ (ne_nil_of_mem_classes handles devices _ howner)
    obtain ⟨d, hd, hclass, -⟩ :=
      hpure.mem_entries_iff.1 (Index.mem_entries_iff.2 ⟨keys, howner, hkey⟩)
    exact ⟨d, hd, hclass⟩
  · rintro ⟨d, hd, hclass⟩
    obtain ⟨keys, howner, -⟩ :=
      Index.mem_entries_iff.1 (hpure.mem_entries_iff.2 ⟨d, hd, hclass, rfl⟩)
    exact ⟨_, howner, rfl⟩

end HasPureUnits

/-- **Units are of one class, and classes of one kind**: devices of one unit have one number, and
devices of one number are all switches or all GPUs. -/
structure IsUniform (handles : Bool) (devices : List PassthroughDevice) : Prop where
  unit : ∀ d ∈ devices, ∀ other ∈ devices, d.unitKey handles = other.unitKey handles →
    d.deviceId = other.deviceId
  kind : ∀ d ∈ devices, ∀ other ∈ devices, d.deviceId = other.deviceId →
    d.isSwitch = other.isSwitch

namespace IsUniform

variable {handles : Bool} {devices : List PassthroughDevice}

/-- Units are of one class. -/
theorem hasPureUnits (huniform : IsUniform handles devices) : HasPureUnits handles devices :=
  huniform.unit

/-- Devices of one class are of one kind. -/
theorem isSwitch_eq (huniform : IsUniform handles devices) {d other : PassthroughDevice}
    (hd : d ∈ devices) (hother : other ∈ devices) (hclass : d.classId = other.classId) :
    d.isSwitch = other.isSwitch :=
  huniform.kind d hd other hother (Text.hexWord_inj.1 hclass)

/-- The class of a device is of its kind. -/
theorem isSwitchClass_eq (huniform : IsUniform handles devices) {d : PassthroughDevice}
    (hd : d ∈ devices) : (ofDevices handles devices).isSwitchClass d.classId = d.isSwitch := by
  rw [Bool.eq_iff_iff, isSwitchClass_ofDevices_iff]
  constructor
  · rintro ⟨other, hother, hswitch, hclass⟩
    rw [huniform.isSwitch_eq hd hother hclass.symm, hswitch]
  · exact fun hswitch => ⟨d, hd, hswitch, rfl⟩

/-- The class of a device is advertised under the alias for its kind, or under its plain name. -/
theorem displayName_eq (huniform : IsUniform handles devices) {d : PassthroughDevice}
    (hd : d ∈ devices) (c : Config) :
    (ofDevices handles devices).displayName c d.classId =
      (c.aliasFor d.isSwitch).getD ((ofDevices handles devices).plainName d.classId) := by
  rw [displayName, huniform.isSwitchClass_eq hd]

end IsUniform

end GpuPassthrough.Snapshot
