import GpuPassthrough.Proofs.Isolation.KeyOrder
import GpuPassthrough.Proofs.Snapshot.Classes

/-!
# What a Snapshot Says of its Devices

One pass over the devices fills three tables: the units, the classes with the units that they own,
and the classes of switches. Each of them is a plain function of the list of devices: a unit is the
part of the list with its key, a class owns the units that one of its devices opened, in the order
in which they were opened, and the classes of switches are those of the devices that are switches.

## Main results

* `keys_ofDevices`: the units come in the order in which their keys first appear.
* `classUnits_ofDevices`: which units a class owns, and in which order.
* `share_iff`: two devices share a unit exactly if they have one key.
* `represents_ofDevices`: the three tables, and when two devices share a unit.
-/

namespace GpuPassthrough.Snapshot

variable {handles : Bool} {devices : List PassthroughDevice}

/-! ### First appearances -/

/-- The keys of devices, in the order in which they first appear. -/
def firstKeys (handles : Bool) (devices : List PassthroughDevice) : List String :=
  (devices.map (·.unitKey handles)).eraseDups

/-- The class that opened the unit of a key: that of the first device with the key. -/
def opener? (handles : Bool) (devices : List PassthroughDevice) (key : String) : Option String :=
  (devices.find? fun d => d.unitKey handles = key).map PassthroughDevice.classId

/-- The keys are those of the devices. -/
theorem mem_firstKeys_iff {key : String} :
    key ∈ firstKeys handles devices ↔ ∃ d ∈ devices, d.unitKey handles = key := by
  rw [firstKeys, List.mem_eraseDups, List.mem_map]

/-- A device adds its key, last, unless the key has appeared. -/
theorem firstKeys_concat (devices : List PassthroughDevice) (d : PassthroughDevice) :
    firstKeys handles (devices ++ [d]) =
      if d.unitKey handles ∈ firstKeys handles devices then firstKeys handles devices
      else firstKeys handles devices ++ [d.unitKey handles] := by
  have hconcat := Index.eraseDups_concat (devices.map (·.unitKey handles)) (d.unitKey handles)
  simp only [firstKeys, List.mem_eraseDups, List.map_append, List.map_singleton]
  exact hconcat

/-- A unit that was opened stays with its opener. -/
theorem opener?_concat_of_mem {key : String} (hkey : key ∈ firstKeys handles devices)
    (d : PassthroughDevice) :
    opener? handles (devices ++ [d]) key = opener? handles devices key := by
  obtain ⟨other, hother, hkey⟩ := mem_firstKeys_iff.1 hkey
  have hsome : (devices.find? fun d => d.unitKey handles = key).isSome :=
    List.find?_isSome.2 ⟨other, hother, decide_eq_true hkey⟩
  rw [opener?, List.find?_append, Option.or_of_isSome hsome, opener?]

/-- A device opens the unit of a key that has not appeared. -/
theorem opener?_concat_of_not_mem {d : PassthroughDevice}
    (hkey : d.unitKey handles ∉ firstKeys handles devices) :
    opener? handles (devices ++ [d]) (d.unitKey handles) = some d.classId := by
  have hnone : (devices.find? fun other => other.unitKey handles = d.unitKey handles) = none := by
    rw [List.find?_eq_none]
    exact fun other hother heq =>
      hkey (mem_firstKeys_iff.2 ⟨other, hother, of_decide_eq_true heq⟩)
  rw [opener?, List.find?_append, hnone]
  simp

/-! ### The tables -/

/-- **The units come in the order in which their keys first appear.** -/
theorem keys_ofDevices (handles : Bool) (devices : List PassthroughDevice) :
    (ofDevices handles devices).units.map Prod.fst = firstKeys handles devices := by
  induction devices using List.reverseRecOn with
  | nil => rfl
  | append_singleton devices d ih =>
    have hkeys := Index.keys_push (d.unitKey (ofDevices handles devices).handles) d
      (ofDevices handles devices).units
    rw [ih, handles_ofDevices] at hkeys
    rw [ofDevices_concat, firstKeys_concat, ← hkeys]
    simp only [add, handles_ofDevices]

/-- A unit is there exactly if its key has appeared. -/
theorem unit?_isSome_iff_mem {key : String} :
    ((ofDevices handles devices).unit? key).isSome ↔ key ∈ firstKeys handles devices := by
  rw [unit?_isSome_iff, keys_ofDevices]

/-- The classes after one more device: it opens a unit for its class, or joins one. -/
theorem classes_concat (devices : List PassthroughDevice) (d : PassthroughDevice) :
    (ofDevices handles (devices ++ [d])).classes =
      if d.unitKey handles ∈ firstKeys handles devices then (ofDevices handles devices).classes
      else Index.pushSorted d.classId (d.unitKey handles) (ofDevices handles devices).classes := by
  rw [ofDevices_concat]
  simp only [add, handles_ofDevices, unit?_isSome_iff_mem]

/-- The classes stand in ascending order. -/
theorem ascending_classes (handles : Bool) (devices : List PassthroughDevice) :
    ((ofDevices handles devices).classes.map Prod.fst).Pairwise (· < ·) := by
  induction devices using List.reverseRecOn with
  | nil => exact .nil
  | append_singleton devices d ih =>
    rw [classes_concat]
    split
    · exact ih
    · rw [Index.keys_pushSorted]
      exact Index.ascending_insertSorted ih _

/-- **A class owns the units that it opened**, in the order in which their keys first appear. -/
theorem classUnits_ofDevices (handles : Bool) (devices : List PassthroughDevice) (id : String) :
    (ofDevices handles devices).classUnits id =
      (firstKeys handles devices).filter fun key => opener? handles devices key = some id := by
  induction devices using List.reverseRecOn with
  | nil => rfl
  | append_singleton devices d ih =>
    have hold : ((firstKeys handles devices).filter fun key =>
        opener? handles (devices ++ [d]) key = some id) =
        (ofDevices handles devices).classUnits id := by
      rw [ih]
      refine List.filter_congr fun key hkey => ?_
      rw [opener?_concat_of_mem hkey]
    rw [classUnits, classes_concat, firstKeys_concat]
    split
    · exact hold.symm
    · next hnew =>
      rw [List.filter_append, hold]
      by_cases hid : id = d.classId
      · subst hid
        rw [Index.group_pushSorted_self (ascending_classes handles devices)]
        simp [opener?_concat_of_not_mem hnew, classUnits]
      · rw [Index.group_pushSorted_of_ne hid]
        simp [opener?_concat_of_not_mem hnew, classUnits, Ne.symm hid]

/-- The classes of switches after one more device. -/
theorem switchClasses_concat (devices : List PassthroughDevice) (d : PassthroughDevice) :
    (ofDevices handles (devices ++ [d])).switchClasses =
      if d.isSwitch then Index.insertSorted d.classId (ofDevices handles devices).switchClasses
      else (ofDevices handles devices).switchClasses := by
  rw [ofDevices_concat, add]

/-- The classes of switches stand in ascending order. -/
theorem ascending_switchClasses (handles : Bool) (devices : List PassthroughDevice) :
    (ofDevices handles devices).switchClasses.Pairwise (· < ·) := by
  induction devices using List.reverseRecOn with
  | nil => exact .nil
  | append_singleton devices d ih =>
    rw [switchClasses_concat]
    split
    · exact Index.ascending_insertSorted ih _
    · exact ih

/-! ### Sharing a unit -/

/-- **Two devices share a unit**: one unit holds both. -/
def Share (s : Snapshot) (d other : PassthroughDevice) : Prop :=
  ∃ key members, s.unit? key = some members ∧ d ∈ members ∧ other ∈ members

/-- **Two devices share a unit exactly if they have one key.** -/
theorem share_iff {d other : PassthroughDevice} (hd : d ∈ devices) (hother : other ∈ devices) :
    (ofDevices handles devices).Share d other ↔ d.unitKey handles = other.unitKey handles := by
  constructor
  · rintro ⟨key, members, hunit, hd, hother⟩
    exact ((mem_members_iff hunit).1 hd).2.trans ((mem_members_iff hunit).1 hother).2.symm
  · intro hkey
    obtain ⟨members, hunit, hmem⟩ := exists_members hd handles
    exact ⟨_, members, hunit, hmem, (mem_members_iff hunit).2 ⟨hother, hkey.symm⟩⟩

/-- Where the host gives out groups, devices of one key are of one group. -/
theorem unitKey_eq_iff_of_groups {d other : PassthroughDevice} :
    d.unitKey false = other.unitKey false ↔ d.group = other.group := by
  rw [PassthroughDevice.unitKey_of_group, PassthroughDevice.unitKey_of_group, UnitKey.toString_inj,
    UInt32.toNat_inj]

/-- **Two devices have one boundary** where the host gives out handles: they have one handle, or no
handle and one group. -/
def SameBoundary (d other : PassthroughDevice) : Prop :=
  (∃ handle, d.handle = some handle ∧ other.handle = some handle) ∨
    d.handle = none ∧ other.handle = none ∧ d.group = other.group

/-- A device whose handle can be told from the number of a group. -/
def IsTelling (d : PassthroughDevice) : Prop := ∀ handle ∈ d.handle, ∀ n : Nat, handle ≠ toString n

/-- Where the host gives out handles that are no numbers, devices of one key have one boundary. -/
theorem unitKey_eq_iff_of_handles {d other : PassthroughDevice} (hd : IsTelling d)
    (hother : IsTelling other) :
    d.unitKey true = other.unitKey true ↔ SameBoundary d other := by
  cases hhandle : d.handle with
  | none =>
    cases hhandle' : other.handle with
    | none =>
      simp [PassthroughDevice.unitKey, hhandle, hhandle', SameBoundary, -Nat.toString_eq_repr,
        UnitKey.toString_inj, UInt32.toNat_inj]
    | some handle' =>
      have hne := hother handle' hhandle' d.group.toNat
      simp only [PassthroughDevice.unitKey, hhandle, hhandle', SameBoundary]
      exact iff_of_false (Ne.symm hne) (by simp)
  | some handle =>
    cases hhandle' : other.handle with
    | none =>
      have hne := hd handle hhandle other.group.toNat
      simp only [PassthroughDevice.unitKey, hhandle, hhandle', SameBoundary]
      exact iff_of_false hne (by simp)
    | some handle' => simp [PassthroughDevice.unitKey, hhandle, hhandle', SameBoundary, eq_comm]

/-! ### All together -/

/-- **A snapshot represents a list of devices.** -/
structure Represents (s : Snapshot) (handles : Bool) (devices : List PassthroughDevice) : Prop where
  /-- A unit consists of the devices of its key, in their order, and is there if it has any. -/
  unit : ∀ key, s.unit? key =
    let members := devices.filter fun d => d.unitKey handles = key
    if members = [] then none else some members
  /-- The units are those of the keys, each once. -/
  keys : s.units.map Prod.fst = firstKeys handles devices
  distinct : (firstKeys handles devices).Nodup
  /-- Over all classes together every unit is owned once. -/
  owned : (s.classes.flatMap Prod.snd).Perm (firstKeys handles devices)
  /-- A class owns the units that it opened, in the order of their first appearance. -/
  owner : ∀ owner ∈ s.classes, owner.2 ≠ [] ∧
    owner.2 = (firstKeys handles devices).filter fun key =>
      opener? handles devices key = some owner.1
  /-- The classes ascend. -/
  ascending : (s.classes.map Prod.fst).Pairwise (· < ·)
  /-- The classes of switches are those of the devices that are switches, each once. -/
  switches : ∀ id, id ∈ s.switchClasses ↔ ∃ d ∈ devices, d.isSwitch = true ∧ d.classId = id
  ascendingSwitches : s.switchClasses.Pairwise (· < ·)
  /-- Devices share a unit by their groups, where the host gives out groups. -/
  groups : handles = false → ∀ d ∈ devices, ∀ other ∈ devices,
    (s.Share d other ↔ d.group = other.group)
  /-- Devices share a unit by their boundaries, where the host gives out handles and none of them is
  a number. -/
  boundaries : handles = true → (∀ d ∈ devices, IsTelling d) → ∀ d ∈ devices, ∀ other ∈ devices,
    (s.Share d other ↔ SameBoundary d other)

/-- **The snapshot of a list of devices represents it.** -/
theorem represents_ofDevices (handles : Bool) (devices : List PassthroughDevice) :
    Represents (ofDevices handles devices) handles devices where
  unit := unit?_ofDevices handles devices
  keys := keys_ofDevices handles devices
  distinct := keys_ofDevices handles devices ▸ (wellKeyed_ofDevices handles devices).nodup
  owned := keys_ofDevices handles devices ▸ (wellKeyed_ofDevices handles devices).owned
  owner owner howner := by
    refine ⟨ne_nil_of_mem_classes handles devices owner howner, ?_⟩
    rw [← classUnits_ofDevices]
    exact (Index.group_of_mem (ascending_classes handles devices) howner).symm
  ascending := ascending_classes handles devices
  switches id := by
    have hswitch : (ofDevices handles devices).isSwitchClass id = true ↔ _ :=
      isSwitchClass_ofDevices_iff
    rw [← hswitch, isSwitchClass, List.contains_iff_mem]
  ascendingSwitches := ascending_switchClasses handles devices
  groups hmode d hd other hother := by
    subst hmode
    rw [share_iff hd hother, unitKey_eq_iff_of_groups]
  boundaries hmode htelling d hd other hother := by
    subst hmode
    rw [share_iff hd hother, unitKey_eq_iff_of_handles (htelling d hd) (htelling other hother)]

/-- Devices of one handle share a unit, whatever their groups; a device without a handle shares the
unit of its group with none of them. -/
theorem represents_handles :
    let devices : List PassthroughDevice :=
      [{ group := 1, handle := some "vfio0" }, { group := 1 }, { group := 2, handle := some "vfio0" }]
    (∀ d ∈ devices, IsTelling d) ∧
      (ofDevices true devices).Share devices[0] devices[2] ∧
      ¬ (ofDevices true devices).Share devices[0] devices[1] := by
  intro devices
  have htelling : ∀ d ∈ devices, IsTelling d := by
    have hvfio : ∀ d ∈ devices, ∀ handle ∈ d.handle, 'v' ∈ handle.toList := by decide
    intro d hd handle hhandle n heq
    have hdigit : 'v'.isDigit = true :=
      UnitKey.isDigit_of_mem_toString (heq ▸ hvfio d hd handle hhandle)
    exact absurd hdigit (by decide)
  have hshare := (represents_ofDevices true devices).boundaries rfl htelling
  refine ⟨htelling, ?_, ?_⟩
  · exact (hshare _ (by decide) _ (by decide)).2 (.inl ⟨"vfio0", rfl, rfl⟩)
  · intro hboth
    rcases (hshare _ (by decide) _ (by decide)).1 hboth with ⟨handle, -, hnone⟩ | ⟨hnone, -⟩
    · cases hnone
    · cases hnone

end GpuPassthrough.Snapshot
