import GpuPassthrough.Proofs.Snapshot.Index
import GpuPassthrough.Snapshot.Basic
import Mathlib.Data.List.Induction

/-!
# Units of a Snapshot

A snapshot grows by one device at a time. A device joins the unit of its key, and a unit goes to the
class of the device that opened it, so the units of all classes together are the units of the
snapshot, each once. The devices of a unit are the listed devices of its key, in their order.

## Main results

* `wellKeyed_ofDevices`: no key belongs to two units, and the classes share the units out.
* `unit?_ofDevices`, `mem_members_iff`: the devices of a unit are those of its key.
* `entries_ofDevices`: every device is in one unit, as often as it was listed.
-/

namespace GpuPassthrough

/-- On a host that gives out groups, the key of a device is the number of its group. -/
theorem PassthroughDevice.unitKey_of_group (d : PassthroughDevice) :
    d.unitKey false = toString d.group.toNat := by
  cases hhandle : d.handle <;> simp only [unitKey, hhandle]

/-- A device is known by its handle, if the host gives out handles and it has one. -/
theorem PassthroughDevice.unitKey_of_handle {d : PassthroughDevice} {handle : String}
    (hhandle : d.handle = some handle) : d.unitKey true = handle := by
  simp only [unitKey, hhandle]

namespace Snapshot

/-- The last device is added to the snapshot of those before it. -/
theorem ofDevices_concat (handles : Bool) (devices : List PassthroughDevice)
    (d : PassthroughDevice) :
    ofDevices handles (devices ++ [d]) = (ofDevices handles devices).add d := by
  simp [ofDevices]

/-- A snapshot remembers whether the host gives out handles. -/
@[simp] theorem handles_ofDevices (handles : Bool) (devices : List PassthroughDevice) :
    (ofDevices handles devices).handles = handles := by
  induction devices using List.reverseRecOn with
  | nil => rfl
  | append_singleton devices d ih => rw [ofDevices_concat, handles_add, ih]

/-- A unit is there exactly if its key is. -/
theorem unit?_isSome_iff {s : Snapshot} {key : String} :
    (s.unit? key).isSome ↔ key ∈ s.units.map Prod.fst :=
  Index.lookup_isSome_iff

/-- **No key belongs to two units, and the classes share the units out.** -/
structure WellKeyed (s : Snapshot) : Prop where
  nodup : (s.units.map Prod.fst).Nodup
  owned : (s.classes.flatMap Prod.snd).Perm (s.units.map Prod.fst)

/-- A device opens a unit or joins one. -/
theorem WellKeyed.add {s : Snapshot} (hs : s.WellKeyed) (d : PassthroughDevice) :
    (s.add d).WellKeyed := by
  have hkeys := Index.keys_push (d.unitKey s.handles) d s.units
  by_cases hmem : d.unitKey s.handles ∈ s.units.map Prod.fst
  · rw [if_pos hmem] at hkeys
    have hclasses : (s.add d).classes = s.classes := if_pos (unit?_isSome_iff.2 hmem)
    refine ⟨?_, ?_⟩
    · exact hkeys ▸ hs.nodup
    · rw [hclasses]
      exact hkeys ▸ hs.owned
  · rw [if_neg hmem] at hkeys
    have hclasses : (s.add d).classes =
        Index.pushSorted d.classId (d.unitKey s.handles) s.classes :=
      if_neg fun hsome => hmem (unit?_isSome_iff.1 hsome)
    refine ⟨?_, ?_⟩
    · have hnew := hs.nodup.concat hmem
      rw [List.concat_eq_append, ← hkeys] at hnew
      exact hnew
    · have hvalues :=
        (Index.entries_pushSorted d.classId (d.unitKey s.handles) s.classes).map Prod.snd
      rw [List.map_cons, Index.entries_map_snd, Index.entries_map_snd] at hvalues
      have hlast :=
        (hs.owned.cons (d.unitKey s.handles)).trans (List.perm_append_singleton _ _).symm
      rw [← hkeys] at hlast
      rw [hclasses]
      exact hvalues.trans hlast

/-- Every snapshot of devices is well keyed. -/
theorem wellKeyed_ofDevices (handles : Bool) (devices : List PassthroughDevice) :
    (ofDevices handles devices).WellKeyed := by
  induction devices using List.reverseRecOn with
  | nil => exact ⟨List.nodup_nil, .refl _⟩
  | append_singleton devices d ih =>
    rw [ofDevices_concat]
    exact ih.add d

/-- **The devices of a unit are those of its key**, in the order in which they were listed. -/
theorem unit?_ofDevices (handles : Bool) (devices : List PassthroughDevice) (key : String) :
    (ofDevices handles devices).unit? key =
      let members := devices.filter fun d => d.unitKey handles = key
      if members = [] then none else some members := by
  induction devices using List.reverseRecOn with
  | nil => rfl
  | append_singleton devices d ih =>
    rw [ofDevices_concat, List.filter_append]
    by_cases hkey : d.unitKey handles = key
    · subst hkey
      have hadd := unit?_add_self (ofDevices handles devices) d
      rw [handles_ofDevices] at hadd
      rw [hadd, ih]
      by_cases hnil : devices.filter (fun d' => d'.unitKey handles = d.unitKey handles) = [] <;>
        simp [hnil]
    · have hne : key ≠ d.unitKey (ofDevices handles devices).handles := by
        rw [handles_ofDevices]
        exact Ne.symm hkey
      rw [unit?_add_of_ne _ hne, ih]
      simp [hkey]

/-- A unit has a device, and all its devices have its key. -/
theorem members_ofDevices {handles : Bool} {devices members : List PassthroughDevice} {key : String}
    (hunit : (ofDevices handles devices).unit? key = some members) :
    members ≠ [] ∧ ∀ d ∈ members, d.unitKey handles = key := by
  rw [unit?_ofDevices] at hunit
  simp only at hunit
  split at hunit
  · cases hunit
  · next hne =>
    obtain rfl := Option.some.inj hunit
    exact ⟨hne, fun d hd => of_decide_eq_true (List.mem_filter.1 hd).2⟩

/-- The devices of a unit are the listed devices of its key. -/
theorem mem_members_iff {handles : Bool} {devices members : List PassthroughDevice} {key : String}
    (hunit : (ofDevices handles devices).unit? key = some members) {d : PassthroughDevice} :
    d ∈ members ↔ d ∈ devices ∧ d.unitKey handles = key := by
  rw [unit?_ofDevices] at hunit
  simp only at hunit
  split at hunit
  · cases hunit
  · obtain rfl := Option.some.inj hunit
    simp

/-- A listed device is in the unit of its key. -/
theorem exists_members {devices : List PassthroughDevice} {d : PassthroughDevice} (hd : d ∈ devices)
    (handles : Bool) :
    ∃ members, (ofDevices handles devices).unit? (d.unitKey handles) = some members ∧
      d ∈ members := by
  have hmem : d ∈ devices.filter fun other => other.unitKey handles = d.unitKey handles := by
    simpa using hd
  refine ⟨_, ?_, hmem⟩
  rw [unit?_ofDevices]
  exact if_neg (List.ne_nil_of_mem hmem)

/-- The devices of the units are the listed devices, each with the key of its unit. -/
theorem entries_ofDevices (handles : Bool) (devices : List PassthroughDevice) :
    (Index.entries (ofDevices handles devices).units).Perm
      (devices.map fun d => (d.unitKey handles, d)) := by
  induction devices using List.reverseRecOn with
  | nil => exact .refl _
  | append_singleton devices d ih =>
    rw [ofDevices_concat, List.map_append, List.map_singleton]
    have hpush : (Index.entries ((ofDevices handles devices).add d).units).Perm
        ((d.unitKey (ofDevices handles devices).handles, d) ::
          Index.entries (ofDevices handles devices).units) := Index.entries_push _ _ _
    rw [handles_ofDevices] at hpush
    exact hpush.trans ((ih.cons _).trans (List.perm_append_singleton _ _).symm)

/-- The devices of a snapshot are the listed devices. -/
theorem mem_devices_ofDevices {handles : Bool} {devices : List PassthroughDevice}
    {d : PassthroughDevice} : d ∈ (ofDevices handles devices).devices ↔ d ∈ devices := by
  have hperm := (entries_ofDevices handles devices).map Prod.snd
  rw [Index.entries_map_snd, List.map_map] at hperm
  exact hperm.mem_iff.trans (by simp [Function.comp_def])

end Snapshot

end GpuPassthrough
