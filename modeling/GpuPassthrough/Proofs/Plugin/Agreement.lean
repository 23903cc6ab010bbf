import GpuPassthrough.Proofs.Cdi.Scopes
import GpuPassthrough.Proofs.Plugin.Partition
import GpuPassthrough.Proofs.Snapshot.Classes

/-!
# Classes and Resources Agree

The plugins are planned class by class, from who owns which unit; the device specifications are
planned device by device. Where the devices of a unit are of one class and those of a class of one
kind, both go by the same names and mean the same units by them, whatever aliases and names there
are.

## Main results

* `covered_plan_iff_displayName`: a device is covered under the name of its class.
* `classesAgree_ofDevices`: specifications and plugins agree on names and units.
-/

namespace GpuPassthrough

open Snapshot (IsUniform)

variable {handles : Bool} {devices : List PassthroughDevice}

/-- **A device is covered under the name of its class**, and under no other. -/
theorem Cdi.covered_plan_iff_displayName (huniform : IsUniform handles devices)
    {d : PassthroughDevice} (hd : d ∈ devices) (c : Config) {name : String} :
    Covered (plan (Snapshot.ofDevices handles devices) c) name d ↔
      (Snapshot.ofDevices handles devices).displayName c d.classId = name := by
  rw [covered_plan_iff, huniform.displayName_eq hd]
  constructor
  · rintro ⟨switch, hbrings⟩
    cases halias : c.aliasFor switch with
    | some other =>
      simp only [Brings, halias] at hbrings
      obtain ⟨rfl, rfl⟩ := hbrings
      rw [halias, Option.getD_some]
    | none =>
      simp only [Brings, halias] at hbrings
      obtain ⟨hname, other, hother, hswitch, hclass⟩ := hbrings
      rw [Snapshot.mem_devices_ofDevices] at hother
      rw [← huniform.isSwitch_eq hother hd hclass, hswitch, halias, Option.getD_none, hname]
  · intro hname
    refine ⟨d.isSwitch, ?_⟩
    cases halias : c.aliasFor d.isSwitch with
    | some other =>
      rw [halias, Option.getD_some] at hname
      simp only [Brings, halias, hname, and_self]
    | none =>
      rw [halias, Option.getD_none] at hname
      simp only [Brings, halias]
      exact ⟨hname, d, Snapshot.mem_devices_ofDevices.2 hd, rfl, rfl⟩

/-- **Specifications and plugins agree.** -/
structure ClassesAgree (s : Snapshot) (c : Config) : Prop where
  /-- Plugins go by the names of the specifications that are written. -/
  names : ∀ name, (∃ plan ∈ PluginPlan.ofSnapshot s c, plan.className = name) ↔
    ∃ entry ∈ Cdi.plan s c, entry.1 = name ∧ (Cdi.Spec.build? s c entry.1 entry.2).isSome
  /-- A plugin advertises the units with a device that a specification of its name covers. -/
  units : ∀ plan ∈ PluginPlan.ofSnapshot s c, ∀ key, key ∈ plan.units ↔
    ∃ entry ∈ Cdi.plan s c, entry.1 = plan.className ∧
      ∃ members, s.unit? key = some members ∧ ∃ d ∈ members, entry.2.covers d = true
  /-- The name of the first class of GPUs is the name of a plugin. -/
  gpu : ∀ name, s.gpuClassName? c = some name →
    ∃ plan ∈ PluginPlan.ofSnapshot s c, plan.className = name
  /-- There is a first class of GPUs exactly if there is a GPU. -/
  gpuPresent : (s.gpuClassName? c).isSome ↔ ∃ d ∈ s.devices, d.isSwitch = false

/-- The plugins go by the names of the classes of the devices. -/
theorem PluginPlan.mem_names_iff (huniform : IsUniform handles devices) (c : Config)
    {name : String} :
    (∃ plan ∈ ofSnapshot (Snapshot.ofDevices handles devices) c, plan.className = name) ↔
      ∃ d ∈ devices, (Snapshot.ofDevices handles devices).displayName c d.classId = name := by
  rw [mem_names_ofSnapshot]
  constructor
  · rintro ⟨owner, howner, hname⟩
    obtain ⟨d, hd, hclass⟩ := huniform.hasPureUnits.mem_keys_classes_iff.1 ⟨owner, howner, rfl⟩
    exact ⟨d, hd, hclass ▸ hname⟩
  · rintro ⟨d, hd, hname⟩
    obtain ⟨owner, howner, hclass⟩ := huniform.hasPureUnits.mem_keys_classes_iff.2 ⟨d, hd, rfl⟩
    exact ⟨owner, howner, hclass ▸ hname⟩

/-- A plugin advertises the units of the devices whose class has its name. -/
theorem PluginPlan.mem_units_iff (huniform : IsUniform handles devices) {c : Config}
    {plan : PluginPlan} (hplan : plan ∈ ofSnapshot (Snapshot.ofDevices handles devices) c)
    {key : String} :
    key ∈ plan.units ↔ ∃ d ∈ devices, d.unitKey handles = key ∧
      (Snapshot.ofDevices handles devices).displayName c d.classId = plan.className := by
  rw [mem_units_ofSnapshot hplan]
  constructor
  · rintro ⟨⟨id, keys⟩, howner, hname, hkey⟩
    obtain ⟨d, hd, rfl, hunit⟩ :=
      huniform.hasPureUnits.mem_entries_iff.1 (Index.mem_entries_iff.2 ⟨keys, howner, hkey⟩)
    exact ⟨d, hd, hunit, hname⟩
  · rintro ⟨d, hd, hunit, hname⟩
    obtain ⟨keys, howner, hkey⟩ :=
      Index.mem_entries_iff.1 (huniform.hasPureUnits.mem_entries_iff.2 ⟨d, hd, rfl, hunit⟩)
    exact ⟨_, howner, hname, hkey⟩

/-- The first class of GPUs is one of the classes, and of GPUs. -/
theorem Snapshot.gpuClassName?_isSome_iff (huniform : IsUniform handles devices) (c : Config) :
    ((ofDevices handles devices).gpuClassName? c).isSome ↔ ∃ d ∈ devices, d.isSwitch = false := by
  rw [gpuClassName?, Option.isSome_map, List.find?_isSome]
  constructor
  · rintro ⟨id, hid, hgpu⟩
    obtain ⟨owner, howner, rfl⟩ := List.mem_map.1 hid
    obtain ⟨d, hd, hclass⟩ := huniform.hasPureUnits.mem_keys_classes_iff.1 ⟨owner, howner, rfl⟩
    rw [← hclass, huniform.isSwitchClass_eq hd] at hgpu
    exact ⟨d, hd, by simpa using hgpu⟩
  · rintro ⟨d, hd, hgpu⟩
    obtain ⟨owner, howner, hclass⟩ := huniform.hasPureUnits.mem_keys_classes_iff.2 ⟨d, hd, rfl⟩
    refine ⟨owner.1, List.mem_map_of_mem howner, ?_⟩
    rw [hclass, huniform.isSwitchClass_eq hd, hgpu]
    rfl

/-- **Specifications and plugins agree on names and units**, where the devices of a unit are of one
class and those of a class of one kind. -/
theorem classesAgree_ofDevices (huniform : IsUniform handles devices) (c : Config) :
    ClassesAgree (Snapshot.ofDevices handles devices) c := by
  refine ⟨fun name => ?_, fun plan hplan key => ?_, fun name hname => ?_, ?_⟩
  · rw [PluginPlan.mem_names_iff huniform]
    constructor
    · rintro ⟨d, hd, hname⟩
      obtain ⟨entry, hentry, hsame, hcovers⟩ :=
        (Cdi.covered_plan_iff_displayName huniform hd c).2 hname
      exact ⟨entry, hentry, hsame, Cdi.Spec.build?_isSome_iff.2 ⟨d, hd, hcovers⟩⟩
    · rintro ⟨entry, hentry, hsame, hbuilt⟩
      obtain ⟨d, hd, hcovers⟩ := Cdi.Spec.build?_isSome_iff.1 hbuilt
      exact ⟨d, hd, (Cdi.covered_plan_iff_displayName huniform hd c).1
        ⟨entry, hentry, hsame, hcovers⟩⟩
  · rw [PluginPlan.mem_units_iff huniform hplan]
    constructor
    · rintro ⟨d, hd, rfl, hname⟩
      obtain ⟨entry, hentry, hsame, hcovers⟩ :=
        (Cdi.covered_plan_iff_displayName huniform hd c).2 hname
      obtain ⟨members, hunit, hmember⟩ := Snapshot.exists_members hd handles
      exact ⟨entry, hentry, hsame, members, hunit, d, hmember, hcovers⟩
    · rintro ⟨entry, hentry, hsame, members, hunit, d, hmember, hcovers⟩
      obtain ⟨hd, hkey⟩ := (Snapshot.mem_members_iff hunit).1 hmember
      exact ⟨d, hd, hkey, (Cdi.covered_plan_iff_displayName huniform hd c).1
        ⟨entry, hentry, hsame, hcovers⟩⟩
  · obtain ⟨id, hfound, rfl⟩ := Option.map_eq_some_iff.1 hname
    obtain ⟨owner, howner, rfl⟩ := List.mem_map.1 (List.mem_of_find?_eq_some hfound)
    exact (PluginPlan.mem_names_ofSnapshot _ c).2 ⟨owner, howner, rfl⟩
  · simp only [Snapshot.mem_devices_ofDevices]
    exact Snapshot.gpuClassName?_isSome_iff huniform c

/-- A switch under an alias that is the number of a class of GPUs shares a plugin with that class,
and its name with the specification of that class. -/
theorem classesAgree_shared_name :
    let devices : List PassthroughDevice := [{ deviceId := 0x1b80, group := 1 },
      { deviceId := 0x22a3, group := 3, isSwitch := true }, { deviceId := 0x1b80, group := 2 }]
    let c : Config := { switchAlias := some "1b80" }
    IsUniform false devices ∧
      PluginPlan.ofSnapshot (Snapshot.ofDevices false devices) c = [⟨"1b80", ["1", "2", "3"]⟩] ∧
      Cdi.plan (Snapshot.ofDevices false devices) c =
        [("1b80", .classes ["1b80"]), ("1b80", .category true)] ∧
      ClassesAgree (Snapshot.ofDevices false devices) c := by
  intro devices c
  have huniform : IsUniform false devices := ⟨by decide, by decide⟩
  exact ⟨huniform, by decide, by decide, classesAgree_ofDevices huniform c⟩

end GpuPassthrough
