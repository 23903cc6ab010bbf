import GpuPassthrough.Proofs.Plugin.Partition
import GpuPassthrough.Proofs.Snapshot.Names
import Mathlib.Data.List.Forall2
import Mathlib.Data.List.Sort

/-!
# The Order of Enumeration

A snapshot is filled one device at a time, and a unit goes to the class of the device that opened
it, so the order of the devices could tell. It does not, for what a unit holds and which classes are
of switches. Where the devices of a unit are of one class it does not tell for the classes either,
and where devices of one number have one name the plugins are the same, one by one, each with its
units in some order.

## Main results

* `unit?_perm`: a unit holds the same devices, in some order.
* `classes_perm`: a class owns the same units, where units are of one class.
* `ofSnapshot_perm`: the same plugins are planned.
* `sameFindings_of_perm`: all of it together.
-/

namespace GpuPassthrough

/-! ### Sorted indexes that agree -/

namespace Index

variable {β : Type}

/-- An index without repeated keys lists the groups of its keys. -/
theorem eq_map_group {index : List (String × List β)}
    (hkeys : (index.map Prod.fst).Pairwise (· < ·)) :
    index = (index.map Prod.fst).map fun key => (key, group key index) := by
  rw [List.map_map]
  refine (List.map_id index).symm.trans (List.map_congr_left fun entry hentry => ?_)
  rw [Function.comp_apply, group_of_mem hkeys hentry, id]

end Index

namespace Snapshot

variable {handles : Bool} {devices others : List PassthroughDevice}

/-! ### Units -/

/-- **A unit holds the same devices**, in some order. -/
theorem unit?_perm (hperm : devices.Perm others) (key : String) :
    Option.Rel List.Perm ((ofDevices handles devices).unit? key)
      ((ofDevices handles others).unit? key) := by
  have hmembers := hperm.filter fun d => d.unitKey handles = key
  rw [unit?_ofDevices, unit?_ofDevices]
  simp only
  by_cases hnil : devices.filter (fun d => d.unitKey handles = key) = []
  · rw [if_pos hnil, if_pos (List.nil_perm.1 (hnil ▸ hmembers))]
    exact .none
  · have hnil' : others.filter (fun d => d.unitKey handles = key) ≠ [] := by
      intro hother
      rw [hother] at hmembers
      exact hnil (List.perm_nil.1 hmembers)
    rw [if_neg hnil, if_neg hnil']
    exact .some hmembers

/-- The same units are there. -/
theorem keys_perm (hperm : devices.Perm others) :
    ((ofDevices handles devices).units.map Prod.fst).Perm
      ((ofDevices handles others).units.map Prod.fst) := by
  refine (List.perm_ext_iff_of_nodup (wellKeyed_ofDevices handles devices).nodup
    (wellKeyed_ofDevices handles others).nodup).2 fun key => ?_
  rw [keys_ofDevices, keys_ofDevices, mem_firstKeys_iff, mem_firstKeys_iff]
  simp only [hperm.mem_iff]

/-! ### Classes -/

/-- The classes of switches are the same. -/
theorem switchClasses_perm (hperm : devices.Perm others) :
    (ofDevices handles devices).switchClasses = (ofDevices handles others).switchClasses := by
  refine (ascending_switchClasses handles devices).eq_of_mem_iff
    (ascending_switchClasses handles others) fun id => ?_
  rw [(represents_ofDevices handles devices).switches,
    (represents_ofDevices handles others).switches]
  simp only [hperm.mem_iff]

/-- Units are of one class in any order. -/
theorem HasPureUnits.perm (hpure : HasPureUnits handles devices) (hperm : devices.Perm others) :
    HasPureUnits handles others :=
  fun d hd other hother =>
    hpure d (hperm.mem_iff.2 hd) other (hperm.mem_iff.2 hother)

/-- A class owns each of its units once. -/
theorem nodup_classUnits (handles : Bool) (devices : List PassthroughDevice) (id : String) :
    ((ofDevices handles devices).classUnits id).Nodup := by
  rw [classUnits_ofDevices]
  exact (represents_ofDevices handles devices).distinct.filter _

/-- A class owns the units of its devices. -/
theorem HasPureUnits.mem_classUnits_iff (hpure : HasPureUnits handles devices) {id key : String} :
    key ∈ (ofDevices handles devices).classUnits id ↔
      ∃ d ∈ devices, d.classId = id ∧ d.unitKey handles = key := by
  rw [classUnits_ofDevices, List.mem_filter, mem_firstKeys_iff, decide_eq_true_iff, opener?,
    Option.map_eq_some_iff]
  constructor
  · rintro ⟨-, first, hfirst, hclass⟩
    have hkey := List.find?_some hfirst
    exact ⟨first, List.mem_of_find?_eq_some hfirst, hclass, of_decide_eq_true hkey⟩
  · rintro ⟨d, hd, hclass, hkey⟩
    have hsome : (devices.find? fun d => d.unitKey handles = key).isSome :=
      List.find?_isSome.2 ⟨d, hd, decide_eq_true hkey⟩
    obtain ⟨first, hfirst⟩ := Option.isSome_iff_exists.1 hsome
    have hkey' := List.find?_some hfirst
    refine ⟨⟨d, hd, hkey⟩, first, hfirst, ?_⟩
    rw [← hclass, PassthroughDevice.classId, PassthroughDevice.classId,
      hpure first (List.mem_of_find?_eq_some hfirst) d hd
        ((of_decide_eq_true hkey').trans hkey.symm)]

/-- **A class owns the same units**, where units are of one class. -/
theorem classUnits_perm (hpure : HasPureUnits handles devices) (hperm : devices.Perm others)
    (id : String) :
    ((ofDevices handles devices).classUnits id).Perm
      ((ofDevices handles others).classUnits id) := by
  refine (List.perm_ext_iff_of_nodup (nodup_classUnits handles devices id)
    (nodup_classUnits handles others id)).2 fun key => ?_
  rw [hpure.mem_classUnits_iff, (hpure.perm hperm).mem_classUnits_iff]
  simp only [hperm.mem_iff]

/-- The classes are the same, one by one, where units are of one class. -/
theorem classes_perm (hpure : HasPureUnits handles devices) (hperm : devices.Perm others) :
    List.Forall₂ (fun owner other => owner.1 = other.1 ∧ owner.2.Perm other.2)
      (ofDevices handles devices).classes (ofDevices handles others).classes := by
  have hids : (ofDevices handles devices).classes.map Prod.fst =
      (ofDevices handles others).classes.map Prod.fst := by
    refine (ascending_classes handles devices).eq_of_mem_iff (ascending_classes handles others)
      fun id => ?_
    rw [List.mem_map, List.mem_map, hpure.mem_keys_classes_iff,
      (hpure.perm hperm).mem_keys_classes_iff]
    simp only [hperm.mem_iff]
  rw [Index.eq_map_group (ascending_classes handles devices),
    Index.eq_map_group (ascending_classes handles others), ← hids, List.forall₂_map_left_iff,
    List.forall₂_map_right_iff, List.forall₂_same]
  exact fun id _ => ⟨rfl, classUnits_perm hpure hperm id⟩

/-! ### Names -/

/-- **Devices of one number have one name**, as they have where the name is looked up by number. -/
def HasModelNames (devices : List PassthroughDevice) : Prop :=
  ∀ d ∈ devices, ∀ other ∈ devices, d.deviceId = other.deviceId → d.name = other.name

instance : Decidable (HasModelNames devices) :=
  inferInstanceAs (Decidable (∀ d ∈ devices, ∀ other ∈ devices,
    d.deviceId = other.deviceId → d.name = other.name))

/-- The name of a class is that of any of its devices, where devices of one number have one name. -/
theorem HasModelNames.deviceName_eq (hnames : HasModelNames devices) {d : PassthroughDevice}
    (hd : d ∈ devices) :
    (ofDevices handles devices).deviceName d.classId =
      Naming.trimSeparators (Naming.format d.name) := by
  obtain ⟨other, hother, hclass, hname⟩ :=
    exists_deviceName_eq ⟨d, hd, rfl⟩ (List.Perm.refl (ofDevices handles devices).units)
  rw [hname, PassthroughDevice.className, hnames other hother d hd (Text.hexWord_inj.1 hclass)]

/-- **A class goes by the same name**, where devices of one number have one name. -/
theorem displayName_perm (hnames : HasModelNames devices) (hperm : devices.Perm others)
    {d : PassthroughDevice} (hd : d ∈ devices) (c : Config) :
    (ofDevices handles devices).displayName c d.classId =
      (ofDevices handles others).displayName c d.classId := by
  have hnames' : HasModelNames others := fun d hd other hother =>
    hnames d (hperm.mem_iff.2 hd) other (hperm.mem_iff.2 hother)
  simp only [displayName, plainName, isSwitchClass, switchClasses_perm hperm,
    hnames.deviceName_eq hd, hnames'.deviceName_eq (hperm.mem_iff.1 hd)]

end Snapshot

/-! ### Plugins -/

namespace PluginPlan

/-- **Two plans are of one plugin**, with the same units in some order. -/
structure Alike (plan other : PluginPlan) : Prop where
  className : plan.className = other.className
  units : plan.units.Perm other.units

/-- Classes that enter under one name with the same units leave plans alike. -/
theorem alike_enter {plans others : List PluginPlan} (hplans : List.Forall₂ Alike plans others)
    (name : String) {units keys : List String} (hunits : units.Perm keys) :
    List.Forall₂ Alike (enter name units plans) (enter name keys others) := by
  induction hplans with
  | nil => exact .cons ⟨rfl, hunits⟩ .nil
  | @cons plan other plans others halike hrest ih =>
    rw [enter, enter, halike.className]
    split
    · exact .cons ⟨rfl, halike.units.append hunits⟩ hrest
    · exact .cons halike ih

/-- Classes of the same names and units leave plans alike. -/
theorem alike_enterAll {s t : Snapshot} {c : Config} {classes others : List (String × List String)}
    (hclasses : List.Forall₂ (fun owner other =>
      s.displayName c owner.1 = t.displayName c other.1 ∧ owner.2.Perm other.2) classes others)
    {plans plans' : List PluginPlan} (hplans : List.Forall₂ Alike plans plans') :
    List.Forall₂ Alike (enterAll s c classes plans) (enterAll t c others plans') := by
  induction hclasses generalizing plans plans' with
  | nil => exact hplans
  | @cons owner other _ _ hclass _ ih =>
    have hentered := alike_enter hplans (s.displayName c owner.1) hclass.2
    rw [enterAll, enterAll, List.foldl_cons, List.foldl_cons, ← hclass.1]
    exact ih hentered

/-- **The same plugins are planned**, one by one, where units are of one class and devices of one
number have one name. -/
theorem ofSnapshot_perm {handles : Bool} {devices others : List PassthroughDevice}
    (hpure : Snapshot.HasPureUnits handles devices) (hnames : Snapshot.HasModelNames devices)
    (hperm : devices.Perm others) (c : Config) :
    List.Forall₂ Alike (ofSnapshot (Snapshot.ofDevices handles devices) c)
      (ofSnapshot (Snapshot.ofDevices handles others) c) := by
  refine alike_enterAll ?_ .nil
  have hlisted : ∀ owner ∈ (Snapshot.ofDevices handles devices).classes,
      ∃ d ∈ devices, d.classId = owner.1 :=
    fun owner howner => hpure.mem_keys_classes_iff.1 ⟨owner, howner, rfl⟩
  refine ((List.forall₂_and_left _ _).2 ⟨hlisted, Snapshot.classes_perm hpure hperm⟩).imp ?_
  rintro owner other ⟨⟨d, hd, hclass⟩, hid, hunits⟩
  refine ⟨?_, hunits⟩
  rw [← hid, ← hclass]
  exact Snapshot.displayName_perm hnames hperm hd c

end PluginPlan

/-! ### All together -/

/-- **Two enumerations find the same.** -/
structure SameFindings (handles : Bool) (devices others : List PassthroughDevice) : Prop where
  /-- The same units are there. -/
  keys : ((Snapshot.ofDevices handles devices).units.map Prod.fst).Perm
    ((Snapshot.ofDevices handles others).units.map Prod.fst)
  /-- A unit holds the same devices, in some order. -/
  units : ∀ key, Option.Rel List.Perm ((Snapshot.ofDevices handles devices).unit? key)
    ((Snapshot.ofDevices handles others).unit? key)
  switches : (Snapshot.ofDevices handles devices).switchClasses =
    (Snapshot.ofDevices handles others).switchClasses
  /-- Where units are of one class, the classes are the same and own the same units. -/
  classes : Snapshot.HasPureUnits handles devices →
    List.Forall₂ (fun owner other => owner.1 = other.1 ∧ owner.2.Perm other.2)
      (Snapshot.ofDevices handles devices).classes (Snapshot.ofDevices handles others).classes
  /-- Where, besides, devices of one number have one name, the plugins have the same names and
  units. -/
  plugins : Snapshot.HasPureUnits handles devices → Snapshot.HasModelNames devices → ∀ c : Config,
    List.Forall₂ PluginPlan.Alike (PluginPlan.ofSnapshot (Snapshot.ofDevices handles devices) c)
      (PluginPlan.ofSnapshot (Snapshot.ofDevices handles others) c)

/-- **What is found does not depend on the order of enumeration.** -/
theorem sameFindings_of_perm {devices others : List PassthroughDevice}
    (hperm : devices.Perm others) (handles : Bool) : SameFindings handles devices others where
  keys := Snapshot.keys_perm hperm
  units := Snapshot.unit?_perm hperm
  switches := Snapshot.switchClasses_perm hperm
  classes hpure := Snapshot.classes_perm hpure hperm
  plugins hpure hnames := PluginPlan.ofSnapshot_perm hpure hnames hperm

/-- Two GPUs of one group and one of another, found from either end: one plugin, the groups in the
order in which they were opened. -/
theorem sameFindings_fromEitherEnd :
    let devices : List PassthroughDevice := [{ deviceId := 0x2330, name := "H100", group := 2 },
      { deviceId := 0x2330, name := "H100", group := 2 },
      { deviceId := 0x22a3, group := 3, isSwitch := true },
      { deviceId := 0x2330, name := "H100", group := 1 }]
    devices.Perm devices.reverse ∧
      Snapshot.HasPureUnits false devices ∧ Snapshot.HasModelNames devices ∧
      PluginPlan.ofSnapshot (Snapshot.ofDevices false devices) {} =
        [⟨"22a3", ["3"]⟩, ⟨"H100", ["2", "1"]⟩] ∧
      PluginPlan.ofSnapshot (Snapshot.ofDevices false devices.reverse) {} =
        [⟨"22a3", ["3"]⟩, ⟨"H100", ["1", "2"]⟩] ∧
      SameFindings false devices devices.reverse := by
  intro devices
  have hperm : devices.Perm devices.reverse := (List.reverse_perm devices).symm
  exact ⟨hperm, by decide, by decide, by decide, by decide, sameFindings_of_perm hperm false⟩

end GpuPassthrough
