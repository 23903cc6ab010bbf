import GpuPassthrough.Proofs.Snapshot.Representation
import GpuPassthrough.Snapshot.Names

/-!
# The Name of a Class

The devices of a class are searched unit by unit, first in the units that the class owns, in the
order in which they were opened, and then in all units, in no order of their own. A unit begins with
the device that opened it, and that device is of the class that owns the unit. So the second part of
the search never names a class that owns a unit, and the order of the units shows only in the name of
a class all of whose devices sit in units of other classes.

## Main results

* `IsFirstOpener.head?_classUnits`: the first unit of a class is that of its first opener.
* `exists_isFirstOpener_iff`: a class owns a unit exactly if it has a first opener.
* `isNamed_ofDevices`: what a class is called.
-/

namespace GpuPassthrough

/-- The name of a device as one of a class: formatted, and without separators at its ends. -/
def PassthroughDevice.className (d : PassthroughDevice) : String :=
  Naming.trimSeparators (Naming.format d.name)

namespace Snapshot

variable {handles : Bool} {devices : List PassthroughDevice} {id : String} {d : PassthroughDevice}

/-! ### Openers -/

/-- A device opens its unit: none of those before it has its key. -/
def Opens (handles : Bool) (before : List PassthroughDevice) (d : PassthroughDevice) : Prop :=
  ∀ other ∈ before, other.unitKey handles ≠ d.unitKey handles

/-- **The first opener of a class**: a device of the class that opens a unit, and none of those
before it is another one. -/
def IsFirstOpener (handles : Bool) (devices : List PassthroughDevice) (id : String)
    (d : PassthroughDevice) : Prop :=
  ∃ before after, devices = before ++ d :: after ∧ d.classId = id ∧ Opens handles before d ∧
    ∀ earlier other between, before = earlier ++ other :: between → other.classId = id →
      ¬ Opens handles earlier other

/-- The first device with a key opens the unit of the key. -/
theorem exists_opens_of_find? {key : String}
    (hfind : devices.find? (fun other => other.unitKey handles = key) = some d) :
    ∃ before after, devices = before ++ d :: after ∧ Opens handles before d ∧
      d.unitKey handles = key := by
  obtain ⟨hkey, before, after, hsplit, hbefore⟩ := List.find?_eq_some_iff_append.1 hfind
  have hkey := of_decide_eq_true hkey
  refine ⟨before, after, hsplit, fun other hother heq => ?_, hkey⟩
  have hnot := hbefore other hother
  rw [heq, hkey] at hnot
  simp at hnot

/-- The device that opened a unit is the first one with its key. -/
theorem Opens.find? {before : List PassthroughDevice} (hopens : Opens handles before d)
    (after : List PassthroughDevice) :
    (before ++ d :: after).find? (fun other => other.unitKey handles = d.unitKey handles) =
      some d := by
  refine List.find?_eq_some_iff_append.2 ⟨decide_eq_true rfl, before, after, rfl, ?_⟩
  intro other hother
  simp [hopens other hother]

/-- A first opener stays one, whatever devices come later. -/
theorem IsFirstOpener.append (hfirst : IsFirstOpener handles devices id d)
    (later : List PassthroughDevice) : IsFirstOpener handles (devices ++ later) id d := by
  obtain ⟨before, after, rfl, hfirst⟩ := hfirst
  exact ⟨before, after ++ later, by simp, hfirst⟩

/-- A class with an opener has a first one. -/
theorem exists_isFirstOpener {before after : List PassthroughDevice}
    (hopens : Opens handles before d) :
    ∃ first, IsFirstOpener handles (before ++ d :: after) d.classId first := by
  -- Going through the devices, the first opener that is met is kept.
  have hprefix : ∀ row : List PassthroughDevice,
      (∃ first, IsFirstOpener handles row d.classId first) ∨
        ∀ earlier other between, row = earlier ++ other :: between → other.classId = d.classId →
          ¬ Opens handles earlier other := by
    intro row
    induction row using List.reverseRecOn with
    | nil => exact .inr fun earlier other between hsplit => by simp at hsplit
    | append_singleton row last ih =>
      obtain ⟨first, hfirst⟩ | hnone := ih
      · exact .inl ⟨first, hfirst.append [last]⟩
      by_cases hlast : last.classId = d.classId ∧ Opens handles row last
      · exact .inl ⟨last, row, [], rfl, hlast.1, hlast.2, hnone⟩
      · refine .inr fun earlier other between hsplit hclass hopens => ?_
        obtain rfl | ⟨between', last', rfl⟩ := between.eq_nil_or_concat'
        · obtain ⟨rfl, hother⟩ := List.append_inj' hsplit rfl
          obtain rfl := List.singleton_inj.1 hother
          exact hlast ⟨hclass, hopens⟩
        · rw [← List.cons_append, ← List.append_assoc] at hsplit
          obtain ⟨rfl, -⟩ := List.append_inj' hsplit rfl
          exact hnone earlier other between' rfl hclass hopens
  obtain hfirst | hnone := hprefix (before ++ d :: after)
  · exact hfirst
  · exact absurd hopens (hnone before d after rfl rfl)

/-- The first unit that a class owns is that of its first opener. -/
theorem IsFirstOpener.head?_classUnits (hfirst : IsFirstOpener handles devices id d) :
    ((ofDevices handles devices).classUnits id).head? = some (d.unitKey handles) := by
  obtain ⟨before, after, rfl, hclass, hopens, hnone⟩ := hfirst
  obtain ⟨keys, hkeys⟩ : ∃ keys, firstKeys handles (before ++ d :: after) =
      firstKeys handles before ++ d.unitKey handles :: keys := by
    have hnew : (!(before.map (·.unitKey handles)).elem (d.unitKey handles)) = true := by
      simpa [Opens] using hopens
    rw [firstKeys, List.map_append, List.map_cons, List.eraseDups_append, List.removeAll,
      List.filter_cons, if_pos hnew, List.eraseDups_cons]
    exact ⟨_, rfl⟩
  have hbefore : (firstKeys handles before).filter (fun key =>
      opener? handles (before ++ d :: after) key = some id) = [] := by
    rw [List.filter_eq_nil_iff]
    intro key hkey hopener
    obtain ⟨other, hother, rfl⟩ := mem_firstKeys_iff.1 hkey
    have hsome : (before.find? fun other' => other'.unitKey handles = other.unitKey handles).isSome :=
      List.find?_isSome.2 ⟨other, hother, decide_eq_true rfl⟩
    obtain ⟨opener, hfind⟩ := Option.isSome_iff_exists.1 hsome
    rw [opener?, List.find?_append, hfind, Option.some_or, Option.map_some, decide_eq_true_iff,
      Option.some.injEq] at hopener
    obtain ⟨earlier, between, hsplit, hopens', -⟩ := exists_opens_of_find? hfind
    exact hnone earlier opener between hsplit hopener hopens'
  have hself : opener? handles (before ++ d :: after) (d.unitKey handles) = some id := by
    rw [opener?, hopens.find?, Option.map_some, hclass]
  rw [classUnits_ofDevices, hkeys, List.filter_append, hbefore, List.nil_append, List.filter_cons,
    if_pos (decide_eq_true hself), List.head?_cons]

/-- **A class owns a unit exactly if it has a first opener.** -/
theorem exists_isFirstOpener_iff :
    (∃ d, IsFirstOpener handles devices id d) ↔ (ofDevices handles devices).classUnits id ≠ [] := by
  constructor
  · rintro ⟨d, hfirst⟩ hnil
    have hhead := hfirst.head?_classUnits
    rw [hnil] at hhead
    cases hhead
  · intro hne
    obtain ⟨key, hkey⟩ := List.exists_mem_of_ne_nil _ hne
    rw [classUnits_ofDevices, List.mem_filter, decide_eq_true_iff, opener?,
      Option.map_eq_some_iff] at hkey
    obtain ⟨-, d, hfind, rfl⟩ := hkey
    obtain ⟨before, after, rfl, hopens, -⟩ := exists_opens_of_find? hfind
    exact exists_isFirstOpener hopens

/-! ### The search -/

variable {units : List (String × List PassthroughDevice)}

/-- The unit of a key is found whatever order the units are kept in. -/
theorem unit?_of_perm (hperm : units.Perm (ofDevices handles devices).units) (key : String) :
    ({ ofDevices handles devices with units } : Snapshot).unit? key =
      (ofDevices handles devices).unit? key :=
  Index.lookup_of_perm (wellKeyed_ofDevices handles devices).nodup hperm key

/-- The devices are the listed ones whatever order the units are kept in. -/
theorem mem_devices_of_perm (hperm : units.Perm (ofDevices handles devices).units) :
    d ∈ ({ ofDevices handles devices with units } : Snapshot).devices ↔ d ∈ devices := by
  have hdevices : (units.flatMap (·.2)).Perm ((ofDevices handles devices).units.flatMap (·.2)) :=
    hperm.flatMap_right _
  exact hdevices.mem_iff.trans mem_devices_ofDevices

/-- The devices among which the name of a class is searched: those of the units that it owns, and
then all. -/
def searched (s : Snapshot) (id : String) : List PassthroughDevice :=
  ((s.classUnits id).flatMap fun key => (s.unit? key).getD []) ++ s.devices

/-- A class is called by the first device of its number that is found. -/
theorem deviceName_eq (s : Snapshot) (id : String) :
    s.deviceName id =
      (((s.searched id).find? fun d => d.classId = id).map PassthroughDevice.className).getD "" := by
  rw [deviceName, searched]
  cases ((s.classUnits id).flatMap fun key => (s.unit? key).getD []) ++ s.devices |>.find?
    fun d => d.classId = id <;> rfl

/-- The listed devices are searched. -/
theorem mem_searched_iff (hperm : units.Perm (ofDevices handles devices).units) :
    d ∈ ({ ofDevices handles devices with units } : Snapshot).searched id ↔ d ∈ devices := by
  rw [searched, List.mem_append, mem_devices_of_perm hperm]
  refine or_iff_right_of_imp fun howned => ?_
  obtain ⟨key, -, hmember⟩ := List.mem_flatMap.1 howned
  rw [unit?_of_perm hperm] at hmember
  cases hunit : (ofDevices handles devices).unit? key with
  | none =>
    rw [hunit] at hmember
    cases hmember
  | some members =>
    rw [hunit] at hmember
    exact ((mem_members_iff hunit).1 hmember).1

/-- The first device that is searched is the first opener. -/
theorem IsFirstOpener.head?_searched (hfirst : IsFirstOpener handles devices id d)
    (hperm : units.Perm (ofDevices handles devices).units) :
    (({ ofDevices handles devices with units } : Snapshot).searched id).head? = some d := by
  have hhead := hfirst.head?_classUnits
  obtain ⟨keys, hkeys⟩ := List.head?_eq_some_iff.1 hhead
  obtain ⟨before, after, rfl, -, hopens, -⟩ := hfirst
  have hmembers : ∃ rest, (ofDevices handles (before ++ d :: after)).unit? (d.unitKey handles) =
      some (d :: rest) := by
    have hbefore : before.filter (fun other => other.unitKey handles = d.unitKey handles) = [] := by
      rw [List.filter_eq_nil_iff]
      exact fun other hother heq => hopens other hother (of_decide_eq_true heq)
    rw [unit?_ofDevices, List.filter_append, hbefore, List.nil_append, List.filter_cons,
      if_pos (decide_eq_true rfl)]
    exact ⟨_, if_neg (List.cons_ne_nil _ _)⟩
  obtain ⟨rest, hmembers⟩ := hmembers
  have hclass : ({ ofDevices handles (before ++ d :: after) with units } : Snapshot).classUnits id =
      d.unitKey handles :: keys := hkeys
  rw [searched, hclass, List.flatMap_cons, unit?_of_perm hperm, hmembers]
  rfl

/-! ### The name -/

/-- **What a class is called** in a snapshot of some devices. -/
structure IsNamed (handles : Bool) (devices : List PassthroughDevice) (id : String) : Prop where
  /-- A class that owns a unit has a first opener, -/
  opened : (ofDevices handles devices).classUnits id ≠ [] →
    ∃ d, IsFirstOpener handles devices id d
  /-- and is called by it, whatever order the units are kept in. -/
  owner : ∀ d, IsFirstOpener handles devices id d →
    ∀ units, units.Perm (ofDevices handles devices).units →
      ({ ofDevices handles devices with units } : Snapshot).deviceName id = d.className
  /-- A class of devices is called by one of them, which may depend on the order of the units. -/
  member : (∃ d ∈ devices, d.classId = id) →
    ∀ units, units.Perm (ofDevices handles devices).units →
      ∃ d ∈ devices, d.classId = id ∧
        ({ ofDevices handles devices with units } : Snapshot).deviceName id = d.className
  /-- It does not if they share a name. -/
  shared : ∀ name, (∃ d ∈ devices, d.classId = id) →
    (∀ d ∈ devices, d.classId = id → d.className = name) →
    ∀ units, units.Perm (ofDevices handles devices).units →
      ({ ofDevices handles devices with units } : Snapshot).deviceName id = name
  /-- A class without devices has no name. -/
  absent : (∀ d ∈ devices, d.classId ≠ id) →
    ∀ units, units.Perm (ofDevices handles devices).units →
      ({ ofDevices handles devices with units } : Snapshot).deviceName id = ""

/-- A class of devices is called by one of them. -/
theorem exists_deviceName_eq (hclass : ∃ d ∈ devices, d.classId = id)
    (hperm : units.Perm (ofDevices handles devices).units) :
    ∃ d ∈ devices, d.classId = id ∧
      ({ ofDevices handles devices with units } : Snapshot).deviceName id = d.className := by
  obtain ⟨d, hd, hid⟩ := hclass
  have hsome : ((({ ofDevices handles devices with units } : Snapshot).searched id).find?
      fun d => d.classId = id).isSome :=
    List.find?_isSome.2 ⟨d, (mem_searched_iff hperm).2 hd, decide_eq_true hid⟩
  obtain ⟨found, hfound⟩ := Option.isSome_iff_exists.1 hsome
  have hid' := List.find?_some hfound
  refine ⟨found, (mem_searched_iff hperm).1 (List.mem_of_find?_eq_some hfound),
    of_decide_eq_true hid', ?_⟩
  rw [deviceName_eq, hfound]
  rfl

/-- **A class that owns a unit is called by its first opener**, a class that owns none by one of its
devices, and a class without devices by nothing. -/
theorem isNamed_ofDevices (handles : Bool) (devices : List PassthroughDevice) (id : String) :
    IsNamed handles devices id := by
  constructor
  case opened => exact exists_isFirstOpener_iff.2
  case owner =>
    intro d hfirst units hperm
    obtain ⟨rest, hsearched⟩ := List.head?_eq_some_iff.1 (hfirst.head?_searched hperm)
    obtain ⟨-, -, -, hclass, -⟩ := hfirst
    rw [deviceName_eq, hsearched, List.find?_cons, decide_eq_true hclass]
    rfl
  case member => exact fun hclass units hperm => exists_deviceName_eq hclass hperm
  case shared =>
    intro name hclass hname units hperm
    obtain ⟨d, hd, hid, heq⟩ := exists_deviceName_eq hclass hperm
    rw [heq, hname d hd hid]
  case absent =>
    intro hnone units hperm
    have hfind : (({ ofDevices handles devices with units } : Snapshot).searched id).find?
        (fun d => d.classId = id) = none := by
      rw [List.find?_eq_none]
      exact fun d hd hid => hnone d ((mem_searched_iff hperm).1 hd) (of_decide_eq_true hid)
    rw [deviceName_eq, hfind]
    rfl

end Snapshot

end GpuPassthrough
