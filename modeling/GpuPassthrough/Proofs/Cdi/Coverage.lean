import GpuPassthrough.Proofs.Cdi.Groups

/-!
# Every Unit Keeps an Entry

A device whose names are all taken is left out of a specification. No unit is left out with it: the
first of its devices that is visited has an ordinal and a group, and nobody before it has claimed the
larger of the two numbers, because ordinals and groups ascend together. Where the host gives out
handles, a handle is claimed by devices of one unit only.

## Main results

* `isFirst_max`: the first device of a group is the first to claim the larger of its two numbers.
* `IsFirst.handle_eq`: a handle is claimed by those that have it.
* `exists_entry_ofDevices`: every unit that a specification covers has an entry with its nodes.
-/

namespace GpuPassthrough.Cdi

/-- The nodes of a unit: the node of its handle where the host gives out handles, else those of its
group. -/
def unitNodes (vfioRoot key : String) (handles : Bool) : List String :=
  if handles then [Isolation.handleNode vfioRoot key] else groupNodes vfioRoot key

/-- Every device of a unit brings the nodes of the unit, if no device lacks a handle that the host
gives out. -/
theorem deviceNodes_eq_unitNodes {handles : Bool} {d : PassthroughDevice}
    (hall : handles = true → d.handle.isSome) (vfioRoot : String) :
    deviceNodes vfioRoot (d.unitKey handles) handles d =
      unitNodes vfioRoot (d.unitKey handles) handles := by
  cases handles with
  | false => rw [deviceNodes_of_group, unitNodes, if_neg Bool.false_ne_true, groupNodes]
  | true =>
    obtain ⟨handle, hhandle⟩ := Option.isSome_iff_exists.1 (hall rfl)
    rw [deviceNodes_of_handle hhandle, unitNodes, if_pos rfl,
      PassthroughDevice.unitKey_of_handle hhandle]

namespace Spec

/-! ### Groups -/

/-- **The first device of a group is the first to claim the larger of its two numbers**, its ordinal
and the number of the group. -/
theorem isFirst_max {row : List (String × PassthroughDevice)}
    (hascends : row.Pairwise fun a b => a.2.group.toNat ≤ b.2.group.toNat)
    (hhandles : ∀ visited ∈ row, ∀ handle ∈ visited.2.handle, "vfio".toList <+: handle.toList)
    {place : Nat} {first : String × PassthroughDevice} (hfound : row[place]? = some first)
    (hplace : place = row.countP fun visited => visited.2.group.toNat < first.2.group.toNat) :
    IsFirst row 0 (toString (max place first.2.group.toNat)) place first := by
  have hclaims : ∀ {before : Nat} {other : String × PassthroughDevice} (number : Nat),
      row[before]? = some other → (toString number ∈ namesOf (0 + before) other.2 ↔
        number = 0 + before ∨ number = other.2.group.toNat) :=
    fun number hother =>
      toString_mem_namesOf_iff (hhandles _ (List.mem_of_getElem? hother)) _ number
  refine ⟨hfound, (hclaims _ hfound).2 (by omega), fun before hbefore other hother hname => ?_⟩
  -- Whoever comes before has a smaller ordinal and belongs to a smaller group.
  have hgroup : other.2.group.toNat < first.2.group.toNat :=
    (lt_countP_iff hascends _ hother).1 (hplace ▸ hbefore)
  have hor := (hclaims _ hother).1 hname
  omega

/-- Where the host gives out groups, some name is claimed for the first time by a device of a group
that is visited. -/
theorem exists_isFirst_ofGroup {devices : List PassthroughDevice} {scope : Scope}
    (hhandles : ∀ d ∈ devices, ∀ handle ∈ d.handle, "vfio".toList <+: handle.toList)
    {d : PassthroughDevice} (hd : d ∈ devices) (hcovers : scope.covers d = true) :
    ∃ name place first, IsFirst (visits (Snapshot.ofDevices false devices) scope) 0 name place first ∧
      first.1 = d.unitKey false := by
  have hascends := pairwise_group_visits devices scope
  have hstart : ∀ visited ∈ visits (Snapshot.ofDevices false devices) scope,
      ∀ handle ∈ visited.2.handle, "vfio".toList <+: handle.toList :=
    fun visited hvisited => hhandles _ (mem_visits_iff.1 hvisited).1
  have hmem : (d.unitKey false, d) ∈ visits (Snapshot.ofDevices false devices) scope :=
    mem_visits_iff.2 ⟨hd, hcovers, rfl⟩
  obtain ⟨own, hown⟩ := List.mem_iff_getElem?.1 hmem
  obtain ⟨first, hfound, hgroup⟩ :=
    exists_getElem?_countP (fun visited => visited.2.group.toNat) hascends hown
  refine ⟨_, _, first, isFirst_max hascends hstart hfound (by rw [hgroup]), ?_⟩
  obtain ⟨-, -, hkey⟩ := mem_visits_iff.1 (List.mem_of_getElem? hfound)
  rw [hkey, PassthroughDevice.unitKey_of_group, PassthroughDevice.unitKey_of_group, hgroup]

/-! ### Handles -/

/-- **A handle is claimed by those that have it**: it is neither an ordinal nor the number of a
group. -/
theorem IsFirst.handle_eq {order : List (String × PassthroughDevice)} {ordinal place : Nat}
    {handle : String} {first : String × PassthroughDevice} (hstart : "vfio".toList <+: handle.toList)
    (hfirst : IsFirst order ordinal handle place first) : first.2.handle = some handle := by
  have hnumber : ∀ n : Nat, handle ≠ toString n := by
    rintro n rfl
    exact not_isPrefix_toString n hstart
  have hclaims := hfirst.claims
  rw [namesOf, List.mem_append, List.mem_cons, List.mem_singleton, Option.mem_toList] at hclaims
  exact (hclaims.resolve_left (not_or.2 ⟨hnumber _, hnumber _⟩))

/-- A handle of a device that is visited is claimed for the first time by a device that has it. -/
theorem exists_isFirst_ofHandle (handles : Bool) {devices : List PassthroughDevice} {scope : Scope}
    {d : PassthroughDevice} {handle : String} (hd : d ∈ devices) (hcovers : scope.covers d = true)
    (hhandle : d.handle = some handle) (hstart : "vfio".toList <+: handle.toList) :
    ∃ place first,
      IsFirst (visits (Snapshot.ofDevices handles devices) scope) 0 handle place first ∧
        first.2.handle = some handle := by
  have hmem : (d.unitKey handles, d) ∈ visits (Snapshot.ofDevices handles devices) scope :=
    mem_visits_iff.2 ⟨hd, hcovers, rfl⟩
  obtain ⟨own, hown⟩ := List.mem_iff_getElem?.1 hmem
  have hclaims : handle ∈ namesOf (0 + own) d :=
    List.mem_append_right _ (Option.mem_toList.2 hhandle)
  obtain ⟨place, first, -, hfirst⟩ := exists_isFirst hown hclaims
  exact ⟨place, first, hfirst, hfirst.handle_eq hstart⟩

/-! ### The entries of units -/

/-- **The entry of a handle has its node**, on a host that gives out handles. -/
theorem handleEntry_ofDevices {devices : List PassthroughDevice} {scope : Scope}
    {d : PassthroughDevice} {handle : String} (hd : d ∈ devices) (hcovers : scope.covers d = true)
    (hhandle : d.handle = some handle) (hstart : "vfio".toList <+: handle.toList)
    (c : Config) (className : String) :
    ∃ spec, build? (Snapshot.ofDevices true devices) c className scope = some spec ∧
      spec.devices.filter (fun entry => entry.name = handle) =
        [⟨handle, [Isolation.handleNode c.vfioRoot handle]⟩] := by
  obtain ⟨place, first, hfirst, howner⟩ :=
    exists_isFirst_ofHandle true hd hcovers hhandle hstart
  obtain ⟨spec, hspec, hentry⟩ := hfirst.exists_spec c className
  refine ⟨spec, hspec, ?_⟩
  rw [hentry, Snapshot.handles_ofDevices, deviceNodes_of_handle howner]

/-- **Every unit keeps an entry**: if a specification covers a device of a unit, it has an entry with
the nodes of the unit, however many names were taken; and where the host gives out handles, the
handle of the device has one entry, with the node of the handle. -/
theorem exists_entry_ofDevices {handles : Bool} {devices : List PassthroughDevice}
    (hhandles : ∀ d ∈ devices, ∀ handle ∈ d.handle, "vfio".toList <+: handle.toList)
    (hall : handles = true → ∀ d ∈ devices, d.handle.isSome) {key : String}
    {members : List PassthroughDevice}
    (hunit : (Snapshot.ofDevices handles devices).unit? key = some members) {scope : Scope}
    {d : PassthroughDevice} (hd : d ∈ members) (hcovers : scope.covers d = true) (c : Config)
    (className : String) :
    ∃ spec, build? (Snapshot.ofDevices handles devices) c className scope = some spec ∧
      (∃ entry ∈ spec.devices, entry.nodes = unitNodes c.vfioRoot key handles ∧
        ∀ member ∈ members, entry.nodes = deviceNodes c.vfioRoot key handles member) ∧
      (handles = true → ∀ handle, d.handle = some handle →
        spec.devices.filter (fun entry => entry.name = handle) =
          [⟨handle, [Isolation.handleNode c.vfioRoot handle]⟩]) := by
  obtain ⟨hlisted, rfl⟩ := (Snapshot.mem_members_iff hunit).1 hd
  have hnodes : ∀ member ∈ members, deviceNodes c.vfioRoot (d.unitKey handles) handles member =
      unitNodes c.vfioRoot (d.unitKey handles) handles := by
    intro member hmember
    obtain ⟨hmember, hkey⟩ := (Snapshot.mem_members_iff hunit).1 hmember
    rw [← hkey]
    exact deviceNodes_eq_unitNodes (fun hmode => hall hmode member hmember) _
  cases handles with
  | false =>
    obtain ⟨name, place, first, hfirst, hkey⟩ := exists_isFirst_ofGroup hhandles hlisted hcovers
    obtain ⟨spec, hspec, hentry⟩ := hfirst.exists_spec c className
    have hmem := List.mem_of_mem_filter (hentry ▸ List.mem_singleton_self _)
    have hown : deviceNodes c.vfioRoot first.1 false first.2 =
        unitNodes c.vfioRoot (d.unitKey false) false := by
      rw [hkey, deviceNodes_of_group, unitNodes, if_neg Bool.false_ne_true, groupNodes]
    rw [Snapshot.handles_ofDevices, hown] at hmem
    refine ⟨spec, hspec, ⟨_, hmem, rfl, fun member hmember => (hnodes member hmember).symm⟩, ?_⟩
    intro hmode
    cases hmode
  | true =>
    obtain ⟨handle, hhandle⟩ := Option.isSome_iff_exists.1 (hall rfl d hlisted)
    obtain ⟨spec, hspec, hentry⟩ := handleEntry_ofDevices hlisted hcovers hhandle
      (hhandles d hlisted handle hhandle) c className
    have hmem := List.mem_of_mem_filter (hentry ▸ List.mem_singleton_self _)
    have hown : [Isolation.handleNode c.vfioRoot handle] =
        unitNodes c.vfioRoot (d.unitKey true) true := by
      rw [unitNodes, if_pos rfl, PassthroughDevice.unitKey_of_handle hhandle]
    refine ⟨spec, hspec, ⟨_, hmem, hown, fun member hmember => ?_⟩, fun _ other hother => ?_⟩
    · exact hown.trans (hnodes member hmember).symm
    · obtain rfl := Option.some.inj (hhandle.symm.trans hother)
      exact hentry

/-- Group one keeps an entry although its number went to a device of group zero, and so does a unit
of two devices that share a handle. -/
theorem exists_entry_crowded :
    let grouped : List PassthroughDevice := [{ group := 0 }, { group := 0 }, { group := 1 }]
    let handled : List PassthroughDevice :=
      [{ group := 1, handle := some "vfio0" }, { group := 0, handle := some "vfio0" }]
    ((∀ d ∈ grouped, ∀ handle ∈ d.handle, "vfio".toList <+: handle.toList) ∧
      (Snapshot.ofDevices false grouped).unit? "1" = some [{ group := 1 }] ∧
      ∃ spec, build? (Snapshot.ofDevices false grouped) {} "pgpu" (.category false) = some spec ∧
        ∃ entry ∈ spec.devices, entry.nodes = ["/dev/vfio/vfio", "/dev/vfio/1"]) ∧
    (∀ d ∈ handled, ∀ handle ∈ d.handle, "vfio".toList <+: handle.toList) ∧
      (∀ d ∈ handled, d.handle.isSome) ∧
      (Snapshot.ofDevices true handled).unit? "vfio0" = some handled ∧
      ∃ spec, build? (Snapshot.ofDevices true handled) {} "pgpu" (.category false) = some spec ∧
        spec.devices.filter (fun entry => entry.name = "vfio0") =
          [⟨"vfio0", ["/dev/vfio/devices/vfio0"]⟩] := by
  intro grouped handled
  have hgrouped : ∀ d ∈ grouped, ∀ handle ∈ d.handle, "vfio".toList <+: handle.toList := by decide
  have hhandled : ∀ d ∈ handled, ∀ handle ∈ d.handle, "vfio".toList <+: handle.toList := by decide
  have hall : ∀ d ∈ handled, d.handle.isSome := by decide
  have hgroup : (Snapshot.ofDevices false grouped).unit? "1" = some [{ group := 1 }] := by decide
  have hunit : (Snapshot.ofDevices true handled).unit? "vfio0" = some handled := by decide
  have hnone : false = true → ∀ d ∈ grouped, d.handle.isSome := by decide
  have hgpus : (Scope.category false).covers { group := 1 } = true := by decide
  have hgpu : (Scope.category false).covers { group := 1, handle := some "vfio0" } = true := by
    decide
  refine ⟨⟨hgrouped, hgroup, ?_⟩, hhandled, hall, hunit, ?_⟩
  · obtain ⟨spec, hspec, ⟨entry, hentry, hnodes, -⟩, -⟩ :=
      exists_entry_ofDevices hgrouped hnone hgroup
        (List.mem_singleton_self _) hgpus {} "pgpu"
    exact ⟨spec, hspec, entry, hentry, hnodes⟩
  · obtain ⟨spec, hspec, -, hentry⟩ :=
      exists_entry_ofDevices hhandled (fun _ => hall) hunit List.mem_cons_self
        hgpu {} "pgpu"
    exact ⟨spec, hspec, hentry rfl "vfio0" rfl⟩

end Spec

end GpuPassthrough.Cdi
