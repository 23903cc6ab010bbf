import GpuPassthrough.Proofs.Cdi.Claims
import GpuPassthrough.Proofs.Cdi.Visit
import GpuPassthrough.Proofs.Path
import GpuPassthrough.Proofs.Plugin.Nodes

/-!
# Entries Named after Groups

On a host that gives out groups, the number of a group is the name of an entry, but so is the ordinal
of a device. As devices are visited in the order of their groups, those of smaller groups come first
and have the ordinals from zero on. If there are few of them, the devices of a group are the first to
claim its number; if there are more than the number says, one of them has claimed it as its ordinal.

## Main results

* `lt_countP_iff`, `exists_getElem?_countP`: in a row that ascends, what is below a bound comes
  first, and the first that is not comes right after.
* `exists_isFirst_group`: who is the first to claim the number of a group.
* `groupNode_inj`: groups have nodes of their own.
* `groupEntry_ofDevices`: the entry of a group has its nodes exactly if few devices come before it.
* `earlierOrdinal_takes`: two devices of a group take the entry of the next one.
-/

namespace GpuPassthrough

/-! ### Keys and nodes of groups -/

/-- The key of a group has a digit. -/
theorem exists_isDigit_toString (n : Nat) : ∃ c ∈ (toString n).toList, c.isDigit = true := by
  rw [Nat.toString_eq_ofList_toDigits, String.toList_ofList]
  obtain ⟨c, hc⟩ := List.exists_mem_of_ne_nil _ (Nat.toDigits_ne_nil (n := n) (b := 10))
  exact ⟨c, hc, Nat.isDigit_of_mem_toDigits (by decide) (by decide) hc⟩

/-- The key of a group is the name of a file. -/
theorem component?_toString (n : Nat) :
    Path.component? (toString n) = some (.name (toString n)) := by
  obtain ⟨c, hc, hdigit⟩ := exists_isDigit_toString n
  have hne : ∀ other : String, other.toList.any Char.isDigit = false → toString n ≠ other := by
    intro other hother heq
    rw [heq] at hc
    exact List.any_eq_false.1 hother c hc hdigit
  rw [Path.component?]
  · exact hne "" rfl
  · exact hne "." rfl
  · exact hne ".." rfl

/-- **Groups have nodes of their own.** -/
theorem groupNode_inj {vfioRoot : String} {m n : Nat} :
    Isolation.groupNode vfioRoot (toString m) = Isolation.groupNode vfioRoot (toString n) ↔
      m = n := by
  refine ⟨fun heq => ?_, fun heq => by rw [heq]⟩
  have hslash : ∀ k : Nat, '/' ∉ (toString k).toList :=
    fun k hmem => absurd (UnitKey.isDigit_of_mem_toString hmem) (by decide)
  have hsame : SamePath (Isolation.groupNode vfioRoot (toString m))
      (Isolation.groupNode vfioRoot (toString n)) := heq ▸ SamePath.refl _
  exact UnitKey.toString_inj.1 (Path.eq_of_samePath_join (hslash m) (component?_toString m)
    (hslash n) (component?_toString n) hsame)

/-- What starts with a letter is no key of a group. -/
theorem not_isPrefix_toString (n : Nat) : ¬ "vfio".toList <+: (toString n).toList := by
  intro hprefix
  have hmem : 'v' ∈ (toString n).toList := hprefix.subset (by decide)
  exact absurd (UnitKey.isDigit_of_mem_toString hmem) (by decide)

namespace Cdi

/-- The nodes of a group. -/
def groupNodes (vfioRoot key : String) : List String :=
  [Isolation.controlNode vfioRoot, Isolation.groupNode vfioRoot key]

/-- On a host that gives out groups, units have the same nodes exactly if they are of one group. -/
theorem groupNodes_unitKey_inj {vfioRoot : String} {d other : PassthroughDevice} :
    groupNodes vfioRoot (d.unitKey false) = groupNodes vfioRoot (other.unitKey false) ↔
      d.group = other.group := by
  rw [groupNodes, groupNodes, List.cons_inj_right, List.singleton_inj,
    PassthroughDevice.unitKey_of_group, PassthroughDevice.unitKey_of_group, groupNode_inj,
    UInt32.toNat_inj]

namespace Spec

/-! ### Who comes before a group -/

/-- In a row that ascends, what is below a bound comes first. -/
theorem lt_countP_iff {α : Type} {value : α → Nat} {row : List α}
    (hascends : row.Pairwise fun a b => value a ≤ value b) (bound : Nat) {place : Nat} {x : α}
    (hx : row[place]? = some x) :
    place < row.countP (fun y => value y < bound) ↔ value x < bound := by
  induction row generalizing place with
  | nil => cases hx
  | cons first rest ih =>
    obtain ⟨hfirst, hrest⟩ := List.pairwise_cons.1 hascends
    rw [List.countP_cons]
    by_cases hlt : value first < bound
    · rw [if_pos (decide_eq_true hlt)]
      cases place with
      | zero =>
        obtain rfl := Option.some.inj hx
        exact iff_of_true (Nat.succ_pos _) hlt
      | succ place =>
        rw [Nat.add_lt_add_iff_right]
        exact ih hrest hx
    · -- Nothing in the row is below the bound.
      have hnone : rest.countP (fun y => value y < bound) = 0 := by
        refine List.countP_eq_zero.2 fun y hy hbelow => hlt ?_
        exact Nat.lt_of_le_of_lt (hfirst y hy) (of_decide_eq_true hbelow)
      have hge : bound ≤ value x := by
        cases List.mem_of_getElem? hx with
        | head => exact Nat.le_of_not_lt hlt
        | tail _ hmem => exact Nat.le_trans (Nat.le_of_not_lt hlt) (hfirst x hmem)
      rw [hnone, if_neg (by simpa using hlt)]
      exact iff_of_false (Nat.not_lt_zero _) (Nat.not_lt.2 hge)

/-- In a row that ascends, the first of a value comes right after what is below it. -/
theorem exists_getElem?_countP {α : Type} (value : α → Nat) {row : List α}
    (hascends : row.Pairwise fun a b => value a ≤ value b) {own : Nat} {x : α}
    (hx : row[own]? = some x) :
    ∃ y, row[row.countP fun y => value y < value x]? = some y ∧ value y = value x := by
  -- The element at hand is not among those that are below it.
  have hreach := Nat.le_of_not_lt
    ((lt_countP_iff hascends (value x) hx).not.2 (Nat.lt_irrefl _))
  obtain ⟨hlength, rfl⟩ := List.getElem?_eq_some_iff.1 hx
  generalize hplace : (row.countP fun y => value y < value row[own]) = place at *
  have hfound : row[place]? = some row[place] :=
    List.getElem?_eq_getElem (Nat.lt_of_le_of_lt hreach hlength)
  have hge : value row[own] ≤ value row[place] := by
    have hself := (lt_countP_iff hascends (value row[own]) hfound).not.1
    rw [hplace] at hself
    exact Nat.le_of_not_lt (hself (Nat.lt_irrefl place))
  have hle : value row[place] ≤ value row[own] := by
    rcases Nat.lt_or_eq_of_le hreach with hlt | rfl
    · exact List.pairwise_iff_getElem.1 hascends _ _ _ hlength hlt
    · exact Nat.le_refl _
  exact ⟨row[place], hfound, Nat.le_antisymm hle hge⟩

/-- A number is claimed as an ordinal or as the number of a group. -/
theorem toString_mem_namesOf_iff {d : PassthroughDevice}
    (hhandle : ∀ handle ∈ d.handle, "vfio".toList <+: handle.toList) (ordinal number : Nat) :
    toString number ∈ namesOf ordinal d ↔ number = ordinal ∨ number = d.group.toNat := by
  have hfree : toString number ∉ d.handle.toList := by
    intro hmem
    exact not_isPrefix_toString number (hhandle _ (Option.mem_toList.1 hmem))
  rw [namesOf, List.mem_append, or_iff_left hfree, List.mem_cons, List.mem_singleton,
    UnitKey.toString_inj, UnitKey.toString_inj]

section Row

variable {row : List (String × PassthroughDevice)}
  (hascends : row.Pairwise fun a b => a.2.group.toNat ≤ b.2.group.toNat)
  (hhandles : ∀ visited ∈ row, ∀ handle ∈ visited.2.handle, "vfio".toList <+: handle.toList)

include hascends hhandles

/-- Devices of smaller groups claim a number only if it is their ordinal. -/
theorem unclaimed_before {number place : Nat} (hplace : place ≤ number)
    (hsmaller : place ≤ row.countP fun visited => visited.2.group.toNat < number) :
    ∀ before < place, ∀ other, row[before]? = some other →
      toString number ∉ namesOf (0 + before) other.2 := by
  intro before hbefore other hother hname
  have hgroup := (lt_countP_iff hascends number hother).1 (Nat.lt_of_lt_of_le hbefore hsmaller)
  have hor := (toString_mem_namesOf_iff (hhandles _ (List.mem_of_getElem? hother)) _ _).1 hname
  omega

/-- If few devices come before a group, its first device is the first to claim its number. -/
theorem exists_isFirst_of_le {number own : Nat} {visited : String × PassthroughDevice}
    (hown : row[own]? = some visited) (hgroup : visited.2.group.toNat = number)
    (hfew : (row.countP fun visited => visited.2.group.toNat < number) ≤ number) :
    ∃ first, IsFirst row 0 (toString number)
        (row.countP fun visited => visited.2.group.toNat < number) first ∧
      first.2.group.toNat = number := by
  subst hgroup
  obtain ⟨first, hfound, hnumber⟩ :=
    exists_getElem?_countP (fun visited => visited.2.group.toNat) hascends hown
  refine ⟨first, ⟨hfound, ?_, ?_⟩, hnumber⟩
  · have hhandle := hhandles _ (List.mem_of_getElem? hfound)
    exact (toString_mem_namesOf_iff hhandle _ _).2 (.inr hnumber.symm)
  · exact unclaimed_before hascends hhandles hfew (Nat.le_refl _)

/-- If many devices come before a group, one of them is the first to claim its number: the one that
has it as its ordinal. -/
theorem exists_isFirst_of_lt {number : Nat}
    (hmany : number < row.countP fun visited => visited.2.group.toNat < number) :
    ∃ first, IsFirst row 0 (toString number) number first ∧ first.2.group.toNat < number := by
  have hlength : number < row.length := Nat.lt_of_lt_of_le hmany List.countP_le_length
  have hfound : row[number]? = some row[number] := List.getElem?_eq_getElem hlength
  refine ⟨row[number], ⟨hfound, ?_, ?_⟩, (lt_countP_iff hascends number hfound).1 hmany⟩
  · have hhandle := hhandles _ (List.getElem_mem hlength)
    exact (toString_mem_namesOf_iff hhandle _ _).2 (.inl (Nat.zero_add number).symm)
  · exact unclaimed_before hascends hhandles (Nat.le_refl _) (Nat.le_of_lt hmany)

end Row

/-- The number of devices that a specification covers and that have groups of smaller numbers. -/
def earlier (devices : List PassthroughDevice) (scope : Scope) (group : UInt32) : Nat :=
  devices.countP fun d => scope.covers d && d.group.toNat < group.toNat

/-- They are as many among the visits. -/
theorem countP_visits (devices : List PassthroughDevice) (scope : Scope) (group : UInt32) :
    (visits (Snapshot.ofDevices false devices) scope).countP
      (fun visited => visited.2.group.toNat < group.toNat) = earlier devices scope group := by
  rw [visits, List.countP_filter, (inKeyOrder_ofDevices false devices).countP_eq, List.countP_map,
    earlier]
  refine List.countP_congr fun d _ => ?_
  simp [and_comm]

/-- **Who is the first to claim the number of a group**: a device of that group, unless so many come
before the group that one of them has the number as its ordinal. -/
theorem exists_isFirst_group {devices : List PassthroughDevice} {scope : Scope}
    (hhandles : ∀ d ∈ devices, ∀ handle ∈ d.handle, "vfio".toList <+: handle.toList)
    {d : PassthroughDevice} (hd : d ∈ devices) (hcovers : scope.covers d = true) :
    ∃ place first,
      IsFirst (visits (Snapshot.ofDevices false devices) scope) 0 (d.unitKey false) place first ∧
      (first.2.group = d.group ↔ earlier devices scope d.group ≤ d.group.toNat) := by
  have hascends := pairwise_group_visits devices scope
  have hstart : ∀ visited ∈ visits (Snapshot.ofDevices false devices) scope,
      ∀ handle ∈ visited.2.handle, "vfio".toList <+: handle.toList :=
    fun visited hvisited => hhandles _ (mem_visits_iff.1 hvisited).1
  rw [← countP_visits, PassthroughDevice.unitKey_of_group]
  by_cases hfew : (visits (Snapshot.ofDevices false devices) scope).countP
      (fun visited => visited.2.group.toNat < d.group.toNat) ≤ d.group.toNat
  · have hmem : (d.unitKey false, d) ∈ visits (Snapshot.ofDevices false devices) scope :=
      mem_visits_iff.2 ⟨hd, hcovers, rfl⟩
    obtain ⟨own, hown⟩ := List.mem_iff_getElem?.1 hmem
    obtain ⟨first, hfirst, hgroup⟩ := exists_isFirst_of_le hascends hstart hown rfl hfew
    exact ⟨_, first, hfirst, iff_of_true (UInt32.toNat_inj.1 hgroup) hfew⟩
  · obtain ⟨first, hfirst, hgroup⟩ :=
      exists_isFirst_of_lt hascends hstart (Nat.lt_of_not_le hfew)
    refine ⟨_, first, hfirst, iff_of_false (fun heq => ?_) hfew⟩
    rw [heq] at hgroup
    exact Nat.lt_irrefl _ hgroup

/-- **The entry of a group has its nodes exactly if few devices come before it**: it is there, once,
and brings the nodes of the unit of some device that the specification covers. Those are the nodes of
the group unless more devices belong to groups of smaller numbers than its number says. -/
theorem groupEntry_ofDevices {devices : List PassthroughDevice}
    (hhandles : ∀ d ∈ devices, ∀ handle ∈ d.handle, "vfio".toList <+: handle.toList)
    {scope : Scope} {d : PassthroughDevice} (hd : d ∈ devices) (hcovers : scope.covers d = true)
    (c : Config) (className : String) :
    ∃ spec owner, build? (Snapshot.ofDevices false devices) c className scope = some spec ∧
      owner ∈ devices ∧ scope.covers owner = true ∧
      spec.devices.filter (fun entry => entry.name = d.unitKey false) =
        [⟨d.unitKey false, groupNodes c.vfioRoot (owner.unitKey false)⟩] ∧
      (groupNodes c.vfioRoot (owner.unitKey false) = groupNodes c.vfioRoot (d.unitKey false) ↔
        earlier devices scope d.group ≤ d.group.toNat) := by
  obtain ⟨place, owner, hfirst, hgroup⟩ := exists_isFirst_group hhandles hd hcovers
  obtain ⟨hlisted, hcovered, hkey⟩ := mem_visits_iff.1 (List.mem_of_getElem? hfirst.found)
  obtain ⟨spec, hspec, hentry⟩ := hfirst.exists_spec c className
  refine ⟨spec, owner.2, hspec, hlisted, hcovered, ?_, groupNodes_unitKey_inj.trans hgroup⟩
  rw [hentry, Snapshot.handles_ofDevices, deviceNodes_of_group, hkey, groupNodes]

/-- Two devices of group one, one of which has a handle, come before group two and leave it its
entry. -/
theorem groupEntry_after_pair :
    let devices : List PassthroughDevice :=
      [{ group := 2 }, { group := 1, handle := some "vfio0" }, { group := 1 }]
    (∀ d ∈ devices, ∀ handle ∈ d.handle, "vfio".toList <+: handle.toList) ∧
      earlier devices (.category false) 2 = 2 ∧
      ∃ spec, build? (Snapshot.ofDevices false devices) {} "pgpu" (.category false) = some spec ∧
        spec.devices.filter (fun entry => entry.name = "2") =
          [⟨"2", ["/dev/vfio/vfio", "/dev/vfio/2"]⟩] := by
  intro devices
  have hhandles : ∀ d ∈ devices, ∀ handle ∈ d.handle, "vfio".toList <+: handle.toList := by decide
  have hearlier : earlier devices (.category false) 2 = 2 := by decide
  have hlisted : { group := 2 } ∈ devices := by decide
  have hcovers : (Scope.category false).covers { group := 2 } = true := by decide
  obtain ⟨spec, owner, hspec, -, -, hentry, hnodes⟩ :=
    groupEntry_ofDevices hhandles hlisted hcovers {} "pgpu"
  refine ⟨hhandles, hearlier, spec, hspec, ?_⟩
  rw [hnodes.2 (by decide)] at hentry
  exact hentry

/-- **Two devices of a group take the entry of the next one**: the second has the number of the next
group as its ordinal. -/
theorem earlierOrdinal_takes :
    let devices : List PassthroughDevice := [{ group := 0 }, { group := 0 }, { group := 1 }]
    build? (Snapshot.ofDevices false devices) {} "pgpu" (.category false) =
        some ⟨"nvidia.com", "pgpu", [⟨"0", groupNodes "/dev/vfio" "0"⟩,
          ⟨"1", groupNodes "/dev/vfio" "0"⟩, ⟨"2", groupNodes "/dev/vfio" "1"⟩]⟩ ∧
      groupNodes "/dev/vfio" "0" ≠ groupNodes "/dev/vfio" "1" := by
  intro devices
  refine ⟨?_, by decide⟩
  have hkeys : (Snapshot.ofDevices false devices).units.map (·.1) = ["0", "1"] := by decide
  have hsort : UnitKey.sort ["0", "1"] = ["0", "1"] := List.mergeSort_of_pairwise (by decide)
  rw [build?, inKeyOrder, hkeys, hsort]
  decide

end Spec

end Cdi

end GpuPassthrough
