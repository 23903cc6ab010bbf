import GpuPassthrough.Cdi.Build
import GpuPassthrough.Proofs.Snapshot.Keys
import Mathlib.Data.List.Permutation

/-!
# The Order of Visits

The devices of a snapshot are visited unit by unit, in the order of the keys. Every device is visited
as often as it was listed, under the key of its unit. On a host that gives out groups the devices
come in the order of the numbers of their groups.

## Main results

* `inKeyOrder_ofDevices`: who is visited, and under which key.
* `pairwise_inKeyOrder`: in which order.
* `mem_visits_iff`: which devices a specification visits.
* `pairwise_group_visits`: they are visited in the order of their groups.
-/

namespace GpuPassthrough

namespace Cdi.Spec

/-- A visit shows the devices of the units, one unit after the other. -/
theorem inKeyOrder_perm {s : Snapshot} (hs : s.WellKeyed) :
    (inKeyOrder s).Perm (Index.entries s.units) := by
  refine ((UnitKey.sort_perm _).flatMap_right _).trans ?_
  rw [List.flatMap_map, Index.entries]
  refine List.Perm.of_eq (List.flatMap_congr fun group hgroup => ?_)
  rw [Snapshot.unit?, Index.lookup_of_mem hs.nodup hgroup, Option.getD_some]

/-- **Every device is visited as often as it was listed**, under the key of its unit. -/
theorem inKeyOrder_ofDevices (handles : Bool) (devices : List PassthroughDevice) :
    (inKeyOrder (Snapshot.ofDevices handles devices)).Perm
      (devices.map fun d => (d.unitKey handles, d)) :=
  (inKeyOrder_perm (Snapshot.wellKeyed_ofDevices handles devices)).trans
    (Snapshot.entries_ofDevices handles devices)

/-- **Devices are visited in the order of the keys** of their units. -/
theorem pairwise_inKeyOrder (s : Snapshot) :
    (inKeyOrder s).Pairwise fun a b => UnitKey.le a.1 b.1 = true := by
  rw [inKeyOrder, List.pairwise_flatMap]
  constructor
  · intro key _
    rw [List.pairwise_map]
    refine List.pairwise_of_forall fun _ _ => ?_
    simpa using UnitKey.le_total key key
  · refine (UnitKey.pairwise_sort _).imp fun hle x hx y hy => ?_
    obtain ⟨-, -, rfl⟩ := List.mem_map.1 hx
    obtain ⟨-, -, rfl⟩ := List.mem_map.1 hy
    exact hle

/-- Who is visited was listed, and is visited under the key of its unit. -/
theorem key_of_mem_inKeyOrder {handles : Bool} {devices : List PassthroughDevice}
    {visited : String × PassthroughDevice}
    (hvisited : visited ∈ inKeyOrder (Snapshot.ofDevices handles devices)) :
    visited.2 ∈ devices ∧ visited.1 = visited.2.unitKey handles := by
  obtain ⟨d, hd, rfl⟩ := List.mem_map.1 ((inKeyOrder_ofDevices handles devices).mem_iff.1 hvisited)
  exact ⟨hd, rfl⟩

/-! ### The visits of a specification -/

/-- The devices that a specification covers, each with the key of its unit, in the order in which
they are visited. -/
def visits (s : Snapshot) (scope : Scope) : List (String × PassthroughDevice) :=
  (inKeyOrder s).filter fun visited => scope.covers visited.2

/-- A device that is covered is visited. -/
theorem mem_visits_iff {handles : Bool} {devices : List PassthroughDevice} {scope : Scope}
    {visited : String × PassthroughDevice} :
    visited ∈ visits (Snapshot.ofDevices handles devices) scope ↔
      visited.2 ∈ devices ∧ scope.covers visited.2 = true ∧
        visited.1 = visited.2.unitKey handles := by
  rw [visits, List.mem_filter, (inKeyOrder_ofDevices handles devices).mem_iff, List.mem_map]
  constructor
  · rintro ⟨⟨d, hd, rfl⟩, hcovers⟩
    exact ⟨hd, hcovers, rfl⟩
  · rintro ⟨hd, hcovers, hkey⟩
    exact ⟨⟨visited.2, hd, Prod.ext hkey.symm rfl⟩, hcovers⟩

/-! ### The order of groups -/

/-- **Devices are visited in the order of their groups**, where the host gives out groups. -/
theorem pairwise_group_visits (devices : List PassthroughDevice) (scope : Scope) :
    (visits (Snapshot.ofDevices false devices) scope).Pairwise fun a b =>
      a.2.group.toNat ≤ b.2.group.toNat := by
  refine ((pairwise_inKeyOrder _).imp_of_mem fun {a b} ha hb hle => ?_).filter _
  have hnumber := UnitKey.number_le_of_le hle
  rwa [(key_of_mem_inKeyOrder ha).2, (key_of_mem_inKeyOrder hb).2,
    PassthroughDevice.number_unitKey, PassthroughDevice.number_unitKey] at hnumber

end Cdi.Spec

end GpuPassthrough
