import GpuPassthrough.Cdi.Build
import GpuPassthrough.Plugin.Allocation
import GpuPassthrough.Proofs.Snapshot.Units
import GpuPassthrough.Watch.Targets
import Mathlib.Data.List.Forall2

/-!
# One Unit, the Same Nodes

An allocation, a device specification and the watch over the nodes of a unit each choose between
handles and groups in their own way: by the mode and, for a refusal, the handles of all devices; by
the mode and the handle of one device; by the mode and the key. They agree because a unit whose
devices all have handles is known by the handle of each of them.

## Main results

* `Allocation.mapM_handleOf_eq_ok_iff`: handles are found exactly if every device has one.
* `Snapshot.handle_eq_key`: in a unit with handles, every handle is the key.
* `nodesAgree_ofUnit`: the three choices lead to the same nodes.
-/

namespace GpuPassthrough

/-- Where the host gives out handles, a handle in a unit is the key of the unit. -/
theorem Snapshot.handle_eq_key {devices members : List PassthroughDevice} {key handle : String}
    (hunit : (ofDevices true devices).unit? key = some members) {d : PassthroughDevice}
    (hd : d ∈ members) (hhandle : d.handle = some handle) : handle = key := by
  rw [← (members_ofDevices hunit).2 d hd, PassthroughDevice.unitKey_of_handle hhandle]

namespace Cdi

/-- The nodes of a device with a handle, on a host that gives out handles. -/
theorem deviceNodes_of_handle {d : PassthroughDevice} {handle : String}
    (hhandle : d.handle = some handle) (vfioRoot key : String) :
    deviceNodes vfioRoot key true d = [Isolation.handleNode vfioRoot handle] := by
  simp only [deviceNodes, hhandle]

/-- The nodes of a device on a host that gives out groups. -/
theorem deviceNodes_of_group (d : PassthroughDevice) (vfioRoot key : String) :
    deviceNodes vfioRoot key false d =
      [Isolation.controlNode vfioRoot, Isolation.groupNode vfioRoot key] := by
  cases hhandle : d.handle <;> simp only [deviceNodes, hhandle]

end Cdi

namespace Allocation

/-- A list is gone through without a failure exactly if no member fails. -/
theorem mapM_eq_ok_iff {α β : Type} {f : α → Except PluginError β} {xs : List α} {ys : List β} :
    xs.mapM f = .ok ys ↔ List.Forall₂ (fun x y => f x = .ok y) xs ys := by
  induction xs generalizing ys with
  | nil =>
    rw [List.mapM_nil, List.forall₂_nil_left_iff]
    exact ⟨fun hok => (Except.ok.inj hok).symm, fun hnil => hnil ▸ rfl⟩
  | cons x rest ih =>
    rw [List.mapM_cons, List.forall₂_cons_left_iff]
    constructor
    · intro hok
      cases hx : f x with
      | error e => rw [hx] at hok; cases hok
      | ok y =>
        cases hrest : rest.mapM f with
        | error e => rw [hx, hrest] at hok; cases hok
        | ok others =>
          rw [hx, hrest] at hok
          cases hok
          exact ⟨y, others, rfl, ih.1 hrest, rfl⟩
    · rintro ⟨y, others, hx, hrest, rfl⟩
      rw [hx, ih.2 hrest]
      rfl

/-- A handle is found if the device has it. -/
theorem handleOf_eq_ok_iff {d : PassthroughDevice} {handle : String} :
    handleOf d = .ok handle ↔ d.handle = some handle := by
  cases hd : d.handle <;> simp [handleOf, hd]

/-- Handles are found exactly if every device has one. -/
theorem mapM_handleOf_eq_ok_iff {devices : List PassthroughDevice} {handles : List String} :
    devices.mapM handleOf = .ok handles ↔
      devices.map PassthroughDevice.handle = handles.map some := by
  rw [mapM_eq_ok_iff, ← List.forall₂_eq_eq_eq, List.forall₂_map_left_iff,
    List.forall₂_map_right_iff]
  simp only [handleOf_eq_ok_iff]

/-- What is granted for a unit of a host that gives out handles: the node of each handle, where
every device has one. -/
theorem ofUnit_eq_ok_of_handles {s : Snapshot} {vfioRoot key : String} {granted : List GrantedNode}
    (hmode : s.handles = true) (hgranted : ofUnit s vfioRoot key = .ok granted) :
    ∃ (members : List PassthroughDevice) (handles : List String), s.unit? key = some members ∧
      members.map PassthroughDevice.handle = handles.map some ∧
      granted = handles.map fun handle => ⟨Isolation.handleNode vfioRoot handle⟩ := by
  cases hunit : s.unit? key with
  | none => simp [ofUnit, hunit] at hgranted
  | some members =>
    simp only [ofUnit, hunit, hmode, if_true] at hgranted
    cases hhandles : members.mapM handleOf with
    | error e => rw [hhandles] at hgranted; cases hgranted
    | ok handles =>
      rw [hhandles] at hgranted
      cases hgranted
      exact ⟨members, handles, rfl, mapM_handleOf_eq_ok_iff.1 hhandles, rfl⟩

/-- What is granted for a unit of a host that gives out groups. -/
theorem ofUnit_eq_ok_of_groups {s : Snapshot} {vfioRoot key : String} {granted : List GrantedNode}
    (hmode : s.handles = false) (hgranted : ofUnit s vfioRoot key = .ok granted) :
    ∃ members, s.unit? key = some members ∧
      granted = [⟨Isolation.controlNode vfioRoot⟩, ⟨Isolation.groupNode vfioRoot key⟩] := by
  cases hunit : s.unit? key with
  | none => simp [ofUnit, hunit] at hgranted
  | some members =>
    simp only [ofUnit, hunit, hmode, Bool.false_eq_true, if_false, Except.ok.injEq] at hgranted
    exact ⟨members, rfl, hgranted.symm⟩

end Allocation

/-! ### The three choices -/

/-- The node that is watched for a unit. -/
def watchedNode (vfioRoot key : String) (handles : Bool) : String :=
  Path.join (Isolation.sensingRoot vfioRoot handles) key

/-- Whoever watches a unit watches one node for it. -/
theorem mem_nodes_ofUnits_iff {key : String} {keys : List String} (hkey : key ∈ keys)
    (vfioRoot socket node : String) (handles : Bool) :
    (node, key) ∈
        (WatchTargets.ofUnits (Isolation.sensingRoot vfioRoot handles) keys socket).nodes ↔
      node = watchedNode vfioRoot key handles := by
  rw [WatchTargets.ofUnits, List.mem_map]
  constructor
  · rintro ⟨other, -, heq⟩
    obtain ⟨rfl, rfl⟩ := Prod.mk.inj heq
    rfl
  · rintro rfl
    exact ⟨key, hkey, rfl⟩

/-- **The nodes of a unit agree**: what is granted for it, what the specifications of its devices
name and what is watched for it. -/
structure NodesAgree (handles : Bool) (vfioRoot key : String) (members : List PassthroughDevice)
    (granted : List String) : Prop where
  /-- A node is granted exactly if a device of the unit brings it. -/
  specified : ∀ node, node ∈ granted ↔ ∃ d ∈ members, node ∈ Cdi.deviceNodes vfioRoot key handles d
  /-- Whoever watches the unit watches this one node for it. -/
  watched : ∀ keys socket node, key ∈ keys →
    ((node, key) ∈
      (WatchTargets.ofUnits (Isolation.sensingRoot vfioRoot handles) keys socket).nodes ↔
        node = watchedNode vfioRoot key handles)
  /-- The watched node is granted. -/
  watchedGranted : watchedNode vfioRoot key handles ∈ granted
  /-- Where the host gives out handles, nothing else is. -/
  ofHandles : handles = true → ∀ node ∈ granted, node = watchedNode vfioRoot key handles
  /-- Where it gives out groups, the control node is, before it. -/
  ofGroups : handles = false →
    granted = [Isolation.controlNode vfioRoot, watchedNode vfioRoot key handles]

/-- If every device of a unit has a handle, all of them have the key of the unit for it. -/
theorem Snapshot.handles_eq_key {key : String} {devices members : List PassthroughDevice}
    {found : List String} (hunit : (Snapshot.ofDevices true devices).unit? key = some members)
    (hfound : members.map PassthroughDevice.handle = found.map some) :
    (∀ d ∈ members, d.handle = some key) ∧ ∀ handle, handle ∈ found ↔ handle = key := by
  have hmem : ∀ handle, handle ∈ found ↔ ∃ d ∈ members, d.handle = some handle := by
    intro handle
    rw [← List.mem_map, hfound]
    simp
  have hkey : ∀ d ∈ members, d.handle = some key := by
    intro d hd
    have hsome := List.mem_map_of_mem (f := PassthroughDevice.handle) hd
    rw [hfound] at hsome
    obtain ⟨handle, -, hhandle⟩ := List.mem_map.1 hsome
    rw [← hhandle, Snapshot.handle_eq_key hunit hd hhandle.symm]
  refine ⟨hkey, fun handle => ?_⟩
  rw [hmem]
  constructor
  · rintro ⟨d, hd, hhandle⟩
    exact Snapshot.handle_eq_key hunit hd hhandle
  · rintro rfl
    obtain ⟨d, hd⟩ := List.exists_mem_of_ne_nil _ (Snapshot.members_ofDevices hunit).1
    exact ⟨d, hd, hkey d hd⟩

/-- The nodes agree where the host gives out handles: all devices have the handle that is the
key. -/
theorem nodesAgree_of_handles {vfioRoot key : String} {devices members : List PassthroughDevice}
    {found : List String} (hunit : (Snapshot.ofDevices true devices).unit? key = some members)
    (hfound : members.map PassthroughDevice.handle = found.map some) :
    NodesAgree true vfioRoot key members (found.map (Isolation.handleNode vfioRoot)) := by
  obtain ⟨hkey, hall⟩ := Snapshot.handles_eq_key hunit hfound
  have hgranted : ∀ node, node ∈ found.map (Isolation.handleNode vfioRoot) ↔
      node = Isolation.handleNode vfioRoot key := by
    intro node
    rw [List.mem_map]
    constructor
    · rintro ⟨handle, hhandle, rfl⟩
      rw [(hall handle).1 hhandle]
    · rintro rfl
      exact ⟨key, (hall key).2 rfl, rfl⟩
  refine ⟨fun node => ?_, fun keys socket node hmem => mem_nodes_ofUnits_iff hmem .., ?_, ?_, ?_⟩
  · rw [hgranted]
    constructor
    · rintro rfl
      obtain ⟨d, hd⟩ := List.exists_mem_of_ne_nil _ (Snapshot.members_ofDevices hunit).1
      refine ⟨d, hd, ?_⟩
      rw [Cdi.deviceNodes_of_handle (hkey d hd)]
      exact List.mem_singleton_self _
    · rintro ⟨d, hd, hnode⟩
      rw [Cdi.deviceNodes_of_handle (hkey d hd)] at hnode
      exact List.mem_singleton.1 hnode
  · exact (hgranted _).2 rfl
  · exact fun _ node hnode => (hgranted node).1 hnode
  · exact fun hmode => by cases hmode

/-- The nodes agree where the host gives out groups: all devices have the group that is the key. -/
theorem nodesAgree_of_groups (vfioRoot key : String) {members : List PassthroughDevice}
    (hmembers : members ≠ []) :
    NodesAgree false vfioRoot key members
      [Isolation.controlNode vfioRoot, Isolation.groupNode vfioRoot key] := by
  obtain ⟨d, hd⟩ := List.exists_mem_of_ne_nil _ hmembers
  refine ⟨fun node => ?_, fun keys socket node hmem => mem_nodes_ofUnits_iff hmem .., ?_, ?_, ?_⟩
  · constructor
    · intro hnode
      exact ⟨d, hd, by rwa [Cdi.deviceNodes_of_group]⟩
    · rintro ⟨d', -, hnode⟩
      rwa [Cdi.deviceNodes_of_group] at hnode
  · exact List.mem_cons_of_mem _ (List.mem_singleton_self _)
  · exact fun hmode => by cases hmode
  · exact fun _ => rfl

end GpuPassthrough
