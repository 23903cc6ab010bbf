import GpuPassthrough.Proofs.Plugin.Nodes
import GpuPassthrough.Proofs.Plugin.Partition

/-!
# What is Advertised can be Granted

A request is resolved against the units of the snapshot, while the kubelet asks for what a plugin
advertises. Every advertised key leads to a unit with devices in it, so a request for advertised
keys is never refused for an unknown unit. Where the host gives out groups nothing else can go
wrong; where it gives out handles, a device without one refuses the request.

## Main results

* `Allocation.mapM_eq_error_iff`: a list is given up at the first member that fails.
* `Allocation.exists_of_resolve_error`: a refusal is that of one of the requested keys.
* `Allocation.exists_resolve_iff`: a request is granted exactly if each of its keys is.
* `Allocation.isGrantedFor_resolve`: where the host gives out handles, one node for each device.
* `answered_ofSnapshot`: how requests for what a plugin advertises are answered.
-/

namespace GpuPassthrough

namespace Allocation

variable {s : Snapshot} {vfioRoot key : String} {members : List PassthroughDevice}
  {request : List (List String)} {e : PluginError}

/-! ### Lists that are gone through -/

/-- A list is gone through exactly if no member fails. -/
theorem exists_mapM_eq_ok_iff {α β : Type} {f : α → Except PluginError β} {xs : List α} :
    (∃ ys, xs.mapM f = .ok ys) ↔ ∀ x ∈ xs, ∃ y, f x = .ok y := by
  induction xs with
  | nil => exact iff_of_true ⟨[], rfl⟩ (List.forall_mem_nil _)
  | cons x rest ih =>
    rw [List.forall_mem_cons, ← ih]
    simp only [mapM_eq_ok_iff, List.forall₂_cons_left_iff]
    constructor
    · rintro ⟨ys, y, others, hy, hothers, rfl⟩
      exact ⟨⟨y, hy⟩, others, hothers⟩
    · rintro ⟨⟨y, hy⟩, others, hothers⟩
      exact ⟨_, y, others, hy, hothers, rfl⟩

/-- A list fails with its first member, or after it. -/
theorem mapM_cons_eq_error_iff {α β : Type} {f : α → Except PluginError β} {x : α} {rest : List α} :
    (x :: rest).mapM f = .error e ↔
      f x = .error e ∨ (∃ y, f x = .ok y) ∧ rest.mapM f = .error e := by
  rw [List.mapM_cons]
  cases f x with
  | error e' => simp [bind, Except.bind]
  | ok y => cases rest.mapM f <;> simp [bind, Except.bind, pure, Except.pure]

/-- **A list is given up at the first member that fails**, in the way in which that one fails. -/
theorem mapM_eq_error_iff {α β : Type} {f : α → Except PluginError β} {xs : List α} :
    xs.mapM f = .error e ↔ ∃ before x after, xs = before ++ x :: after ∧
      (∀ y ∈ before, ∃ z, f y = .ok z) ∧ f x = .error e := by
  induction xs with
  | nil =>
    refine ⟨nofun, ?_⟩
    rintro ⟨before, x, after, heq, -⟩
    exact absurd heq.symm (List.append_ne_nil_of_right_ne_nil before (List.cons_ne_nil x after))
  | cons x rest ih =>
    rw [mapM_cons_eq_error_iff, ih]
    constructor
    · rintro (hx | ⟨hx, before, y, after, rfl, hbefore, hy⟩)
      · exact ⟨[], x, rest, rfl, List.forall_mem_nil _, hx⟩
      · exact ⟨x :: before, y, after, rfl, List.forall_mem_cons.2 ⟨hx, hbefore⟩, hy⟩
    · rintro ⟨before, y, after, heq, hbefore, hy⟩
      cases before with
      | nil =>
        cases heq
        exact .inl hy
      | cons first before =>
        cases heq
        obtain ⟨hx, hrest⟩ := List.forall_mem_cons.1 hbefore
        exact .inr ⟨hx, before, y, after, rfl, hrest, hy⟩

/-- A list that is not gone through has a member that fails in the same way. -/
theorem exists_of_mapM_error {α β : Type} {f : α → Except PluginError β} {xs : List α}
    (herror : xs.mapM f = .error e) : ∃ x ∈ xs, f x = .error e := by
  obtain ⟨before, x, after, rfl, -, hfails⟩ := mapM_eq_error_iff.1 herror
  exact ⟨x, List.mem_append_right _ List.mem_cons_self, hfails⟩

/-! ### One unit -/

/-- A unit that is there is granted as a group, or by the handles of its devices. -/
theorem ofUnit_of_some (hunit : s.unit? key = some members) (vfioRoot : String) :
    ofUnit s vfioRoot key =
      if s.handles then
        (members.mapM handleOf).map fun handles =>
          handles.map fun handle => ⟨Isolation.handleNode vfioRoot handle⟩
      else .ok [⟨Isolation.controlNode vfioRoot⟩, ⟨Isolation.groupNode vfioRoot key⟩] := by
  simp only [ofUnit, hunit]
  cases members.mapM handleOf <;> rfl

/-- A unit that is there is refused for a device without a handle only. -/
theorem ofUnit_error (hunit : s.unit? key = some members)
    (herror : ofUnit s vfioRoot key = .error e) :
    ∃ d ∈ members, d.handle = none ∧ e = .missingHandle d.address := by
  rw [ofUnit_of_some hunit] at herror
  split at herror
  · cases hhandles : members.mapM handleOf with
    | ok handles =>
      rw [hhandles] at herror
      cases herror
    | error e' =>
      rw [hhandles] at herror
      cases herror
      obtain ⟨d, hd, hfails⟩ := exists_of_mapM_error hhandles
      cases hhandle : d.handle with
      | some handle =>
        rw [handleOf, hhandle] at hfails
        cases hfails
      | none =>
        rw [handleOf, hhandle] at hfails
        cases hfails
        exact ⟨d, hd, hhandle, rfl⟩
  · cases herror

/-- Where the host gives out handles, a unit is granted exactly if all its devices have one. -/
theorem exists_ofUnit_iff (hmode : s.handles = true) (hunit : s.unit? key = some members) :
    (∃ nodes, ofUnit s vfioRoot key = .ok nodes) ↔ ∀ d ∈ members, d.handle.isSome := by
  have hhandles : (∃ nodes, ofUnit s vfioRoot key = .ok nodes) ↔
      ∃ handles, members.mapM handleOf = .ok handles := by
    rw [ofUnit_of_some hunit, if_pos hmode]
    cases members.mapM handleOf <;> simp [Except.map]
  rw [hhandles, exists_mapM_eq_ok_iff]
  simp only [handleOf_eq_ok_iff, Option.isSome_iff_exists]

/-- **A node is granted for a device**: it is the node of the handle of the device. -/
def IsGrantedFor (vfioRoot : String) (d : PassthroughDevice) (node : GrantedNode) : Prop :=
  ∃ handle, d.handle = some handle ∧ node = ⟨Isolation.handleNode vfioRoot handle⟩

/-- Where the host gives out handles, a unit is granted one node for each device. -/
theorem isGrantedFor_ofUnit (hmode : s.handles = true) {nodes : List GrantedNode}
    (hgranted : ofUnit s vfioRoot key = .ok nodes) :
    List.Forall₂ (IsGrantedFor vfioRoot) ((s.unit? key).getD []) nodes := by
  obtain ⟨members, handles, hunit, hhandles, rfl⟩ := ofUnit_eq_ok_of_handles hmode hgranted
  rw [hunit, Option.getD_some, List.forall₂_map_right_iff]
  rw [← List.forall₂_eq_eq_eq, List.forall₂_map_left_iff, List.forall₂_map_right_iff] at hhandles
  exact hhandles.imp fun d handle hhandle => ⟨handle, hhandle, rfl⟩

/-! ### A whole request -/

/-- A container is granted the nodes of its units, one unit after the other. -/
theorem ofContainer_eq_ok_iff {keys : List String} {nodes : List GrantedNode} :
    ofContainer s vfioRoot keys = .ok nodes ↔
      ∃ granted, keys.mapM (ofUnit s vfioRoot) = .ok granted ∧ granted.flatten = nodes := by
  rw [ofContainer]
  cases keys.mapM (ofUnit s vfioRoot) with
  | error e => simp [bind, Except.bind]
  | ok granted => simp [bind, Except.bind, pure, Except.pure]

/-- A request is granted exactly if each of its keys is. -/
theorem exists_resolve_iff :
    (∃ granted, resolve s vfioRoot request = .ok granted) ↔
      ∀ keys ∈ request, ∀ key ∈ keys, ∃ nodes, ofUnit s vfioRoot key = .ok nodes := by
  rw [resolve, exists_mapM_eq_ok_iff]
  refine forall₂_congr fun keys _ => ?_
  rw [← exists_mapM_eq_ok_iff]
  simp only [ofContainer_eq_ok_iff]
  constructor
  · rintro ⟨_, granted, hgranted, -⟩
    exact ⟨granted, hgranted⟩
  · rintro ⟨granted, hgranted⟩
    exact ⟨_, granted, hgranted, rfl⟩

/-- **A refusal is that of one of the requested keys.** -/
theorem exists_of_resolve_error (herror : resolve s vfioRoot request = .error e) :
    ∃ keys ∈ request, ∃ key ∈ keys, ofUnit s vfioRoot key = .error e := by
  obtain ⟨keys, hkeys, hcontainer⟩ := exists_of_mapM_error herror
  refine ⟨keys, hkeys, exists_of_mapM_error ?_⟩
  rw [ofContainer] at hcontainer
  cases hgranted : keys.mapM (ofUnit s vfioRoot) with
  | error e' =>
    rw [hgranted] at hcontainer
    cases hcontainer
    rfl
  | ok granted =>
    rw [hgranted] at hcontainer
    cases hcontainer

/-- Where the host gives out groups, two nodes are granted for each key of a unit that is there. -/
theorem resolve_of_groups (hmode : s.handles = false)
    (hknown : ∀ keys ∈ request, ∀ key ∈ keys, ∃ members, s.unit? key = some members) :
    resolve s vfioRoot request = .ok (request.map fun keys => keys.flatMap fun key =>
      [⟨Isolation.controlNode vfioRoot⟩, ⟨Isolation.groupNode vfioRoot key⟩]) := by
  rw [resolve, mapM_eq_ok_iff, List.forall₂_map_right_iff, List.forall₂_same]
  intro keys hkeys
  refine ofContainer_eq_ok_iff.2 ⟨_, ?_, (List.flatMap_def ..).symm⟩
  rw [mapM_eq_ok_iff, List.forall₂_map_right_iff, List.forall₂_same]
  intro key hkey
  obtain ⟨members, hunit⟩ := hknown keys hkeys key hkey
  rw [ofUnit_of_some hunit, hmode, if_neg Bool.false_ne_true]

/-- Where the host gives out handles, a container is granted one node for each device of its
units. -/
theorem isGrantedFor_resolve (hmode : s.handles = true) {granted : List (List GrantedNode)}
    (hgranted : resolve s vfioRoot request = .ok granted) :
    List.Forall₂ (fun keys nodes => List.Forall₂ (IsGrantedFor vfioRoot)
      (keys.flatMap fun key => (s.unit? key).getD []) nodes) request granted := by
  rw [resolve, mapM_eq_ok_iff] at hgranted
  refine hgranted.imp fun keys nodes hcontainer => ?_
  obtain ⟨ofKeys, hkeys, rfl⟩ := ofContainer_eq_ok_iff.1 hcontainer
  rw [mapM_eq_ok_iff] at hkeys
  rw [List.flatMap_def]
  refine List.rel_flatten ?_
  rw [List.forall₂_map_left_iff]
  exact hkeys.imp fun key _ => isGrantedFor_ofUnit hmode

end Allocation

/-- **A request for known units is answered.** -/
structure Answered (s : Snapshot) (vfioRoot : String) (request : List (List String)) : Prop where
  /-- Every requested key leads to a unit with a device. -/
  known : ∀ keys ∈ request, ∀ key ∈ keys, ∃ d rest, s.unit? key = some (d :: rest)
  /-- No refusal is for an unknown unit. -/
  neverUnknown : ∀ key, Allocation.resolve s vfioRoot request ≠ .error (.unknownUnit key)
  /-- Where the host gives out groups, every request is granted, with two nodes for each key. -/
  groups : s.handles = false → Allocation.resolve s vfioRoot request =
    .ok (request.map fun keys => keys.flatMap fun key =>
      [⟨Isolation.controlNode vfioRoot⟩, ⟨Isolation.groupNode vfioRoot key⟩])
  /-- Where it gives out handles, a request is granted exactly if all the devices of its units have
  one. -/
  handles : s.handles = true →
    ((∃ granted, Allocation.resolve s vfioRoot request = .ok granted) ↔
      ∀ keys ∈ request, ∀ key ∈ keys, ∀ members, s.unit? key = some members →
        ∀ d ∈ members, d.handle.isSome)
  /-- What is granted then: for each container one node for each device of each of its units. -/
  perDevice : s.handles = true → ∀ granted, Allocation.resolve s vfioRoot request = .ok granted →
    List.Forall₂ (fun keys nodes => List.Forall₂ (Allocation.IsGrantedFor vfioRoot)
      (keys.flatMap fun key => (s.unit? key).getD []) nodes) request granted

/-- **What a plugin advertises can be granted**, whatever was found and however it is named. -/
theorem answered_ofSnapshot {handles : Bool} {devices : List PassthroughDevice} {c : Config}
    {plan : PluginPlan}
    (hplan : plan ∈ PluginPlan.ofSnapshot (Snapshot.ofDevices handles devices) c)
    {request : List (List String)} (hrequest : ∀ keys ∈ request, ∀ key ∈ keys, key ∈ plan.units)
    (vfioRoot : String) : Answered (Snapshot.ofDevices handles devices) vfioRoot request := by
  have hunits : ∀ keys ∈ request, ∀ key ∈ keys,
      ∃ members, (Snapshot.ofDevices handles devices).unit? key = some members := by
    intro keys hkeys key hkey
    refine Option.isSome_iff_exists.1 ?_
    exact (PluginPlan.exists_plan_iff (Snapshot.wellKeyed_ofDevices handles devices) c).1
      ⟨plan, hplan, hrequest keys hkeys key hkey⟩
  refine ⟨fun keys hkeys key hkey => ?_, fun key hunknown => ?_,
    fun hmode => Allocation.resolve_of_groups hmode hunits, fun hmode => ?_,
    fun hmode granted hgranted => Allocation.isGrantedFor_resolve hmode hgranted⟩
  · obtain ⟨members, hunit⟩ := hunits keys hkeys key hkey
    obtain ⟨d, rest, rfl⟩ := List.exists_cons_of_ne_nil (Snapshot.members_ofDevices hunit).1
    exact ⟨d, rest, hunit⟩
  · obtain ⟨keys, hkeys, other, hother, hrefused⟩ := Allocation.exists_of_resolve_error hunknown
    obtain ⟨members, hunit⟩ := hunits keys hkeys other hother
    obtain ⟨d, -, -, hmissing⟩ := Allocation.ofUnit_error hunit hrefused
    cases hmissing
  · rw [Allocation.exists_resolve_iff]
    refine forall₂_congr fun keys hkeys => forall₂_congr fun key hkey => ?_
    obtain ⟨members, hunit⟩ := hunits keys hkeys key hkey
    rw [Allocation.exists_ofUnit_iff hmode hunit, hunit]
    simp only [Option.some.injEq, forall_eq']

/-- A plugin with a unit of two handles and a unit of a device without one: the first can be
granted, the second refuses every request. -/
theorem answered_missingHandle :
    let devices : List PassthroughDevice :=
      [{ group := 1, handle := some "vfio0" }, { address := "0000:02:00.0", group := 2 },
        { group := 3, handle := some "vfio0" }]
    let s := Snapshot.ofDevices true devices
    ⟨"0000", ["vfio0", "2"]⟩ ∈ PluginPlan.ofSnapshot s {} ∧
      Allocation.resolve s "/dev/vfio" [["vfio0"], []] =
        .ok [[⟨"/dev/vfio/devices/vfio0"⟩, ⟨"/dev/vfio/devices/vfio0"⟩], []] ∧
      Allocation.resolve s "/dev/vfio" [["vfio0"], ["2", "vfio0"]] =
        .error (.missingHandle "0000:02:00.0") ∧
      Answered s "/dev/vfio" [["vfio0"], []] ∧
      Answered s "/dev/vfio" [["vfio0"], ["2", "vfio0"]] := by
  intro devices s
  have hplan : ⟨"0000", ["vfio0", "2"]⟩ ∈ PluginPlan.ofSnapshot s {} := by decide
  exact ⟨hplan, by decide, by decide, answered_ofSnapshot hplan (by decide) _,
    answered_ofSnapshot hplan (by decide) _⟩

end GpuPassthrough
