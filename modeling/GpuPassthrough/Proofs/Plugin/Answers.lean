import GpuPassthrough.Plugin.Instance
import GpuPassthrough.Proofs.Plugin.Grants

/-!
# How a Call for Units is Answered

A call goes through its containers and their keys in order. It is given up at the first key that
cannot be granted, and then the caller gets the reason for that key and nothing else; if there is no
such key, every container is told of the nodes of its keys, one key after the other.

Which keys can be granted, and why a key cannot, is said of the snapshot, without the call.

## Main results

* `Allocation.exists_ofUnit_eq_ok_iff`, `Allocation.ofUnit_eq_error_iff`: which keys can be granted,
  and why a key is refused.
* `Allocation.resolve_eq_error_iff`: a request fails for its first key that cannot be granted.
* `Instance.allOrNothing_answer`: a call is answered as a whole or refused as a whole.
-/

namespace GpuPassthrough

namespace Snapshot

/-- **Whether a key can be granted**: it names a unit and, where the host gives out handles, every
device of the unit has one. -/
def CanGrant (s : Snapshot) (key : String) : Prop :=
  ∃ members, s.unit? key = some members ∧
    (s.handles = true → ∀ d ∈ members, d.handle.isSome = true)

/-- **Why a key is refused**: it names no unit, or a handle is missing, and then the first. -/
inductive Refuses (s : Snapshot) (key : String) : PluginError → Prop
  | unknown (hunit : s.unit? key = none) : Refuses s key (.unknownUnit key)
  | missing {before after : List PassthroughDevice} {d : PassthroughDevice}
      (hmode : s.handles = true) (hunit : s.unit? key = some (before ++ d :: after))
      (hbefore : ∀ other ∈ before, other.handle.isSome = true) (hhandle : d.handle = none) :
      Refuses s key (.missingHandle d.address)

/-- **Why a request is refused**: its first key that cannot be granted is refused. -/
def RefusesFirst (s : Snapshot) (request : List (List String)) (e : PluginError) : Prop :=
  ∃ before key after, request.flatten = before ++ key :: after ∧
    (∀ other ∈ before, s.CanGrant other) ∧ s.Refuses key e

/-- The nodes of a unit: those of the handles of its devices where the host gives out handles, else
the control node and the node of the unit. -/
def nodes (s : Snapshot) (vfioRoot key : String) (members : List PassthroughDevice) : List String :=
  if s.handles then
    (members.filterMap PassthroughDevice.handle).map (Isolation.handleNode vfioRoot)
  else [Isolation.controlNode vfioRoot, Isolation.groupNode vfioRoot key]

end Snapshot

namespace Allocation

variable {s : Snapshot} {vfioRoot key : String} {members : List PassthroughDevice}
  {request : List (List String)} {e : PluginError}

/-! ### One key -/

/-- **Which keys can be granted.** -/
theorem exists_ofUnit_eq_ok_iff :
    (∃ granted, ofUnit s vfioRoot key = .ok granted) ↔ s.CanGrant key := by
  rw [Snapshot.CanGrant]
  cases hunit : s.unit? key with
  | none => simp [ofUnit, hunit]
  | some members =>
    simp only [Option.some.injEq, exists_eq_left']
    cases hmode : s.handles with
    | true => exact (exists_ofUnit_iff hmode hunit).trans (imp_iff_right rfl).symm
    | false =>
      refine iff_of_true ?_ fun hfalse => absurd hfalse Bool.false_ne_true
      rw [ofUnit_of_some hunit, hmode, if_neg Bool.false_ne_true]
      exact ⟨_, rfl⟩

/-- What is granted for a unit are its nodes. -/
theorem ofUnit_eq_nodes {granted : List GrantedNode} (hunit : s.unit? key = some members)
    (hgranted : ofUnit s vfioRoot key = .ok granted) :
    granted = (s.nodes vfioRoot key members).map GrantedNode.mk := by
  cases hmode : s.handles with
  | true =>
    obtain ⟨others, handles, hunit', hhandles, rfl⟩ := ofUnit_eq_ok_of_handles hmode hgranted
    obtain rfl : others = members := Option.some.inj (hunit'.symm.trans hunit)
    have hfound : others.filterMap PassthroughDevice.handle = handles := by
      have hall := congrArg (List.filterMap id) hhandles
      simpa [List.filterMap_map] using hall
    rw [Snapshot.nodes, hmode, if_pos rfl, hfound, List.map_map]
    rfl
  | false =>
    obtain ⟨-, -, rfl⟩ := ofUnit_eq_ok_of_groups hmode hgranted
    rw [Snapshot.nodes, hmode, if_neg Bool.false_ne_true]
    rfl

/-- The first device without a handle is the one that is missed. -/
theorem mapM_handleOf_eq_error_iff :
    members.mapM handleOf = .error e ↔ ∃ before d after, members = before ++ d :: after ∧
      (∀ other ∈ before, other.handle.isSome = true) ∧ d.handle = none ∧
        e = .missingHandle d.address := by
  rw [mapM_eq_error_iff]
  refine exists₃_congr fun before d after => and_congr_right fun _ => and_congr ?_ ?_
  · simp only [handleOf_eq_ok_iff, Option.isSome_iff_exists]
  · cases hhandle : d.handle <;> simp [handleOf, hhandle, eq_comm]

/-- **Why a key is refused.** -/
theorem ofUnit_eq_error_iff : ofUnit s vfioRoot key = .error e ↔ s.Refuses key e := by
  constructor
  · intro herror
    cases hunit : s.unit? key with
    | none =>
      simp only [ofUnit, hunit] at herror
      cases herror
      exact .unknown hunit
    | some members =>
      rw [ofUnit_of_some hunit] at herror
      split at herror
      · next hmode =>
        cases hhandles : members.mapM handleOf with
        | ok handles =>
          rw [hhandles] at herror
          cases herror
        | error e' =>
          rw [hhandles] at herror
          cases herror
          obtain ⟨before, d, after, rfl, hbefore, hhandle, rfl⟩ :=
            mapM_handleOf_eq_error_iff.1 hhandles
          exact .missing hmode hunit hbefore hhandle
      · cases herror
  · rintro (hunit | ⟨hmode, hunit, hbefore, hhandle⟩)
    · simp only [ofUnit, hunit]
    · rw [ofUnit_of_some hunit, if_pos hmode,
        mapM_handleOf_eq_error_iff.2 ⟨_, _, _, rfl, hbefore, hhandle, rfl⟩]
      rfl

/-! ### A whole request -/

/-- A list fails in its first part, or after it. -/
theorem mapM_append_eq_error_iff {α β : Type} {f : α → Except PluginError β} {xs ys : List α} :
    (xs ++ ys).mapM f = .error e ↔
      xs.mapM f = .error e ∨ (∃ zs, xs.mapM f = .ok zs) ∧ ys.mapM f = .error e := by
  rw [List.mapM_append]
  cases xs.mapM f with
  | error e' => simp [bind, Except.bind]
  | ok zs => cases ys.mapM f <;> simp [bind, Except.bind, pure, Except.pure]

/-- How containers are divided does not show in the failure of a request. -/
theorem resolve_eq_error_iff_mapM :
    resolve s vfioRoot request = .error e ↔
      request.flatten.mapM (ofUnit s vfioRoot) = .error e := by
  induction request with
  | nil => exact iff_of_false nofun nofun
  | cons keys rest ih =>
    rw [resolve] at ih
    rw [resolve, mapM_cons_eq_error_iff, ih, List.flatten_cons, mapM_append_eq_error_iff]
    cases hkeys : keys.mapM (ofUnit s vfioRoot) <;>
      simp [ofContainer, hkeys, bind, Except.bind, pure, Except.pure]

/-- **A request fails for its first key that cannot be granted.** -/
theorem resolve_eq_error_iff :
    resolve s vfioRoot request = .error e ↔ s.RefusesFirst request e := by
  rw [resolve_eq_error_iff_mapM, mapM_eq_error_iff, Snapshot.RefusesFirst]
  simp only [exists_ofUnit_eq_ok_iff, ofUnit_eq_error_iff]

end Allocation

namespace Instance

variable {p : Instance} {request : List (List String)}

/-! ### The call -/

/-- A call answers what its request leads to. -/
theorem answer_result (p : Instance) (request : List (List String)) :
    (p.answer request).2 = ((Allocation.resolve p.snapshot p.config.vfioRoot request).map
      fun nodes => nodes.map (List.map GrantedNode.told)).mapError CallStatus.ofError := rfl

/-- What the containers of a call are told is what is granted for them. -/
theorem answer_eq_ok_iff {told : List (List ContainerNode)} :
    (p.answer request).2 = .ok told ↔
      ∃ granted, Allocation.resolve p.snapshot p.config.vfioRoot request = .ok granted ∧
        told = granted.map (List.map GrantedNode.told) := by
  rw [answer_result]
  cases Allocation.resolve p.snapshot p.config.vfioRoot request <;>
    simp [Except.map, Except.mapError, eq_comm]

/-- What a key yields alone. -/
theorem answer_singleton_eq_ok_iff {key : String} {part : List ContainerNode} :
    (p.answer [[key]]).2 = .ok [part] ↔
      ∃ nodes, Allocation.ofUnit p.snapshot p.config.vfioRoot key = .ok nodes ∧
        part = nodes.map GrantedNode.told := by
  rw [answer_result]
  cases hunit : Allocation.ofUnit p.snapshot p.config.vfioRoot key <;>
    simp [Allocation.resolve, Allocation.ofContainer, hunit, bind, Except.bind, pure, Except.pure,
      Except.map, Except.mapError, eq_comm]

/-- **What a container is told**: what each of its keys yields alone, one key after the other. -/
def TellsKeys (p : Instance) (keys : List String) (nodes : List ContainerNode) : Prop :=
  ∃ parts, List.Forall₂ (fun key part => (p.answer [[key]]).2 = .ok [part]) keys parts ∧
    nodes = parts.flatten

/-- Members that are found one by one and then changed are found changed, one by one. -/
theorem exists_forall₂_map_iff {α β γ : Type} {R : α → β → Prop} {f : β → γ} {xs : List α}
    {ys : List γ} : (∃ zs, List.Forall₂ R xs zs ∧ ys = zs.map f) ↔
      List.Forall₂ (fun x y => ∃ z, R x z ∧ y = f z) xs ys := by
  induction xs generalizing ys with
  | nil => simp [List.forall₂_nil_left_iff]
  | cons x xs ih =>
    simp only [List.forall₂_cons_left_iff, ← ih]
    constructor
    · rintro ⟨_, ⟨z, zs, hz, hzs, rfl⟩, rfl⟩
      exact ⟨f z, zs.map f, ⟨z, hz, rfl⟩, ⟨zs, hzs, rfl⟩, rfl⟩
    · rintro ⟨_, _, ⟨z, hz, rfl⟩, ⟨zs, hzs, rfl⟩, rfl⟩
      exact ⟨z :: zs, ⟨z, zs, hz, hzs, rfl⟩, rfl⟩

/-- A container is told of the nodes that are granted for it. -/
theorem tellsKeys_iff {keys : List String} {told : List ContainerNode} :
    p.TellsKeys keys told ↔
      ∃ nodes, Allocation.ofContainer p.snapshot p.config.vfioRoot keys = .ok nodes ∧
        told = nodes.map GrantedNode.told := by
  simp only [TellsKeys, answer_singleton_eq_ok_iff, ← exists_forall₂_map_iff,
    Allocation.ofContainer_eq_ok_iff, Allocation.mapM_eq_ok_iff]
  constructor
  · rintro ⟨_, ⟨granted, hgranted, rfl⟩, rfl⟩
    exact ⟨_, ⟨granted, hgranted, rfl⟩, List.map_flatten.symm⟩
  · rintro ⟨_, ⟨granted, hgranted, rfl⟩, rfl⟩
    exact ⟨_, ⟨granted, hgranted, rfl⟩, List.map_flatten⟩

/-- What a call tells its containers. -/
theorem answer_eq_ok_iff_tellsKeys {told : List (List ContainerNode)} :
    (p.answer request).2 = .ok told ↔ List.Forall₂ p.TellsKeys request told := by
  rw [answer_eq_ok_iff, Allocation.resolve]
  simp only [Allocation.mapM_eq_ok_iff, exists_forall₂_map_iff, ← tellsKeys_iff]

/-- Why a call is refused: its first key that cannot be granted, whose fault is the caller's. -/
theorem answer_eq_error_iff {status : CallStatus} :
    (p.answer request).2 = .error status ↔
      ∃ e, p.snapshot.RefusesFirst request e ∧ status = ⟨.invalidArgument, e.message⟩ := by
  have hstatus : (p.answer request).2 = .error status ↔
      ∃ e, Allocation.resolve p.snapshot p.config.vfioRoot request = .error e ∧
        status = .ofError e := by
    rw [answer_result]
    cases Allocation.resolve p.snapshot p.config.vfioRoot request <;>
      simp [Except.map, Except.mapError, eq_comm]
  rw [hstatus]
  refine exists_congr fun e => ?_
  rw [← @Allocation.resolve_eq_error_iff p.snapshot p.config.vfioRoot]
  refine and_congr_right fun hrefused => ?_
  rw [CallStatus.ofError, Allocation.isAllocation_of_resolve_error hrefused, if_pos rfl]

/-- A call is answered exactly if each of its keys can be granted. -/
theorem exists_answer_eq_ok_iff :
    (∃ told, (p.answer request).2 = .ok told) ↔
      ∀ keys ∈ request, ∀ key ∈ keys, p.snapshot.CanGrant key := by
  have hall : (∃ granted, Allocation.resolve p.snapshot p.config.vfioRoot request = .ok granted) ↔
      ∀ keys ∈ request, ∀ key ∈ keys, p.snapshot.CanGrant key :=
    Allocation.exists_resolve_iff.trans <| forall₂_congr fun _ _ => forall₂_congr fun _ _ =>
      Allocation.exists_ofUnit_eq_ok_iff
  rw [← hall]
  simp only [answer_eq_ok_iff]
  constructor
  · rintro ⟨_, granted, hgranted, -⟩
    exact ⟨granted, hgranted⟩
  · rintro ⟨granted, hgranted⟩
    exact ⟨_, granted, hgranted, rfl⟩

/-- What a key yields alone are the nodes of its unit, if it can be granted. -/
theorem answer_singleton_eq_ok_iff_nodes {key : String} {part : List ContainerNode} :
    (p.answer [[key]]).2 = .ok [part] ↔
      ∃ members, p.snapshot.unit? key = some members ∧ p.snapshot.CanGrant key ∧
        part = (p.snapshot.nodes p.config.vfioRoot key members).map
          fun path => ⟨path, path, GrantedNode.permissions⟩ := by
  rw [answer_singleton_eq_ok_iff]
  have htold : ∀ {members granted}, p.snapshot.unit? key = some members →
      Allocation.ofUnit p.snapshot p.config.vfioRoot key = .ok granted →
      granted.map GrantedNode.told = (p.snapshot.nodes p.config.vfioRoot key members).map
        fun path => ⟨path, path, GrantedNode.permissions⟩ := fun hunit hgranted => by
    rw [Allocation.ofUnit_eq_nodes hunit hgranted, List.map_map]
    rfl
  constructor
  · rintro ⟨granted, hgranted, rfl⟩
    have hcan := Allocation.exists_ofUnit_eq_ok_iff.1 ⟨granted, hgranted⟩
    obtain ⟨members, hunit, -⟩ := id hcan
    exact ⟨members, hunit, hcan, htold hunit hgranted⟩
  · rintro ⟨members, hunit, hcan, rfl⟩
    obtain ⟨granted, hgranted⟩ := Allocation.exists_ofUnit_eq_ok_iff.2 hcan
    exact ⟨granted, hgranted, (htold hunit hgranted).symm⟩

/-- A node stands under the same path inside a container and outside. -/
theorem containerPath_of_answer {told : List (List ContainerNode)}
    (htold : (p.answer request).2 = .ok told) :
    ∀ nodes ∈ told, ∀ node ∈ nodes, node.containerPath = node.hostPath := by
  obtain ⟨granted, -, rfl⟩ := answer_eq_ok_iff.1 htold
  simp only [List.forall_mem_map]
  intro nodes _ node _
  rfl

/-- **A call is all or nothing.** -/
structure AllOrNothing (p : Instance) (request : List (List String)) : Prop where
  /-- It succeeds exactly if each of its keys can be granted. -/
  succeeds : (∃ told, (p.answer request).2 = .ok told) ↔
    ∀ keys ∈ request, ∀ key ∈ keys, p.snapshot.CanGrant key
  /-- Then every container is told, in order, of what its keys yield. -/
  tells : ∀ told, (p.answer request).2 = .ok told ↔ List.Forall₂ p.TellsKeys request told
  /-- What a key yields are the nodes of its unit, if it can be granted. -/
  yields : ∀ key part, (p.answer [[key]]).2 = .ok [part] ↔
    ∃ members, p.snapshot.unit? key = some members ∧ p.snapshot.CanGrant key ∧
      part = (p.snapshot.nodes p.config.vfioRoot key members).map
        fun path => ⟨path, path, GrantedNode.permissions⟩
  /-- Every node stands under the same path inside and outside. -/
  samePath : ∀ told, (p.answer request).2 = .ok told →
    ∀ nodes ∈ told, ∀ node ∈ nodes, node.containerPath = node.hostPath
  /-- Else the first key that cannot be granted is what the caller gets to know, as its own
  fault. -/
  refuses : ∀ status, (p.answer request).2 = .error status ↔
    ∃ e, p.snapshot.RefusesFirst request e ∧ status = ⟨.invalidArgument, e.message⟩
  /-- The call is counted once, as granted or as refused. -/
  counts : ∀ series, (p.answer request).1.hub.metrics.value series =
    p.hub.metrics.value series +
      if series = .allocations p.className (p.answer request).2.toBool then 1 else 0
  /-- Nothing else of the plugin changes. -/
  keeps : ∃ metrics, (p.answer request).1 = { p with hub := { p.hub with metrics := metrics } }

/-- **A call is answered as a whole or refused as a whole**, whatever was found and however often
a key is asked for. -/
theorem allOrNothing_answer (p : Instance) (request : List (List String)) :
    AllOrNothing p request where
  succeeds := exists_answer_eq_ok_iff
  tells _ := answer_eq_ok_iff_tellsKeys
  yields _ _ := answer_singleton_eq_ok_iff_nodes
  samePath _ := containerPath_of_answer
  refuses _ := answer_eq_error_iff
  counts series := by
    have hbool : (p.answer request).2.toBool =
        (Allocation.resolve p.snapshot p.config.vfioRoot request).toBool := by
      rw [answer_result]
      cases Allocation.resolve p.snapshot p.config.vfioRoot request <;> rfl
    have hmetrics : (p.answer request).1.hub.metrics = p.hub.metrics.increment
        (.allocations p.className (p.answer request).2.toBool) := by
      rw [hbool]
      rfl
    rw [hmetrics]
    split
    · next hseries => rw [hseries, Metrics.value_increment_self]
    · next hseries => rw [Metrics.value_increment_of_ne _ hseries, Nat.add_zero]
  keeps := ⟨_, rfl⟩

end Instance

end GpuPassthrough
