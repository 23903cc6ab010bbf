import GpuPassthrough.Error
import GpuPassthrough.Isolation.Nodes
import GpuPassthrough.Snapshot.Basic

/-!
# Allocation

The kubelet asks for units, container by container, and gets the nodes that the containers need.
Either every unit of the request resolves, or the first that does not refuses the whole request.

## Main results

* `isAllocation_of_resolve_error`: a refusal is always the client's fault.
-/

namespace GpuPassthrough

/-- A node that a container gets, under the same path inside and outside. -/
structure GrantedNode where
  path : String
  deriving DecidableEq

/-- How a container is told of a node: under which path it stands outside, under which inside, and
what the container may do with it. -/
structure ContainerNode where
  hostPath : String
  containerPath : String
  permissions : String
  deriving DecidableEq

namespace GrantedNode

/-- What a container may do with a node: make it, read it and write it. -/
def permissions : String := "mrw"

/-- How a container is told of a node that it gets. -/
def told (n : GrantedNode) : ContainerNode := ⟨n.path, n.path, permissions⟩

end GrantedNode

namespace Allocation

/-- The handle of a device that has one. -/
def handleOf (d : PassthroughDevice) : Except PluginError String :=
  match d.handle with
  | some handle => .ok handle
  | none => .error (.missingHandle d.address)

/-- The nodes of a unit: those of the handles of its devices where the host gives out handles, else
the control node and the node of the unit. -/
def ofUnit (s : Snapshot) (vfioRoot key : String) : Except PluginError (List GrantedNode) :=
  match s.unit? key with
  | none => .error (.unknownUnit key)
  | some devices =>
    if s.handles then do
      let handles ← devices.mapM handleOf
      return handles.map fun handle => ⟨Isolation.handleNode vfioRoot handle⟩
    else .ok [⟨Isolation.controlNode vfioRoot⟩, ⟨Isolation.groupNode vfioRoot key⟩]

/-- The nodes of a container, unit by unit. -/
def ofContainer (s : Snapshot) (vfioRoot : String) (keys : List String) :
    Except PluginError (List GrantedNode) := do
  let granted ← keys.mapM (ofUnit s vfioRoot)
  return granted.flatten

/-- The nodes of every container of a request. -/
def resolve (s : Snapshot) (vfioRoot : String) (request : List (List String)) :
    Except PluginError (List (List GrantedNode)) :=
  request.mapM (ofContainer s vfioRoot)

/-- A list whose members all fail in one way only fails in that way. -/
theorem mapM_error {α β : Type} {P : PluginError → Prop} {f : α → Except PluginError β}
    (hf : ∀ x e, f x = .error e → P e) :
    ∀ {xs : List α} {e : PluginError}, xs.mapM f = .error e → P e
  | [], e, h => by simp [pure, Except.pure] at h
  | x :: xs, e, h => by
    rw [List.mapM_cons] at h
    cases hx : f x with
    | error e' =>
      simp only [hx, bind, Except.bind, Except.error.injEq] at h
      exact h ▸ hf x e' hx
    | ok y =>
      cases hxs : xs.mapM f with
      | error e' =>
        simp only [hx, hxs, bind, Except.bind, Except.error.injEq] at h
        exact h ▸ mapM_error hf hxs
      | ok ys => simp [hx, hxs, bind, Except.bind, pure, Except.pure] at h

/-- The nodes of a unit are refused for an unknown unit or a missing handle only. -/
theorem isAllocation_of_ofUnit_error {s : Snapshot} {vfioRoot key : String} {e : PluginError}
    (h : ofUnit s vfioRoot key = .error e) : e.isAllocation = true := by
  unfold ofUnit at h
  split at h
  · simp only [Except.error.injEq] at h; exact h ▸ rfl
  · next devices _ =>
    split at h
    · cases hm : devices.mapM handleOf with
      | error e' =>
        simp only [hm, bind, Except.bind, Except.error.injEq] at h
        refine h ▸ mapM_error (P := fun e => e.isAllocation = true) ?_ hm
        intro d e'' hd
        unfold handleOf at hd
        split at hd
        · simp at hd
        · simp only [Except.error.injEq] at hd; exact hd ▸ rfl
      | ok handles => simp [hm, bind, Except.bind, pure, Except.pure] at h
    · simp at h

/-- A refusal is always the client's fault. -/
theorem isAllocation_of_resolve_error {s : Snapshot} {vfioRoot : String}
    {request : List (List String)} {e : PluginError} (h : resolve s vfioRoot request = .error e) :
    e.isAllocation = true := by
  refine mapM_error (P := fun e => e.isAllocation = true) ?_ h
  intro keys e' hkeys
  unfold ofContainer at hkeys
  cases hm : keys.mapM (ofUnit s vfioRoot) with
  | error e'' =>
    simp only [hm, bind, Except.bind, Except.error.injEq] at hkeys
    exact hkeys ▸ mapM_error (P := fun e => e.isAllocation = true)
      (fun _ _ => isAllocation_of_ofUnit_error) hm
  | ok granted => simp [hm, bind, Except.bind, pure, Except.pure] at hkeys

end Allocation

end GpuPassthrough
