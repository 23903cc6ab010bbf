import GpuPassthrough.Proofs.Cdi.Claims
import GpuPassthrough.Proofs.Cdi.Plan

/-!
# What a Plan Covers

A specification under an alias covers the devices of its category; one of classes covers the devices
of the classes that entered it, whichever category they came from. A specification without a device
in its scope is not written.

## Main results

* `covered_plan_iff`: which devices are covered under a name.
* `build?_isSome_iff`: a specification is written if it covers a device.
-/

namespace GpuPassthrough.Cdi

/-- **A device is covered under a name**: a specification of the name covers it. -/
def Covered (plan : List (String × Scope)) (name : String) (d : PassthroughDevice) : Prop :=
  ∃ entry ∈ plan, entry.1 = name ∧ entry.2.covers d = true

/-- What the first specification covers, or another one. -/
theorem covered_cons {entry : String × Scope} {plan : List (String × Scope)} {name : String}
    {d : PassthroughDevice} :
    Covered (entry :: plan) name d ↔
      entry.1 = name ∧ entry.2.covers d = true ∨ Covered plan name d :=
  List.exists_mem_cons_iff ..

/-- A category without an alias covers the classes of its devices under their names; one with an alias
covers its devices under the alias. -/
def Brings (s : Snapshot) (c : Config) (switch : Bool) (name : String) (d : PassthroughDevice) :
    Prop :=
  match c.aliasFor switch with
  | some other => other = name ∧ d.isSwitch = switch
  | none => s.plainName d.classId = name ∧
      ∃ other ∈ s.devices, other.isSwitch = switch ∧ other.classId = d.classId

namespace Plan

/-- A class that enters is covered under its name. -/
theorem covered_enter {name id other : String} {plan : List (String × Scope)}
    {d : PassthroughDevice} :
    Covered (enter name id plan) other d ↔
      name = other ∧ id = d.classId ∨ Covered plan other d := by
  induction plan with
  | nil => simp [enter, Covered, Scope.covers, eq_comm (a := id)]
  | cons entry rest ih =>
    obtain ⟨first, scope⟩ := entry
    cases scope with
    | category switch => rw [enter_cons_category, covered_cons, covered_cons, ih, or_left_comm]
    | classes ids =>
      rw [enter_cons_classes]
      split
      · next hname =>
        simp only [covered_cons, Scope.covers, List.contains_iff_mem, Index.mem_insertSorted, hname]
        tauto
      · rw [covered_cons, covered_cons, ih, or_left_comm]

/-- Classes that enter are covered under their names. -/
theorem covered_enterAll {s : Snapshot} {ids : List String} {plan : List (String × Scope)}
    {name : String} {d : PassthroughDevice} :
    Covered (enterAll s ids plan) name d ↔
      s.plainName d.classId = name ∧ d.classId ∈ ids ∨ Covered plan name d := by
  induction ids generalizing plan with
  | nil => simp [enterAll]
  | cons id rest ih =>
    have hone : s.plainName id = name ∧ id = d.classId ↔
        s.plainName d.classId = name ∧ d.classId = id := by
      constructor <;> rintro ⟨hname, rfl⟩ <;> exact ⟨hname, rfl⟩
    rw [enterAll, List.foldl_cons]
    refine ih.trans ?_
    rw [covered_enter, hone, List.mem_cons, and_or_left, or_assoc, or_left_comm]

/-- **What a category brings is covered.** -/
theorem covered_addCategory {s : Snapshot} {c : Config} {switch : Bool}
    {plan : List (String × Scope)} {name : String} {d : PassthroughDevice} :
    Covered (addCategory s c plan switch) name d ↔
      Brings s c switch name d ∨ Covered plan name d := by
  cases halias : c.aliasFor switch with
  | some other =>
    simp only [addCategory_of_alias halias, Brings, halias, Covered, List.mem_append,
      List.mem_singleton, or_and_right, exists_or, exists_eq_left, Scope.covers, beq_iff_eq]
    exact or_comm
  | none =>
    rw [addCategory_of_classes halias, covered_enterAll, mem_classIds_iff]
    simp only [Brings, halias]

end Plan

/-- **Which devices are covered under a name.** -/
theorem covered_plan_iff {s : Snapshot} {c : Config} {name : String} {d : PassthroughDevice} :
    Covered (plan s c) name d ↔ ∃ switch, Brings s c switch name d := by
  rw [plan, Plan.covered_addCategory, Plan.covered_addCategory, Bool.exists_bool, or_comm]
  refine or_congr_left (or_iff_left ?_)
  simp [Covered]

namespace Spec

/-- A specification is written if it visits a device. -/
theorem build?_isSome_iff_visits {s : Snapshot} {c : Config} {className : String} {scope : Scope} :
    (build? s c className scope).isSome ↔ visits s scope ≠ [] := by
  constructor
  · intro hsome hnil
    rw [visits] at hnil
    simp [build?, hnil, enterFrom] at hsome
  · intro hne
    obtain ⟨first, rest, hvisits⟩ := List.exists_cons_of_ne_nil hne
    -- Nobody claims zero before the first device does, as its ordinal.
    have hfirst : IsFirst (visits s scope) 0 (toString 0) 0 first := by
      refine ⟨by rw [hvisits]; rfl, List.mem_cons_self, ?_⟩
      exact fun _ hbefore => absurd hbefore (Nat.not_lt_zero _)
    obtain ⟨spec, hspec, -⟩ := hfirst.exists_spec c className
    rw [hspec]
    rfl

/-- **A specification is written if it covers a device.** -/
theorem build?_isSome_iff {handles : Bool} {devices : List PassthroughDevice} {c : Config}
    {className : String} {scope : Scope} :
    (build? (Snapshot.ofDevices handles devices) c className scope).isSome ↔
      ∃ d ∈ devices, scope.covers d = true := by
  rw [build?_isSome_iff_visits]
  constructor
  · intro hne
    obtain ⟨visited, hvisited⟩ := List.exists_mem_of_ne_nil _ hne
    obtain ⟨hlisted, hcovers, -⟩ := mem_visits_iff.1 hvisited
    exact ⟨visited.2, hlisted, hcovers⟩
  · rintro ⟨d, hd, hcovers⟩
    have hmem : (d.unitKey handles, d) ∈ visits (Snapshot.ofDevices handles devices) scope :=
      mem_visits_iff.2 ⟨hd, hcovers, rfl⟩
    exact List.ne_nil_of_mem hmem

end Spec

end GpuPassthrough.Cdi
