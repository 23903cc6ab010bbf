import GpuPassthrough.Cdi.Plan
import GpuPassthrough.Proofs.Snapshot.Index

/-!
# Names in a Plan

Which names the specifications of a plan have, and when two of them have one name. Classes that
share a name share a specification, whichever category they come from, so names meet only where an
alias is in play: it is given to a specification of its own, also if the other category goes by it.

## Main results

* `mem_names_addCategory_iff`: the names that a category brings.
* `nodup_names_plan_iff`: no two specifications have one name exactly if no alias is taken.
-/

namespace GpuPassthrough

namespace Cdi

/-- **A category goes by a name**: by its alias if it has one, else by the name of the class of one of
its devices. -/
def GoesBy (s : Snapshot) (c : Config) (switch : Bool) (name : String) : Prop :=
  match c.aliasFor switch with
  | some other => name = other
  | none => ∃ d ∈ s.devices, d.isSwitch = switch ∧ s.plainName d.classId = name

/-- **An alias is taken**: the other category goes by the alias of one. -/
def AliasTaken (s : Snapshot) (c : Config) : Prop :=
  ∃ switch name, c.aliasFor switch = some name ∧ GoesBy s c (!switch) name

namespace Plan

/-- Whether every specification of a plan is one of classes. -/
def OfClasses (plan : List (String × Scope)) : Prop := ∀ entry ∈ plan, ∃ ids, entry.2 = .classes ids

/-! ### Entering classes -/

/-- The plan after some more classes. -/
def enterAll (s : Snapshot) (ids : List String) (plan : List (String × Scope)) :
    List (String × Scope) :=
  ids.foldl (fun plan id => enter (s.plainName id) id plan) plan

/-- A class does not enter a specification of a category. -/
theorem enter_cons_category (name id other : String) (switch : Bool)
    (plan : List (String × Scope)) :
    enter name id ((other, .category switch) :: plan) =
      (other, .category switch) :: enter name id plan := by
  rw [enter]
  split <;> simp_all [Scope.withClass?]

/-- A class enters the first specification of classes that has its name. -/
theorem enter_cons_classes (name id other : String) (ids : List String)
    (plan : List (String × Scope)) :
    enter name id ((other, .classes ids) :: plan) =
      if other = name then (other, .classes (Index.insertSorted id ids)) :: plan
      else (other, .classes ids) :: enter name id plan := by
  rw [enter]
  by_cases hname : other = name <;> simp [hname, Scope.withClass?]

/-- Classes do not enter a specification of a category. -/
theorem enterAll_cons_category (s : Snapshot) (ids : List String) (other : String) (switch : Bool)
    (plan : List (String × Scope)) :
    enterAll s ids ((other, .category switch) :: plan) =
      (other, .category switch) :: enterAll s ids plan := by
  induction ids generalizing plan with
  | nil => rfl
  | cons id rest ih =>
    rw [enterAll, List.foldl_cons, enter_cons_category]
    exact ih _

/-- A class enters a specification of classes or makes one. -/
theorem OfClasses.enter {plan : List (String × Scope)} (hplan : OfClasses plan) (name id : String) :
    OfClasses (Plan.enter name id plan) := by
  induction plan with
  | nil => simp [OfClasses, Plan.enter]
  | cons entry rest ih =>
    obtain ⟨other, scope⟩ := entry
    obtain ⟨⟨ids, rfl⟩, hrest⟩ := List.forall_mem_cons.1 hplan
    rw [enter_cons_classes]
    split
    · exact List.forall_mem_cons.2 ⟨⟨_, rfl⟩, hrest⟩
    · exact List.forall_mem_cons.2 ⟨⟨ids, rfl⟩, ih hrest⟩

/-- Among specifications of classes a class adds its name, last, unless one has it. -/
theorem OfClasses.names_enter {plan : List (String × Scope)} (hplan : OfClasses plan)
    (name id : String) :
    (Plan.enter name id plan).map Prod.fst =
      if name ∈ plan.map Prod.fst then plan.map Prod.fst else plan.map Prod.fst ++ [name] := by
  induction plan with
  | nil => rfl
  | cons entry rest ih =>
    obtain ⟨other, scope⟩ := entry
    obtain ⟨⟨ids, rfl⟩, hrest⟩ := List.forall_mem_cons.1 hplan
    rw [enter_cons_classes]
    by_cases hname : other = name
    · simp [hname]
    · simp only [hname, if_false, List.map_cons, ih hrest, List.mem_cons, Ne.symm hname, false_or]
      split <;> rfl

/-- Classes enter specifications of classes or make them. -/
theorem OfClasses.enterAll {plan : List (String × Scope)} (hplan : OfClasses plan) (s : Snapshot)
    (ids : List String) : OfClasses (Plan.enterAll s ids plan) := by
  induction ids generalizing plan with
  | nil => exact hplan
  | cons id rest ih => exact ih (hplan.enter _ id)

/-- Specifications of classes keep names of their own, however many classes enter. -/
theorem OfClasses.nodup_names_enterAll {plan : List (String × Scope)} (hplan : OfClasses plan)
    (hnodup : (plan.map Prod.fst).Nodup) (s : Snapshot) (ids : List String) :
    ((Plan.enterAll s ids plan).map Prod.fst).Nodup := by
  induction ids generalizing plan with
  | nil => exact hnodup
  | cons id rest ih =>
    refine ih (hplan.enter _ id) ?_
    rw [hplan.names_enter]
    split
    · exact hnodup
    · next hnew => exact List.concat_eq_append ▸ hnodup.concat hnew

/-- Classes bring their names. -/
theorem OfClasses.mem_names_enterAll {plan : List (String × Scope)} (hplan : OfClasses plan)
    (s : Snapshot) (ids : List String) {name : String} :
    name ∈ (Plan.enterAll s ids plan).map Prod.fst ↔
      (∃ id ∈ ids, s.plainName id = name) ∨ name ∈ plan.map Prod.fst := by
  induction ids generalizing plan with
  | nil => simp [Plan.enterAll]
  | cons id rest ih =>
    have hone : name ∈ (Plan.enter (s.plainName id) id plan).map Prod.fst ↔
        s.plainName id = name ∨ name ∈ plan.map Prod.fst := by
      rw [hplan.names_enter]
      split
      · next hold => exact ⟨.inr, fun hor => hor.elim (fun heq => heq ▸ hold) fun hmem => hmem⟩
      · rw [List.mem_append, List.mem_singleton, or_comm, eq_comm]
    rw [Plan.enterAll, List.foldl_cons]
    refine (ih (hplan.enter _ id)).trans ?_
    rw [hone, List.exists_mem_cons_iff, ← or_assoc, or_comm (a := ∃ _, _)]

/-! ### The two categories -/

/-- The classes of a category are those of its devices. -/
theorem mem_classIds_iff {s : Snapshot} {switch : Bool} {id : String} :
    id ∈ classIds s switch ↔ ∃ d ∈ s.devices, d.isSwitch = switch ∧ d.classId = id := by
  simp [classIds, Index.mem_foldl_insertSorted, and_assoc]

/-- What a category adds under its alias. -/
theorem addCategory_of_alias {s : Snapshot} {c : Config} {switch : Bool} {name : String}
    (halias : c.aliasFor switch = some name) (plan : List (String × Scope)) :
    addCategory s c plan switch = plan ++ [(name, .category switch)] := by
  simp only [addCategory, halias]

/-- What a category without an alias adds. -/
theorem addCategory_of_classes {s : Snapshot} {c : Config} {switch : Bool}
    (halias : c.aliasFor switch = none) (plan : List (String × Scope)) :
    addCategory s c plan switch = enterAll s (classIds s switch) plan := by
  simp only [addCategory, halias, enterAll]

/-- Nothing is a plan of classes. -/
theorem ofClasses_nil : OfClasses [] := nofun

/-- **The names that a category brings** are those it goes by. -/
theorem mem_names_addCategory_iff {s : Snapshot} {c : Config} {switch : Bool} {name : String} :
    name ∈ (addCategory s c [] switch).map Prod.fst ↔ GoesBy s c switch name := by
  cases halias : c.aliasFor switch with
  | some other => simp [addCategory_of_alias halias, GoesBy, halias]
  | none =>
    rw [addCategory_of_classes halias, ofClasses_nil.mem_names_enterAll]
    simp only [GoesBy, halias, mem_classIds_iff, List.map_nil, List.not_mem_nil, or_false]
    constructor
    · rintro ⟨-, ⟨d, hd, hswitch, rfl⟩, hname⟩
      exact ⟨d, hd, hswitch, hname⟩
    · rintro ⟨d, hd, hswitch, hname⟩
      exact ⟨d.classId, ⟨d, hd, hswitch, rfl⟩, hname⟩

/-- The specifications of one category have names of their own. -/
theorem nodup_names_addCategory (s : Snapshot) (c : Config) (switch : Bool) :
    ((addCategory s c [] switch).map Prod.fst).Nodup := by
  cases halias : c.aliasFor switch with
  | some other => simp [addCategory_of_alias halias]
  | none =>
    rw [addCategory_of_classes halias]
    exact ofClasses_nil.nodup_names_enterAll List.nodup_nil s _

/-- A specification under an alias comes last, beside those before it. -/
theorem nodup_names_concat_iff {plan : List (String × Scope)}
    (hplan : (plan.map Prod.fst).Nodup) (name : String) (scope : Scope) :
    ((plan ++ [(name, scope)]).map Prod.fst).Nodup ↔ name ∉ plan.map Prod.fst := by
  rw [List.map_append, List.map_singleton, ← List.concat_eq_append, List.nodup_concat]
  exact and_iff_left hplan

end Plan

/-- **No two specifications have one name exactly if no alias is taken.** -/
theorem nodup_names_plan_iff (s : Snapshot) (c : Config) :
    ((plan s c).map Prod.fst).Nodup ↔ ¬ AliasTaken s c := by
  have hgpus := Plan.nodup_names_addCategory s c false
  have hswitches := Plan.nodup_names_addCategory s c true
  rw [plan, AliasTaken, Bool.exists_bool]
  cases hswitch : c.aliasFor true with
  | some name =>
    -- Both directions of the clash are one: the GPUs go by the alias of the switches.
    have hone : (∃ other, c.aliasFor false = some other ∧ GoesBy s c true other) →
        GoesBy s c false name := by
      rintro ⟨other, hgpu, hgoes⟩
      simp only [GoesBy, hswitch] at hgoes
      simp only [GoesBy, hgpu, hgoes]
    rw [Plan.addCategory_of_alias hswitch, Plan.nodup_names_concat_iff hgpus,
      Plan.mem_names_addCategory_iff]
    simp only [Option.some.injEq, exists_eq_left', Bool.not_true, Bool.not_false]
    exact not_congr ⟨.inr, fun hor => hor.elim hone fun hgoes => hgoes⟩
  | none =>
    rw [Plan.addCategory_of_classes hswitch] at hswitches ⊢
    cases hgpu : c.aliasFor false with
    | some name =>
      have hnames : name ∈ (Plan.addCategory s c [] true).map Prod.fst ↔ GoesBy s c true name :=
        Plan.mem_names_addCategory_iff
      rw [Plan.addCategory_of_classes hswitch] at hnames
      rw [Plan.addCategory_of_alias hgpu, List.nil_append, Plan.enterAll_cons_category,
        List.map_cons, List.nodup_cons, hnames]
      simp [hswitches]
    | none =>
      rw [Plan.addCategory_of_classes hgpu] at hgpus ⊢
      have hclasses := Plan.ofClasses_nil.enterAll s (Plan.classIds s false)
      simp [hclasses.nodup_names_enterAll hgpus]

end Cdi

end GpuPassthrough
