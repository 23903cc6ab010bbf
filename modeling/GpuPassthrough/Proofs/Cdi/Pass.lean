import GpuPassthrough.Cdi.Write

/-!
# A Pass over the Specifications

What a pass has done when it ends well: every step of it did. The name of each entry of the plan is
valid, each entry with devices in its scope brings a specification, and each specification is written
to its place.

## Main results

* `Store.written_of_writeSpec`, `Store.entry_of_writePlan`, `Store.plan_of_writeAll`: the steps that
  a specification, a plan and a pass consist of.
* `Store.paths_of_writeAll`: the paths that a pass returns are those of its specifications.
-/

namespace GpuPassthrough.Cdi

/-- The specifications of a plan that have devices. -/
def specsOf (s : Snapshot) (c : Config) (plan : List (String × Scope)) : List Spec :=
  plan.filterMap fun entry => Spec.build? s c entry.1 entry.2

/-- An entry of a plan without devices brings no specification. -/
theorem specsOf_cons_of_none {s : Snapshot} {c : Config} {entry : String × Scope}
    (hspec : Spec.build? s c entry.1 entry.2 = none) (plan : List (String × Scope)) :
    specsOf s c (entry :: plan) = specsOf s c plan :=
  List.filterMap_cons_none hspec

/-- An entry of a plan with devices brings its specification. -/
theorem specsOf_cons_of_some {s : Snapshot} {c : Config} {entry : String × Scope} {spec : Spec}
    (hspec : Spec.build? s c entry.1 entry.2 = some spec) (plan : List (String × Scope)) :
    specsOf s c (entry :: plan) = spec :: specsOf s c plan :=
  List.filterMap_cons_some hspec

namespace Store

variable {s s' : Store} {snapshot : Snapshot} {c : Config}

/-- **A specification that was written** was written beside its place and then moved there. -/
theorem written_of_writeSpec {cdiRoot path : String} {spec : Spec}
    (hwrite : s.writeSpec cdiRoot spec = (s', .ok path)) :
    ∃ written, s.tree.write (temporaryPath cdiRoot spec) (.text spec.toYaml) = .ok written ∧
      written.rename (temporaryPath cdiRoot spec) (specPath cdiRoot spec) = .ok s'.tree ∧
      s'.metrics = s.metrics.increment .specsWritten ∧ path = specPath cdiRoot spec := by
  unfold writeSpec at hwrite
  dsimp only at hwrite
  cases htree : s.tree.write (temporaryPath cdiRoot spec) (.text spec.toYaml) with
  | error cause =>
    rw [htree] at hwrite
    cases (Prod.mk.inj hwrite).2
  | ok written =>
    rw [htree] at hwrite
    dsimp only at hwrite
    cases hrename : written.rename (temporaryPath cdiRoot spec) (specPath cdiRoot spec) with
    | error cause =>
      rw [hrename] at hwrite
      cases (Prod.mk.inj hwrite).2
    | ok renamed =>
      rw [hrename] at hwrite
      obtain ⟨hstore, hpath⟩ := Prod.mk.inj hwrite
      subst hstore
      exact ⟨written, rfl, hrename, rfl, (Except.ok.inj hpath).symm⟩

/-- **A plan that was written** has a valid name for its first entry. Without devices there is
nothing to write for it, and else its specification comes before the others. -/
theorem entry_of_writePlan {className : String} {scope : Scope} {rest : List (String × Scope)}
    {paths : List String}
    (hwrite : s.writePlan snapshot c ((className, scope) :: rest) = (s', .ok paths)) :
    validate className = .ok () ∧
      ((Spec.build? snapshot c className scope = none ∧
          s.writePlan snapshot c rest = (s', .ok paths)) ∨
        ∃ spec written path others, Spec.build? snapshot c className scope = some spec ∧
          s.writeSpec c.cdiRoot spec = (written, .ok path) ∧
          written.writePlan snapshot c rest = (s', .ok others) ∧ paths = path :: others) := by
  rw [writePlan_cons] at hwrite
  cases hvalid : validate className with
  | error fault =>
    rw [hvalid] at hwrite
    cases (Prod.mk.inj hwrite).2
  | ok _ =>
    rw [hvalid] at hwrite
    dsimp only at hwrite
    refine ⟨rfl, ?_⟩
    cases hspec : Spec.build? snapshot c className scope with
    | none =>
      rw [hspec] at hwrite
      exact .inl ⟨rfl, hwrite⟩
    | some spec =>
      rw [hspec] at hwrite
      dsimp only at hwrite
      rcases hone : s.writeSpec c.cdiRoot spec with ⟨written, result⟩
      rw [hone] at hwrite
      cases result with
      | error e => cases (Prod.mk.inj hwrite).2
      | ok path =>
        dsimp only at hwrite
        rcases hmore : written.writePlan snapshot c rest with ⟨last, results⟩
        rw [hmore] at hwrite
        cases results with
        | error e => cases (Prod.mk.inj hwrite).2
        | ok others =>
          obtain ⟨rfl, hpaths⟩ := Prod.mk.inj hwrite
          exact .inr ⟨spec, written, path, others, rfl, hone, hmore, (Except.ok.inj hpaths).symm⟩

/-- **A pass that ended well** had nothing to do, or made the directory and wrote the plan. -/
theorem plan_of_writeAll {paths : List String}
    (hwrite : s.writeAll snapshot c = (s', .ok paths)) :
    (snapshot.isEmpty = true ∧ s' = s ∧ paths = []) ∨
      ∃ tree, s.tree.createAll c.cdiRoot = (tree, .ok ()) ∧
        writePlan { s with tree } snapshot c (plan snapshot c) = (s', .ok paths) := by
  rw [writeAll] at hwrite
  by_cases hempty : snapshot.isEmpty = true
  · rw [if_pos hempty] at hwrite
    obtain ⟨hstore, hpaths⟩ := Prod.mk.inj hwrite
    exact .inl ⟨hempty, hstore.symm, (Except.ok.inj hpaths).symm⟩
  · rw [if_neg hempty] at hwrite
    cases hvendor : validate c.cdiVendor with
    | error fault =>
      rw [hvendor] at hwrite
      cases (Prod.mk.inj hwrite).2
    | ok _ =>
      rw [hvendor] at hwrite
      dsimp only at hwrite
      rcases hcreate : s.tree.createAll c.cdiRoot with ⟨tree, result⟩
      rw [hcreate] at hwrite
      cases result with
      | error cause => cases (Prod.mk.inj hwrite).2
      | ok _ => exact .inr ⟨tree, rfl, hwrite⟩

/-- A plan that was written has valid names, and its specifications are at their places. -/
theorem paths_of_writePlan {plan : List (String × Scope)} {paths : List String}
    (hwrite : s.writePlan snapshot c plan = (s', .ok paths)) :
    (∀ entry ∈ plan, validate entry.1 = .ok ()) ∧
      paths = (specsOf snapshot c plan).map (specPath c.cdiRoot) := by
  induction plan generalizing s paths with
  | nil =>
    rw [writePlan_nil] at hwrite
    exact ⟨List.forall_mem_nil _, (Except.ok.inj (Prod.mk.inj hwrite).2).symm⟩
  | cons entry rest ih =>
    obtain ⟨className, scope⟩ := entry
    obtain ⟨hvalid, ⟨hspec, hrest⟩ | ⟨spec, written, path, others, hspec, hone, hrest, rfl⟩⟩ :=
      entry_of_writePlan hwrite
    · obtain ⟨hvalid', hpaths⟩ := ih hrest
      exact ⟨List.forall_mem_cons.2 ⟨hvalid, hvalid'⟩, by rw [hpaths, specsOf_cons_of_none hspec]⟩
    · obtain ⟨hvalid', hothers⟩ := ih hrest
      obtain ⟨-, -, -, -, hpath⟩ := written_of_writeSpec hone
      refine ⟨List.forall_mem_cons.2 ⟨hvalid, hvalid'⟩, ?_⟩
      rw [hothers, hpath, specsOf_cons_of_some hspec, List.map_cons]

/-- **The paths that a pass returns are those of its specifications**, and their classes are
valid. -/
theorem paths_of_writeAll {paths : List String}
    (hwrite : s.writeAll snapshot c = (s', .ok paths)) :
    paths = [] ∨ (∀ entry ∈ plan snapshot c, validate entry.1 = .ok ()) ∧
      paths = (specsOf snapshot c (plan snapshot c)).map (specPath c.cdiRoot) := by
  obtain ⟨-, -, hpaths⟩ | ⟨tree, -, hplan⟩ := plan_of_writeAll hwrite
  · exact .inl hpaths
  · exact .inr (paths_of_writePlan hplan)

end Store

end GpuPassthrough.Cdi
