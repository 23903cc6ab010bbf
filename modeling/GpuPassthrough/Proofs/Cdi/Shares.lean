import GpuPassthrough.Proofs.Cdi.Scopes

/-!
# How Often a Plan Covers a Device

Every device of a snapshot is covered: under the alias of its category, or with its class. A class
enters one specification only, since classes of one name share theirs; so a device is covered once,
unless one category has an alias, the device belongs to it, and the other category brings a class of
the same number.

## Main results

* `coverage_enterAll`: a class that enters is covered by one specification.
* `coverage_plan`: how many specifications of a plan cover a device.
* `coversDevices_plan`: every device is covered, and once if no class has devices of both categories.
-/

namespace GpuPassthrough.Cdi

/-- How many specifications of a plan cover a device. -/
def coverage (plan : List (String × Scope)) (d : PassthroughDevice) : Nat :=
  plan.countP fun entry => entry.2.covers d

/-- A device is covered by some specification exactly if it is covered under some name. -/
theorem coverage_pos_iff {plan : List (String × Scope)} {d : PassthroughDevice} :
    0 < coverage plan d ↔ ∃ name, Covered plan name d := by
  rw [coverage, List.countP_pos_iff]
  constructor
  · rintro ⟨entry, hentry, hcovers⟩
    exact ⟨entry.1, entry, hentry, rfl, hcovers⟩
  · rintro ⟨name, entry, hentry, -, hcovers⟩
    exact ⟨entry, hentry, hcovers⟩

/-- A device that is covered under one name only is covered once, if names are not repeated. -/
theorem coverage_le_one {plan : List (String × Scope)} (hnames : (plan.map Prod.fst).Nodup)
    {d : PassthroughDevice} {name : String} (hone : ∀ other, Covered plan other d → other = name) :
    coverage plan d ≤ 1 := by
  induction plan with
  | nil => exact Nat.zero_le _
  | cons entry rest ih =>
    obtain ⟨hnew, hrest⟩ := List.nodup_cons.1 hnames
    have hone' : ∀ other, Covered rest other d → other = name :=
      fun other hcovered => hone other (covered_cons.2 (.inr hcovered))
    rw [coverage, List.countP_cons]
    split
    · next hcovers =>
      -- Another one that covers the device would have the name of the first.
      have hfirst := hone entry.1 (covered_cons.2 (.inl ⟨rfl, hcovers⟩))
      have hnone : rest.countP (fun entry => entry.2.covers d) = 0 := by
        rw [List.countP_eq_zero]
        intro other hother hcovers'
        have hsecond := hone' other.1 ⟨other, hother, rfl, hcovers'⟩
        exact hnew (List.mem_map.2 ⟨other, hother, hsecond.trans hfirst.symm⟩)
      rw [hnone]
    · exact ih hrest hone'

namespace Plan

/-- **A class that enters is covered by one specification**, however many classes share its name. -/
theorem coverage_enterAll (s : Snapshot) (ids : List String) (d : PassthroughDevice) :
    coverage (enterAll s ids []) d = if d.classId ∈ ids then 1 else 0 := by
  have hcovered : ∀ {name}, Covered (enterAll s ids []) name d ↔
      s.plainName d.classId = name ∧ d.classId ∈ ids := by
    intro name
    rw [covered_enterAll]
    exact or_iff_left (by simp [Covered])
  split
  · next hmem =>
    have hsome : 0 < coverage (enterAll s ids []) d :=
      coverage_pos_iff.2 ⟨_, hcovered.2 ⟨rfl, hmem⟩⟩
    have hone : coverage (enterAll s ids []) d ≤ 1 :=
      coverage_le_one (ofClasses_nil.nodup_names_enterAll List.nodup_nil s ids)
        fun _ hother => (hcovered.1 hother).1.symm
    exact Nat.le_antisymm hone hsome
  · next hmem =>
    by_contra hne
    obtain ⟨name, hname⟩ := coverage_pos_iff.1 (Nat.pos_of_ne_zero hne)
    exact hmem (hcovered.1 hname).2

/-- What one category contributes to the coverage of a device, apart from the other. -/
def share (s : Snapshot) (c : Config) (switch : Bool) (d : PassthroughDevice) : Nat :=
  match c.aliasFor switch with
  | some _ => if d.isSwitch = switch then 1 else 0
  | none => if d.classId ∈ classIds s switch then 1 else 0

/-- A specification under an alias covers the devices of its category. -/
theorem coverage_category (name : String) (switch : Bool) (d : PassthroughDevice) :
    coverage [(name, .category switch)] d = if d.isSwitch = switch then 1 else 0 := by
  simp [coverage, Scope.covers]

end Plan

/-- **How many specifications of a plan cover a device**: as many as the categories contribute;
without aliases the categories share the specifications of a class. -/
theorem coverage_plan (s : Snapshot) (c : Config) (d : PassthroughDevice) :
    coverage (plan s c) d =
      if c.aliasFor false = none ∧ c.aliasFor true = none then
        if d.classId ∈ Plan.classIds s false ++ Plan.classIds s true then 1 else 0
      else Plan.share s c false d + Plan.share s c true d := by
  rw [plan]
  cases hgpu : c.aliasFor false with
  | some gpu =>
    rw [if_neg (by simp), Plan.addCategory_of_alias hgpu, List.nil_append]
    cases hswitch : c.aliasFor true with
    | some switch =>
      rw [Plan.addCategory_of_alias hswitch, coverage, List.countP_append]
      simp only [Plan.share, hgpu, hswitch]
      exact congrArg₂ _ (Plan.coverage_category ..) (Plan.coverage_category ..)
    | none =>
      rw [Plan.addCategory_of_classes hswitch, Plan.enterAll_cons_category, coverage,
        ← List.singleton_append, List.countP_append]
      simp only [Plan.share, hgpu, hswitch]
      exact congrArg₂ _ (Plan.coverage_category ..) (Plan.coverage_enterAll ..)
  | none =>
    rw [Plan.addCategory_of_classes hgpu]
    cases hswitch : c.aliasFor true with
    | some switch =>
      rw [if_neg (by simp), Plan.addCategory_of_alias hswitch, coverage, List.countP_append]
      simp only [Plan.share, hgpu, hswitch]
      exact congrArg₂ _ (Plan.coverage_enterAll ..) (Plan.coverage_category ..)
    | none =>
      have happend : Plan.enterAll s (Plan.classIds s true)
          (Plan.enterAll s (Plan.classIds s false) []) =
            Plan.enterAll s (Plan.classIds s false ++ Plan.classIds s true) [] := by
        rw [Plan.enterAll, Plan.enterAll, Plan.enterAll, List.foldl_append]
      rw [if_pos ⟨rfl, rfl⟩, Plan.addCategory_of_classes hswitch, happend,
        Plan.coverage_enterAll]

/-- **A class has devices of one category only.** -/
def HasOneKind (s : Snapshot) : Prop :=
  ∀ d ∈ s.devices, ∀ other ∈ s.devices, d.deviceId = other.deviceId → d.isSwitch = other.isSwitch

/-- A device belongs to a class of its category. -/
theorem Plan.classId_mem_classIds {s : Snapshot} {d : PassthroughDevice} (hd : d ∈ s.devices) :
    d.classId ∈ classIds s d.isSwitch :=
  mem_classIds_iff.2 ⟨d, hd, rfl, rfl⟩

/-- Where a class has devices of one category only, a category contributes to its own devices. -/
theorem Plan.share_of_hasOneKind {s : Snapshot} (hkind : HasOneKind s) (c : Config) (switch : Bool)
    {d : PassthroughDevice} (hd : d ∈ s.devices) :
    share s c switch d = if d.isSwitch = switch then 1 else 0 := by
  cases halias : c.aliasFor switch with
  | some name => simp only [share, halias]
  | none =>
    have hmem : d.classId ∈ classIds s switch ↔ d.isSwitch = switch := by
      rw [mem_classIds_iff]
      constructor
      · rintro ⟨other, hother, rfl, hclass⟩
        exact hkind d hd other hother (Text.hexWord_inj.1 hclass.symm)
      · rintro rfl
        exact ⟨d, hd, rfl, rfl⟩
    simp only [share, halias, hmem]

/-- **Every device is covered, and once if no class has devices of both categories**, whatever
aliases there are and whichever names coincide. -/
theorem coversDevices_plan (s : Snapshot) (c : Config) :
    (∀ d ∈ s.devices, 0 < coverage (plan s c) d) ∧
      (HasOneKind s → ∀ d ∈ s.devices, coverage (plan s c) d = 1) := by
  constructor
  · intro d hd
    rw [coverage_pos_iff]
    cases halias : c.aliasFor d.isSwitch with
    | some name =>
      have hbrings : Brings s c d.isSwitch name d := by simp [Brings, halias]
      exact ⟨name, covered_plan_iff.2 ⟨_, hbrings⟩⟩
    | none =>
      have hbrings : Brings s c d.isSwitch (s.plainName d.classId) d := by
        simp only [Brings, halias, true_and]
        exact ⟨d, hd, rfl, rfl⟩
      exact ⟨_, covered_plan_iff.2 ⟨_, hbrings⟩⟩
  · intro hkind d hd
    rw [coverage_plan]
    split
    · have hown := Plan.classId_mem_classIds hd
      cases hswitch : d.isSwitch <;> rw [hswitch] at hown <;> simp [hown]
    · rw [Plan.share_of_hasOneKind hkind c false hd, Plan.share_of_hasOneKind hkind c true hd]
      cases d.isSwitch <;> rfl

/-- GPUs go by an alias that is the name of a class of switches, and two classes of switches share
that name: each device is covered once. -/
theorem coversDevices_shared_name :
    let s := Snapshot.ofDevices false
      [{ deviceId := 1, group := 1 }, { deviceId := 2, name := "a", group := 2, isSwitch := true },
        { deviceId := 3, name := "A", group := 3, isSwitch := true }]
    let c : Config := { gpuAlias := some "A" }
    HasOneKind s ∧ (plan s c).map Prod.fst = ["A", "A"] ∧
      ∀ d ∈ s.devices, coverage (plan s c) d = 1 := by
  intro s c
  have hkind : HasOneKind s := by unfold HasOneKind; decide
  exact ⟨hkind, by decide +kernel, (coversDevices_plan s c).2 hkind⟩

end GpuPassthrough.Cdi
