import GpuPassthrough.Plugin.Plan
import GpuPassthrough.Plugin.Socket
import GpuPassthrough.Proofs.Path
import GpuPassthrough.Proofs.Snapshot.Units
import Mathlib.Data.List.Lattice
import Mathlib.Data.List.Pairwise

/-!
# Plugins Share out the Units

However classes come by their names, and whichever of them share one, every unit of a snapshot is
advertised once: the classes share the units out, and a class takes all of its units to the one
plugin of its name. Plugins of different names have different sockets, unless a name has a slash.

## Main results

* `nodup_names_ofSnapshot`: there is one plugin for each name.
* `mem_names_ofSnapshot`, `mem_units_ofSnapshot`: the names of the plugins, and what each advertises.
* `units_ofSnapshot`: the plugins advertise what the classes own.
* `partition_ofDevices`: every unit has one plugin, which advertises it once.
-/

namespace GpuPassthrough

namespace PluginPlan

/-! ### Entering a class -/

/-- A class adds its name, last, unless a plugin has it. -/
theorem names_enter (name : String) (units : List String) (plans : List PluginPlan) :
    (enter name units plans).map className =
      if name ∈ plans.map className then plans.map className
      else plans.map className ++ [name] := by
  induction plans with
  | nil => rfl
  | cons plan rest ih =>
    rw [enter]
    by_cases hname : plan.className = name
    · simp [hname]
    · simp only [hname, if_false, List.map_cons, ih, List.mem_cons, Ne.symm hname, false_or]
      split <;> rfl

/-- A class enters the plugin of its name, or a new one. -/
theorem nodup_names_enter {plans : List PluginPlan} (hplans : (plans.map className).Nodup)
    (name : String) (units : List String) : ((enter name units plans).map className).Nodup := by
  rw [names_enter]
  split
  · exact hplans
  · next hnew =>
    have hconcat := hplans.concat hnew
    rwa [List.concat_eq_append] at hconcat

/-- A class brings its units, and no unit gets lost. -/
theorem units_enter (name : String) (keys : List String) (plans : List PluginPlan) :
    ((enter name keys plans).flatMap units).Perm (plans.flatMap units ++ keys) := by
  induction plans with
  | nil => simp [enter]
  | cons plan rest ih =>
    rw [enter]
    split
    · simp only [List.flatMap_cons, List.append_assoc]
      exact List.perm_append_comm.append_left plan.units
    · rw [List.flatMap_cons, List.flatMap_cons, List.append_assoc]
      exact ih.append_left plan.units

/-! ### The plan of a snapshot -/

/-- The plan after some more classes. -/
def enterAll (s : Snapshot) (c : Config) (classes : List (String × List String))
    (plans : List PluginPlan) : List PluginPlan :=
  classes.foldl (fun plans entry => enter (s.displayName c entry.1) entry.2 plans) plans

/-- There is one plugin for each name, however many classes enter. -/
theorem nodup_names_enterAll (s : Snapshot) (c : Config) (classes : List (String × List String))
    {plans : List PluginPlan} (hplans : (plans.map className).Nodup) :
    ((enterAll s c classes plans).map className).Nodup := by
  induction classes generalizing plans with
  | nil => exact hplans
  | cons entry rest ih => exact ih (nodup_names_enter hplans _ entry.2)

/-- The classes that enter bring their units. -/
theorem units_enterAll (s : Snapshot) (c : Config) (classes : List (String × List String))
    (plans : List PluginPlan) :
    ((enterAll s c classes plans).flatMap units).Perm
      (plans.flatMap units ++ classes.flatMap Prod.snd) := by
  induction classes generalizing plans with
  | nil =>
    rw [List.flatMap_nil, List.append_nil]
    exact .refl _
  | cons entry rest ih =>
    have hentry := units_enter (s.displayName c entry.1) entry.2 plans
    rw [List.flatMap_cons, ← List.append_assoc]
    exact (ih _).trans (hentry.append_right _)

/-- Classes bring their names. -/
theorem mem_names_enterAll (s : Snapshot) (c : Config) (classes : List (String × List String))
    (plans : List PluginPlan) {name : String} :
    name ∈ (enterAll s c classes plans).map className ↔
      (∃ owner ∈ classes, s.displayName c owner.1 = name) ∨ name ∈ plans.map className := by
  induction classes generalizing plans with
  | nil => simp [enterAll]
  | cons owner rest ih =>
    have hone : name ∈ (enter (s.displayName c owner.1) owner.2 plans).map className ↔
        s.displayName c owner.1 = name ∨ name ∈ plans.map className := by
      rw [names_enter]
      split
      · next hold => exact ⟨.inr, fun hor => hor.elim (fun heq => heq ▸ hold) fun hmem => hmem⟩
      · rw [List.mem_append, List.mem_singleton, or_comm, eq_comm]
    rw [enterAll, List.foldl_cons]
    refine (ih _).trans ?_
    rw [hone, List.exists_mem_cons_iff, ← or_assoc, or_comm (a := ∃ _, _)]

/-- **A plugin advertises a unit under a name.** -/
def Advertises (plans : List PluginPlan) (name key : String) : Prop :=
  ∃ plan ∈ plans, plan.className = name ∧ key ∈ plan.units

/-- A class advertises its units under its name. -/
theorem advertises_enter (name : String) (keys : List String) (plans : List PluginPlan)
    {other key : String} :
    Advertises (enter name keys plans) other key ↔
      name = other ∧ key ∈ keys ∨ Advertises plans other key := by
  induction plans with
  | nil => simp [Advertises, enter]
  | cons plan rest ih =>
    rw [enter]
    split
    · next hname =>
      simp only [Advertises, List.exists_mem_cons_iff, List.mem_append, hname]
      tauto
    · have hcons : ∀ plans, Advertises (plan :: plans) other key ↔
          plan.className = other ∧ key ∈ plan.units ∨ Advertises plans other key :=
        fun _ => List.exists_mem_cons_iff ..
      rw [hcons, hcons, ih]
      exact or_left_comm

/-- Classes advertise their units under their names. -/
theorem advertises_enterAll (s : Snapshot) (c : Config) (classes : List (String × List String))
    (plans : List PluginPlan) {name key : String} :
    Advertises (enterAll s c classes plans) name key ↔
      (∃ owner ∈ classes, s.displayName c owner.1 = name ∧ key ∈ owner.2) ∨
        Advertises plans name key := by
  induction classes generalizing plans with
  | nil => simp [enterAll]
  | cons owner rest ih =>
    rw [enterAll, List.foldl_cons]
    refine (ih _).trans ?_
    rw [advertises_enter, List.exists_mem_cons_iff, ← or_assoc, or_comm (a := ∃ _, _)]

/-- There is one plugin for each name. -/
theorem nodup_names_ofSnapshot (s : Snapshot) (c : Config) :
    ((ofSnapshot s c).map className).Nodup :=
  nodup_names_enterAll s c s.classes List.nodup_nil

/-- The plugins go by the names of the classes. -/
theorem mem_names_ofSnapshot (s : Snapshot) (c : Config) {name : String} :
    (∃ plan ∈ ofSnapshot s c, plan.className = name) ↔
      ∃ owner ∈ s.classes, s.displayName c owner.1 = name := by
  rw [← List.mem_map]
  refine (mem_names_enterAll s c s.classes []).trans (or_iff_left ?_)
  exact List.not_mem_nil

/-- A plugin advertises what the classes of its name own. -/
theorem mem_units_ofSnapshot {s : Snapshot} {c : Config} {plan : PluginPlan}
    (hplan : plan ∈ ofSnapshot s c) {key : String} :
    key ∈ plan.units ↔
      ∃ owner ∈ s.classes, s.displayName c owner.1 = plan.className ∧ key ∈ owner.2 := by
  have hadvertises : Advertises (ofSnapshot s c) plan.className key ↔
      (∃ owner ∈ s.classes, s.displayName c owner.1 = plan.className ∧ key ∈ owner.2) ∨
        Advertises [] plan.className key := advertises_enterAll s c s.classes []
  rw [or_iff_left (by simp [Advertises])] at hadvertises
  rw [← hadvertises]
  refine ⟨fun hkey => ⟨plan, hplan, rfl, hkey⟩, ?_⟩
  rintro ⟨other, hother, hname, hkey⟩
  rwa [← List.inj_on_of_nodup_map (nodup_names_ofSnapshot s c) hother hplan hname]

/-- The plugins advertise what the classes own. -/
theorem units_ofSnapshot (s : Snapshot) (c : Config) :
    ((ofSnapshot s c).flatMap units).Perm (s.classes.flatMap Prod.snd) :=
  units_enterAll s c s.classes []

/-- The plugins advertise the units of a well-keyed snapshot. -/
theorem units_ofSnapshot_of_wellKeyed {s : Snapshot} (hs : s.WellKeyed) (c : Config) :
    ((ofSnapshot s c).flatMap units).Perm (s.units.map Prod.fst) :=
  (units_ofSnapshot s c).trans hs.owned

/-- What is advertised is a unit of the snapshot. -/
theorem exists_plan_iff {s : Snapshot} (hs : s.WellKeyed) (c : Config) {key : String} :
    (∃ plan ∈ ofSnapshot s c, key ∈ plan.units) ↔ (s.unit? key).isSome := by
  rw [Snapshot.unit?_isSome_iff, ← (units_ofSnapshot_of_wellKeyed hs c).mem_iff, List.mem_flatMap]

/-- No unit is advertised twice by one plugin, or by two. -/
theorem units_disjoint {s : Snapshot} (hs : s.WellKeyed) (c : Config) :
    (∀ plan ∈ ofSnapshot s c, plan.units.Nodup) ∧
      ∀ plan ∈ ofSnapshot s c, ∀ other ∈ ofSnapshot s c, plan ≠ other →
        plan.units.Disjoint other.units := by
  have hnodup : ((ofSnapshot s c).flatMap units).Nodup :=
    (units_ofSnapshot_of_wellKeyed hs c).nodup_iff.2 hs.nodup
  obtain ⟨honce, hdisjoint⟩ := List.nodup_flatMap.1 hnodup
  have : Std.Symm (Function.onFun List.Disjoint units) := ⟨fun _ _ h => List.Disjoint.symm h⟩
  exact ⟨honce, fun plan hplan other hother hne => hdisjoint.forall hplan hother hne⟩

end PluginPlan

namespace PluginSocket

/-- The name of a socket is the name of a file. -/
theorem component?_fileName (className : String) :
    Path.component? (fileName className) = some (.name (fileName className)) := by
  refine Path.component?_of_lt_length ?_
  rw [fileName, String.length_append, String.length_append]
  have hprefix : "sandbox-".length = 8 := rfl
  omega

/-- Classes without slashes in their names have sockets of their own. -/
theorem eq_of_samePath {directory a b : String} (ha : '/' ∉ a.toList) (hb : '/' ∉ b.toList)
    (hsame : SamePath (path directory a) (path directory b)) : a = b := by
  have hslash : ∀ {className : String}, '/' ∉ className.toList →
      '/' ∉ (fileName className).toList := by
    intro className hclass
    simp [fileName, hclass]
  have hnames := Path.eq_of_samePath_join (hslash ha) (component?_fileName a) (hslash hb)
    (component?_fileName b) hsame
  have hlists := congrArg String.toList hnames
  simp only [fileName, String.toList_append] at hlists
  exact String.toList_inj.1 (List.append_cancel_left (List.append_cancel_right hlists))

end PluginSocket

/-! ### The partition -/

/-- **Plugins share out the units** of a snapshot. -/
structure Partitions (plans : List PluginPlan) (s : Snapshot) (c : Config) : Prop where
  /-- No two plugins have one name. -/
  names : (plans.map PluginPlan.className).Nodup
  /-- Every unit has one plugin, which advertises it once. -/
  once : ∀ key, (s.unit? key).isSome →
    ∃ plan ∈ plans, plan.units.count key = 1 ∧ ∀ other ∈ plans, key ∈ other.units → other = plan
  /-- Nothing but units of the snapshot is advertised. -/
  known : ∀ plan ∈ plans, ∀ key ∈ plan.units, (s.unit? key).isSome
  /-- Plugins without slashes in their names have sockets of their own. -/
  sockets : plans.Pairwise fun plan other =>
    '/' ∉ plan.className.toList → '/' ∉ other.className.toList →
      ¬ SamePath (PluginSocket.path c.pluginDirectory plan.className)
        (PluginSocket.path c.pluginDirectory other.className)

/-- **Every unit has one plugin**: whatever was found and however it is named, the plugins share out
the units. -/
theorem partition_ofDevices (handles : Bool) (devices : List PassthroughDevice) (c : Config) :
    Partitions (PluginPlan.ofSnapshot (Snapshot.ofDevices handles devices) c)
      (Snapshot.ofDevices handles devices) c := by
  have hs := Snapshot.wellKeyed_ofDevices handles devices
  obtain ⟨honce, hdisjoint⟩ := PluginPlan.units_disjoint hs c
  have hnames := PluginPlan.nodup_names_ofSnapshot (Snapshot.ofDevices handles devices) c
  refine ⟨hnames, fun key hkey => ?_, fun plan hplan key hkey => ?_, ?_⟩
  · obtain ⟨plan, hplan, hmem⟩ := (PluginPlan.exists_plan_iff hs c).2 hkey
    refine ⟨plan, hplan, List.count_eq_one_of_mem (honce plan hplan) hmem, ?_⟩
    intro other hother hmem'
    by_contra hne
    exact hdisjoint other hother plan hplan hne hmem' hmem
  · exact (PluginPlan.exists_plan_iff hs c).1 ⟨plan, hplan, hkey⟩
  · refine (List.pairwise_map.1 hnames).imp ?_
    intro plan other hne hplan hother hsame
    exact hne (PluginSocket.eq_of_samePath hplan hother hsame)

end GpuPassthrough
