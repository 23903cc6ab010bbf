import GpuPassthrough.Proofs.Lifecycle.Operation

/-!
# What the Gauge Shows

The gauge of a plugin is set to the number of its units when a start has succeeded, and to zero when
a stop has cleared up. A stop that cannot take the socket away returns before that: the plugin does
not serve any more, but the gauge goes on showing its units, until a start succeeds. Further stops
find nothing to stop, and leave the gauge alone as well.

So from the first successful start on the gauge shows the units of a plugin that serves, of one whose
last stop failed, and of one in the middle of the stop of a restart; else it shows zero.

## Main results

* `Operation.Gauged.moves`, `Operation.gauged_run?`: what a move keeps, and so every run.
* `Operation.gaugeIsRight_iff`: when the gauge shows how many units are offered.
-/

namespace GpuPassthrough

namespace Instance

variable {p : Instance}

/-- What the gauge of the plugin shows. -/
def shown (p : Instance) : Nat := p.hub.metrics.value (.pluginDevices p.className)

/-- **The gauge is right**: it shows the number of units that the plugin offers. -/
def GaugeIsRight (p : Instance) : Prop :=
  p.shown = if p.serving.isSome then p.hub.units.length else 0

/-- A gauge that is set shows that. -/
@[simp] theorem shown_gauge (p : Instance) (n : Nat) : (p.gauge n).shown = n :=
  Metrics.value_set_self _ _ _

/-- Counting a restart leaves the gauge alone. -/
@[simp] theorem shown_countRestart (p : Instance) : p.countRestart.shown = p.shown :=
  Metrics.value_increment_of_ne _ nofun

/-- A start that succeeds shows the units. -/
@[simp] theorem shown_serveNext (p : Instance) : p.serveNext.shown = p.hub.units.length :=
  shown_gauge _ _

end Instance

namespace Occurrence

/-- **The last stop that did something failed**, and no start succeeded after it. -/
def LastStopFailed (log : List Occurrence) : Prop :=
  ∃ before e after, log = before ++ .stopped (.error e) :: after ∧ .started (.ok ()) ∉ after

/-- What one more occurrence does to the last stop: it fails, or is no start that succeeds. -/
theorem lastStopFailed_concat {log : List Occurrence} {x : Occurrence} :
    LastStopFailed (log ++ [x]) ↔
      (∃ e, x = .stopped (.error e)) ∨ x ≠ .started (.ok ()) ∧ LastStopFailed log := by
  constructor
  · rintro ⟨before, e, after, heq, hafter⟩
    obtain rfl | ⟨rest, last, rfl⟩ := List.eq_nil_or_concat' after
    · exact .inl ⟨e, List.singleton_inj.1 (List.append_inj' heq rfl).2⟩
    · rw [← List.cons_append, ← List.append_assoc] at heq
      obtain ⟨hlog, hlast⟩ := List.append_inj' heq rfl
      obtain rfl := List.singleton_inj.1 hlast
      have hx : x ≠ .started (.ok ()) :=
        fun hx => hafter (List.mem_append_right _ (List.mem_singleton.2 hx.symm))
      exact .inr ⟨hx, before, e, rest, hlog, fun hmem => hafter (List.mem_append_left _ hmem)⟩
  · rintro (⟨e, rfl⟩ | ⟨hx, before, e, after, rfl, hafter⟩)
    · exact ⟨log, e, [], rfl, List.not_mem_nil⟩
    · refine ⟨before, e, after ++ [x], by simp, fun hmem => ?_⟩
      obtain hmem | hmem := List.mem_append.1 hmem
      · exact hafter hmem
      · exact hx (List.mem_singleton.1 hmem).symm

/-- At first no stop has failed. -/
theorem not_lastStopFailed_nil : ¬ LastStopFailed [] := by
  rintro ⟨before, e, after, heq, -⟩
  exact List.append_ne_nil_of_right_ne_nil before (List.cons_ne_nil _ _) heq.symm

end Occurrence

open Occurrence

namespace Operation

variable {W : Type} {host : Host W} {o o' : Operation W}

/-- **The plugin is not stopped cleanly**: the stop of a restart has yet to clear up, or a stop has
failed to. -/
def IsLeftOver (o : Operation W) : Prop := o.restart = some .clearing ∨ LastStopFailed o.log

/-- **What every call keeps of the gauge.** -/
structure Gauged (o : Operation W) : Prop where
  /-- It shows the units of a plugin that serves. -/
  serving : o.plugin.serving.isSome = true → o.plugin.shown = o.plugin.hub.units.length
  /-- It shows them as well after the end of the generation, until the socket is taken away. -/
  leftOver : o.IsLeftOver → o.plugin.serving = none ∧ o.plugin.shown = o.plugin.hub.units.length
  /-- Else it shows nothing. -/
  idle : .started (.ok ()) ∈ o.log → o.plugin.serving = none → ¬ o.IsLeftOver → o.plugin.shown = 0
  /-- A stop clears up once. -/
  once : o.restart = some .clearing → ¬ LastStopFailed o.log

/-- What is left over of a plugin outside the stop of a restart is told by its last stop. -/
theorem isLeftOver_iff (hrestart : o.restart ≠ some .clearing) :
    o.IsLeftOver ↔ LastStopFailed o.log := or_iff_right hrestart

/-- A plugin that serves leaves nothing over. -/
theorem Gauged.not_isLeftOver (hgauged : Gauged o) (hserving : o.plugin.serving.isSome = true) :
    ¬ o.IsLeftOver := by
  intro hleft
  rw [(hgauged.leftOver hleft).1] at hserving
  cases hserving

/-- What leaves the gauge, the units and the server alone keeps it, if neither the success of a
start nor the failure of a stop is told. -/
theorem Gauged.told {w w' : W} {p p' : Instance} {restart restart' : Option RestartPhase}
    {log told : List Occurrence} (hgauged : Gauged ⟨w, p, restart, log⟩)
    (hrestart : restart' = some .clearing ↔ restart = some .clearing)
    (hserving : p'.serving = p.serving) (hshown : p'.shown = p.shown)
    (hunits : p'.hub.units = p.hub.units)
    (hlast : LastStopFailed (log ++ told) ↔ LastStopFailed log)
    (htold : .started (.ok ()) ∉ told) : Gauged ⟨w', p', restart', log ++ told⟩ := by
  have hleft : IsLeftOver ⟨w', p', restart', log ++ told⟩ ↔ IsLeftOver ⟨w, p, restart, log⟩ :=
    or_congr hrestart hlast
  refine ⟨fun h => ?_, fun h => ?_, fun hmem hfree h => ?_, fun h => ?_⟩
  · rw [hshown, hunits]
    exact hgauged.serving (hserving ▸ h)
  · rw [hshown, hunits, hserving]
    exact hgauged.leftOver (hleft.1 h)
  · rw [hshown]
    exact hgauged.idle ((List.mem_append.1 hmem).resolve_right htold) (hserving ▸ hfree)
      (hleft.not.1 h)
  · exact hlast.not.2 (hgauged.once (hrestart.1 h))

/-- An attempt to start keeps it. -/
theorem Gauged.started {w w' : W} {p p' : Instance} {restart restart' : Option RestartPhase}
    {log : List Occurrence} {result : Except PluginError Unit}
    (hgauged : Gauged ⟨w, p, restart, log⟩) (hrestart : restart ≠ some .clearing)
    (hrestart' : restart' ≠ some .clearing) (hends : p.StartEnds host w (w', p', result)) :
    Gauged ⟨w', p', restart', log ++ [.started result]⟩ := by
  have hfailed : ∀ {q : Instance} {e : PluginError}, q.serving = p.serving → q.shown = p.shown →
      q.hub.units = p.hub.units → Gauged ⟨w', q, restart', log ++ [.started (.error e)]⟩ := by
    intro q e hserving hshown hunits
    refine hgauged.told (iff_of_false hrestart' hrestart) hserving hshown hunits ?_ (by simp)
    rw [lastStopFailed_concat]
    simp
  cases hends with
  | refused => exact hfailed rfl rfl rfl
  | notCleared => exact hfailed rfl rfl rfl
  | notBound => exact hfailed rfl rfl rfl
  | withdrawn => exact hfailed rfl rfl rfl
  | notWithdrawn => exact hfailed rfl rfl rfl
  | served =>
    have hlast : ¬ LastStopFailed (log ++ [.started (.ok ())]) := by
      rw [lastStopFailed_concat]
      simp
    have hleft : ¬ IsLeftOver ⟨w', p.serveNext, restart', log ++ [.started (.ok ())]⟩ :=
      not_or.2 ⟨hrestart', hlast⟩
    exact ⟨fun _ => p.shown_serveNext, fun h => absurd h hleft, nofun, fun h => absurd h hrestart'⟩

/-- The end of a stop keeps it, whether it clears up or fails to. -/
theorem Gauged.cleared {w w' : W} {p p' : Instance} {restart' : Option RestartPhase}
    {log : List Occurrence} {result : Except PluginError Unit}
    (hfree : p.serving = none) (hshown : p.shown = p.hub.units.length)
    (hlast : ¬ LastStopFailed log) (hrestart' : restart' ≠ some .clearing)
    (hclear : p.clearUp host w = (w', p', result)) :
    Gauged ⟨w', p', restart', log ++ [.stopped result]⟩ := by
  obtain ⟨w₁, -, hends⟩ | ⟨w₁, cause, -, -, hends⟩ := p.clearUp_ends host w
  · cases hends.symm.trans hclear
    have hleft : ¬ IsLeftOver ⟨w', p.gauge 0, restart', log ++ [.stopped (.ok ())]⟩ := by
      rw [isLeftOver_iff hrestart', lastStopFailed_concat]
      simp [hlast]
    refine ⟨fun h => ?_, fun h => absurd h hleft, fun _ _ _ => p.shown_gauge 0,
      fun h => absurd h hrestart'⟩
    rw [show (p.gauge 0).serving = p.serving from rfl, hfree] at h
    cases h
  · cases hends.symm.trans hclear
    have hleft : IsLeftOver ⟨w', p, restart', log ++ [.stopped (.error (.io p.socketPath cause))]⟩ :=
      .inr (lastStopFailed_concat.2 (.inl ⟨_, rfl⟩))
    exact ⟨fun _ => hshown, fun _ => ⟨hfree, hshown⟩, fun _ _ h => absurd hleft h,
      fun h => absurd h hrestart'⟩

/-- **What a move keeps of the gauge.** -/
theorem Gauged.moves (hgauged : Gauged o) (hmoves : Moves host o o') : Gauged o' := by
  cases hmoves with
  | started hrestart hrestart' hends => exact hgauged.started hrestart hrestart' hends
  | skipped hrestart hrestart' hfree hplugin =>
    refine hgauged.told (iff_of_false hrestart' hrestart) ?_ ?_ ?_ ?_ (by simp)
    · obtain rfl | rfl := hplugin <;> rfl
    · obtain rfl | rfl := hplugin <;> simp
    · obtain rfl | rfl := hplugin <;> rfl
    · rw [lastStopFailed_concat]
      simp
  | withdrawn hserving =>
    have hserves := Option.isSome_iff_exists.2 ⟨_, hserving⟩
    have hshown := hgauged.serving hserves
    refine ⟨nofun, fun _ => ⟨rfl, ?_⟩, fun _ _ h => absurd (.inl rfl) h, fun _ hlast => ?_⟩
    · exact (Instance.shown_countRestart _).trans hshown
    · exact hgauged.not_isLeftOver hserves (.inr hlast)
  | @stopped w w' p p' log generation result hserving hclear =>
    have hserves := Option.isSome_iff_exists.2 ⟨_, hserving⟩
    have hshown : (p.withdraw generation).shown = p.hub.units.length := hgauged.serving hserves
    exact .cleared rfl hshown (fun hlast => hgauged.not_isLeftOver hserves (.inr hlast)) nofun
      hclear
  | cleared hrestart' hclear =>
    obtain ⟨hfree, hshown⟩ := hgauged.leftOver (.inl rfl)
    exact .cleared hfree hshown (hgauged.once rfl) hrestart' hclear
  | @kept w p restart restart' log stop hrestart =>
    have hsame : Gauged ⟨w, { p with hub := { p.hub with stop := stop } }, restart', log ++ []⟩ :=
      hgauged.told hrestart rfl rfl rfl (by simp) (by simp)
    rwa [List.append_nil] at hsame

/-- **What every run keeps of the gauge.** -/
theorem gauged_run? (hgauged : Gauged o) {moves : List OperationMove}
    (hrun : o.run? host moves = some o') : Gauged o' := keeps_run? Gauged.moves hgauged hrun

/-- Whatever the gauge showed before the first call is left out. -/
theorem IsNew.gauged (hnew : o.IsNew) : Gauged o where
  serving h := by
    rw [hnew.serving] at h
    cases h
  leftOver h := by
    rw [IsLeftOver, hnew.restart, hnew.log] at h
    exact absurd h (not_or.2 ⟨nofun, not_lastStopFailed_nil⟩)
  idle h := by
    rw [hnew.log] at h
    cases h
  once h := nomatch hnew.restart.symm.trans h

/-- **When the gauge is right**, once the plugin has served: unless the last stop failed, or the stop
of a restart has yet to clear up. Then the plugin does not serve, and the gauge shows its units. -/
theorem gaugeIsRight_iff (hnew : o.IsNew) {moves : List OperationMove}
    (hrun : o.run? host moves = some o') (hserved : .started (.ok ()) ∈ o'.log) :
    (o'.plugin.GaugeIsRight ↔ ¬ o'.IsLeftOver ∨ o'.plugin.hub.units = []) ∧
      (o'.IsLeftOver →
        o'.plugin.serving = none ∧ o'.plugin.shown = o'.plugin.hub.units.length) := by
  have hgauged := gauged_run? hnew.gauged hrun
  refine ⟨?_, hgauged.leftOver⟩
  rw [Instance.GaugeIsRight]
  by_cases hleft : o'.IsLeftOver
  · obtain ⟨hfree, hshown⟩ := hgauged.leftOver hleft
    simp [hfree, hshown, hleft]
  · cases hserving : o'.plugin.serving with
    | none => simp [hgauged.idle hserved hserving hleft, hleft]
    | some generation =>
      simp [hgauged.serving (Option.isSome_iff_exists.2 ⟨_, hserving⟩), hleft]

/-- A world that counts how often a socket was to be taken away, and in which that fails the second
time. -/
def secondRemovalFails : Host Nat where
  clearSocket n := (n + 1, if n = 1 then .error (.system 20) else .ok ())
  bindSocket n := (n, .ok ())
  probe n := (n, .ok ())
  register n := (n, .ok ())
  watch _ n := (n, .ok ())

/-- A plugin that is started and then stopped, which fails, and stopped again, which does nothing:
its gauge shows one unit. -/
theorem gaugeIsRight_iff_stoppedTwice :
    ∃ o : Operation Nat, run? secondRemovalFails ⟨0, Deployment.single.plugin, none, []⟩
        [.start, .stop, .stop] = some o ∧
      .started (.ok ()) ∈ o.log ∧ o.plugin.shown = 1 ∧
      (o.plugin.GaugeIsRight ↔ ¬ o.IsLeftOver ∨ o.plugin.hub.units = []) ∧
      (o.IsLeftOver → o.plugin.serving = none ∧ o.plugin.shown = o.plugin.hub.units.length) := by
  have hnew : IsNew (W := Nat) ⟨0, Deployment.single.plugin, none, []⟩ := by
    refine ⟨rfl, rfl, rfl, fun generation => ?_⟩
    rintro ⟨signal, hsignal, -⟩
    cases hsignal
  have hserved : .started (.ok ()) ∈ ([.started (.ok ()),
      .stopped (.error (.io (Deployment.single.plugin.socketPath) (.system 20))),
      .stopped (.ok ())] : List Occurrence) := List.mem_cons_self
  obtain ⟨o, hrun, hlog, hshown⟩ : ∃ o, run? secondRemovalFails
      ⟨0, Deployment.single.plugin, none, []⟩ [.start, .stop, .stop] = some o ∧
      .started (.ok ()) ∈ o.log ∧ o.plugin.shown = 1 := ⟨_, rfl, hserved, rfl⟩
  exact ⟨o, hrun, hlog, hshown, gaugeIsRight_iff hnew hrun hlog⟩

end Operation

namespace Deployment

/-- A plugin whose socket is reached through a link among the nodes. -/
def linked : Deployment where
  plugin := { single.plugin with config := { pluginDirectory := "/vfio/plugins" } }
  site := { single.site with
    tree := {
      entries := ([.text "vfio", .text "plugins"], .link (.text "../plugins")) ::
        single.site.tree.entries
      workingDirectory := [] } }

/-- The plugin is started. Then the link gives way to a file, and the plugin is stopped. -/
def cutOff : List DeploymentMove :=
  [.startKubelet, .start, .removeNode "plugins", .createNode "plugins", .beginStop, .endStop]

/-- At the end the plugin, which has served, does not serve any more, and its gauge still shows a
unit. -/
theorem not_gaugeIsRight_cutOff :
    (linked.run? (cutOff.take 2)).map (fun d => d.plugin.serving) = some (some 0) ∧
      ∃ d, linked.run? cutOff = some d ∧ d.plugin.serving = none ∧ d.plugin.shown = 1 ∧
        ¬ d.plugin.GaugeIsRight := by
  refine ⟨by decide +kernel, ?_⟩
  have hend : (linked.run? cutOff).map (fun d => (d.plugin.serving, d.plugin.shown)) =
      some (none, 1) := by decide +kernel
  obtain ⟨d, hrun, heq⟩ := Option.map_eq_some_iff.1 hend
  obtain ⟨hserving, hshown⟩ := Prod.mk.inj heq
  refine ⟨d, hrun, hserving, hshown, ?_⟩
  rw [Instance.GaugeIsRight, hserving, hshown]
  exact Nat.one_ne_zero

end Deployment

end GpuPassthrough
