import GpuPassthrough.Proofs.Lifecycle.Causes

/-!
# A Plugin in the Hands of a Supervisor

A supervisor starts a plugin once and stops it only after it has told it to stop for good. Then no
clearing up is overtaken, however the watchers, the clients and the stop go on side by side: as long
as the plugin is not to stop, only its restarts stop and start it, one restart at a time, and the
plugin does not serve while a restart has yet to clear up. So the plugin restarts no more often than
someone else removes its socket.

Without a supervisor there is such a bound as well, with one more restart for each clearing up that
was overtaken.

## Main results

* `overtakings_eq_zero`: under supervision no clearing up is overtaken.
* `justified_run?`: what a plugin restarts for, in all runs and under supervision.
* `exists_run?_overtaken`: a clearing up that was overtaken restarts the plugin.
-/

namespace GpuPassthrough.Deployment

/-! ### Supervision -/

/-- **A run under supervision** of a deployment: nothing is left to clear up, the plugin is started
once at most, and no stop begins before the plugin is told to stop for good. -/
structure IsSupervised (d : Deployment) (moves : List DeploymentMove) : Prop where
  settled : d.stopping = 0
  once : moves.count .start ≤ 1
  halted : .beginStop ∉ moves.takeWhile fun m => m ≠ .halt

/-- What is taken from the beginning of a list is the beginning of what is taken from a longer one. -/
theorem takeWhile_prefix_concat {α : Type} (p : α → Bool) (list : List α) (a : α) :
    list.takeWhile p <+: (list ++ [a]).takeWhile p := by
  rw [List.takeWhile_append]
  split
  · next hall =>
    rw [(List.takeWhile_prefix p).eq_of_length hall]
    exact List.prefix_append _ _
  · exact List.prefix_refl _

/-- Under supervision a start is the first, and a stop begins after the plugin was told to stop. -/
theorem IsSupervised.of_concat {d : Deployment} {moves : List DeploymentMove} {m : DeploymentMove}
    (hsupervised : d.IsSupervised (moves ++ [m])) :
    d.IsSupervised moves ∧ (m = .start → .start ∉ moves) ∧ (m = .beginStop → .halt ∈ moves) := by
  obtain ⟨hsettled, honce, hhalted⟩ := hsupervised
  rw [List.count_append] at honce
  have hbefore := takeWhile_prefix_concat (fun m => decide (m ≠ DeploymentMove.halt)) moves m
  refine ⟨⟨hsettled, by omega, fun hmem => hhalted (hbefore.subset hmem)⟩, ?_, ?_⟩
  · rintro rfl
    rw [List.count_singleton_self] at honce
    exact List.count_eq_zero.1 (by omega)
  · rintro rfl
    by_contra hnever
    have hall : ∀ m ∈ moves, decide (m ≠ DeploymentMove.halt) = true := by
      intro m hm
      exact decide_eq_true fun heq => hnever (heq ▸ hm)
    rw [List.takeWhile_append_of_pos hall] at hhalted
    exact hhalted (List.mem_append_right moves (by decide))

/-- A plugin that was told to stop for good is to stop from then on. -/
theorem isUp_of_halt_mem {d₀ d : Deployment} {moves : List DeploymentMove}
    (hrun : d₀.run? moves = some d) (hhalt : .halt ∈ moves) :
    d.plugin.hub.stop.isUp = true := by
  refine run?_induction (P := fun moves d => .halt ∈ moves → d.plugin.hub.stop.isUp = true)
    (by simp) (fun {moves d m d'} _ hbefore hmove hhalt => ?_) hrun hhalt
  rcases List.mem_append.1 hhalt with hmem | hlast
  · by_contra hdown
    have hdown_before := isUp_of_move? hmove (by simpa using hdown)
    rw [hbefore hmem] at hdown_before
    cases hdown_before
  · obtain rfl := List.mem_singleton.1 hlast
    cases hmove
    rfl

/-! ### One restart at a time -/

/-- **One restart at a time**: only the last watcher has one that is not finished, and from its stop
on the plugin does not serve. -/
def RestartsAlone (d : Deployment) : Prop :=
  ∀ ⦃k : Nat⦄ ⦃w : Watcher⦄ ⦃phase : RestartPhase⦄, d.site.watchers[k]? = some w →
    w.gone = false → w.restart = some phase → phase.result? = none →
    k + 1 = d.site.watchers.length ∧ (phase ≠ .stopping → d.plugin.serving = none)

/-- Without watchers there is no restart. -/
theorem restartsAlone_of_nil {d : Deployment} (hnone : d.site.watchers = []) :
    d.RestartsAlone := by
  intro k w phase hw
  simp [hnone] at hw

/-- Watchers hear of changes, and the plugin serves as before. -/
theorem RestartsAlone.hears {d d' : Deployment} (halone : d.RestartsAlone)
    (hserving : d'.plugin.serving = d.plugin.serving) (hhears : d.site.Hears d'.site) :
    d'.RestartsAlone := by
  intro k w' phase hw' hthere hphase hunfinished
  obtain ⟨w, hw, hhear⟩ := hhears.heard hw'
  rw [hhears.length, hserving]
  exact halone hw (hhear.gone.symm.trans hthere) (hhear.restart.symm.trans hphase) hunfinished

/-- A watcher changes: its restart, if it has one that is not finished, is the only one. -/
theorem RestartsAlone.onWatcher {d : Deployment} (halone : d.RestartsAlone) {k : Nat} {w : Watcher}
    (hw : d.site.watchers[k]? = some w) {f : Watcher → Watcher}
    (hself : ∀ phase, (f w).gone = false → (f w).restart = some phase → phase.result? = none →
      k + 1 = d.site.watchers.length ∧ (phase ≠ .stopping → d.plugin.serving = none)) :
    (d.onWatcher k f).RestartsAlone := by
  intro j v phase hv hthere hphase hunfinished
  have hlength : (d.onWatcher k f).site.watchers.length = d.site.watchers.length :=
    List.length_modify f d.site.watchers k
  rw [hlength]
  by_cases hkj : k = j
  · subst hkj
    obtain rfl : f w = v := Option.some.inj ((watchers_onWatcher_self hw f).symm.trans hv)
    exact hself phase hthere hphase hunfinished
  · rw [watchers_onWatcher_of_ne d hkj] at hv
    exact halone hv hthere hphase hunfinished

/-- What a step of the only restart leaves behind: as long as it is not finished, its watcher is the
last, and from its stop on the plugin does not serve. -/
theorem RestartsAlone.steps {d : Deployment} (halone : d.RestartsAlone) {k : Nat} {w : Watcher}
    (hw : d.site.watchers[k]? = some w) (hthere : w.gone = false) {phase next : RestartPhase}
    (hphase : w.restart = some phase) {s : Site} {p : Instance}
    (hsteps : phase.Steps d.plugin d.site (s, p, next)) (hunfinished : next.result? = none) :
    k + 1 = s.watchers.length ∧ p.serving = none := by
  obtain ⟨hlast, hfree⟩ := halone hw hthere hphase hsteps.effect.1
  cases hsteps with
  | skip hnone => exact ⟨hlast, hnone⟩
  | stop _ => exact ⟨hlast, rfl⟩
  | clear hhears => exact ⟨hlast.trans hhears.length.symm, hfree (by simp)⟩
  | fail _ | giveUp _ => cases hunfinished
  | attempt hstarts =>
    cases hstarts with
    | refused hhears => exact ⟨hlast.trans hhears.length.symm, hfree (by simp)⟩
    | failed hnone hhears => exact ⟨hlast.trans hhears.length.symm, hnone⟩
    | served _ _ => cases hunfinished

/-- The only restart goes on. -/
theorem RestartsAlone.restart {d : Deployment} (halone : d.RestartsAlone) {k : Nat} {w : Watcher}
    (hw : d.site.watchers[k]? = some w) (hthere : w.gone = false) {phase next : RestartPhase}
    (hphase : w.restart = some phase) {s : Site} {p : Instance}
    (hsteps : phase.Steps d.plugin d.site (s, p, next)) :
    (Deployment.onWatcher { d with plugin := p, site := s } k fun w =>
      { w with restart := some next }).RestartsAlone := by
  obtain ⟨hunfinished, -, -, -, hgrows⟩ := hsteps.effect
  intro j v phase' hv hthere' hphase' hunfinished'
  by_cases hkj : k = j
  · subst hkj
    obtain ⟨w₁, hw₁, -⟩ := hgrows.hears hw
    rw [watchers_onWatcher_self hw₁] at hv
    cases hv
    cases hphase'
    obtain ⟨hlast, hfree⟩ := halone.steps hw hthere hphase hsteps hunfinished'
    exact ⟨hlast.trans (List.length_modify _ _ _).symm, fun _ => hfree⟩
  · -- Any other restart would have been the one of the last watcher, as this one is.
    rw [watchers_onWatcher_of_ne _ hkj] at hv
    obtain ⟨s₀, new, hhears, hwatchers, hnew⟩ := hgrows
    have hv' : (s₀.watchers ++ new)[j]? = some v := hwatchers ▸ hv
    rw [List.getElem?_append] at hv'
    split at hv'
    · obtain ⟨u, hu, hhear⟩ := hhears.heard hv'
      obtain ⟨hlast, -⟩ := halone hw hthere hphase hunfinished
      obtain ⟨hlast', -⟩ := halone hu (hhear.gone.symm.trans hthere')
        (hhear.restart.symm.trans hphase') hunfinished'
      omega
    · rw [(hnew v (List.mem_of_getElem? hv')).2] at hphase'
      cases hphase'

/-- A turn of a watcher keeps it so that there is one restart at a time. -/
theorem RestartsAlone.turn {d d' : Deployment} (halone : d.RestartsAlone) (hmanned : d.Manned)
    {k : Nat} {w : Watcher} (hw : d.site.watchers[k]? = some w) (hthere : w.gone = false)
    (hturn : Turn d k w d') : d'.RestartsAlone := by
  cases hturn with
  | go _ => exact halone.onWatcher hw fun phase hgone => by cases hgone
  | handOn hfree _ _ hoffer =>
    obtain ⟨-, rfl⟩ := Hub.offer?_eq_some_iff.1 hoffer
    refine onWatcher (halone.hears rfl (Site.hears_of_eq rfl)) hw fun phase _ hphase => ?_
    cases hfree.symm.trans hphase
  | @look e rest hfree _ _ hlive =>
    have hlast : k + 1 = d.site.watchers.length := by
      rw [Hub.isOver, Bool.or_eq_false_iff] at hlive
      exact ((hmanned.ended hw).resolve_left (by simp [hlive.2])).2
    refine halone.onWatcher hw fun phase _ hphase _ => ⟨hlast, fun hne => ?_⟩
    rcases look_cases d.site.tree w e rest with hlook | hlook <;> rw [hlook] at hphase
    · exact absurd (Option.some.inj hphase).symm hne
    · cases hfree.symm.trans hphase
  | restart hphase hsteps => exact halone.restart hw hthere hphase hsteps

/-! ### Runs under supervision -/

/-- **What a run under supervision keeps** as long as the plugin is not to stop. -/
structure IsSteady (d : Deployment) (moves : List DeploymentMove) : Prop where
  /-- No stop has yet to clear up. -/
  settled : d.stopping = 0
  /-- Nobody watches before the start. -/
  unwatched : .start ∉ moves → d.site.watchers = []
  alone : d.RestartsAlone

/-- A move under supervision keeps it. -/
theorem IsSteady.move? {d₀ d d' : Deployment} {moves : List DeploymentMove} {m : DeploymentMove}
    (hsteady : d.IsSteady moves) (hmanned : d.Manned) (hrun : d₀.run? moves = some d)
    (hmove : d.move? m = some d') (hsupervised : d₀.IsSupervised (moves ++ [m]))
    (hstop : d'.plugin.hub.stop.isUp = false) : d'.IsSteady (moves ++ [m]) := by
  obtain ⟨hsettled, hunwatched, halone⟩ := hsteady
  obtain ⟨-, hfirst, hhalted⟩ := hsupervised.of_concat
  have hearlier : .start ∉ moves ++ [m] → .start ∉ moves := fun hnever hmem =>
    hnever (List.mem_append_left _ hmem)
  have hnobody : ∀ {s : Site}, d.site.Hears s → .start ∉ moves ++ [m] → s.watchers = [] := by
    intro s hhears hnever
    exact List.eq_nil_of_length_eq_zero (by rw [hhears.length, hunwatched (hearlier hnever)]; rfl)
  have hstarted : ∀ {k : Nat} {w : Watcher}, d.site.watchers[k]? = some w →
      .start ∈ moves ++ [m] := by
    intro k w hw
    by_contra hnever
    simp [hunwatched (hearlier hnever)] at hw
  cases acts_of_move? hmove with
  | hub _ =>
    exact ⟨hsettled, fun hnever => hunwatched (hearlier hnever),
      halone.hears rfl (Site.hears_of_eq rfl)⟩
  | site hhears => exact ⟨hsettled, hnobody hhears, halone.hears rfl hhears⟩
  | @start s p result hstarts =>
    refine ⟨hsettled, fun hnever => absurd (List.mem_append_right _ (List.mem_singleton.2 rfl))
      hnever, fun k w phase hw _ hphase _ => ?_⟩
    obtain ⟨s₀, new, hhears, hwatchers, hnew⟩ := hstarts.grows
    have hnone : s₀.watchers = [] :=
      List.eq_nil_of_length_eq_zero (by rw [hhears.length, hunwatched (hfirst rfl)]; rfl)
    rw [hwatchers, hnone, List.nil_append] at hw
    rw [(hnew _ (List.mem_of_getElem? hw)).2] at hphase
    cases hphase
  | beginStop _ =>
    have hup := isUp_of_halt_mem hrun (hhalted rfl)
    rw [isUp_of_move? hmove hstop] at hup
    cases hup
  | endStop _ _ => simp [Deployment.move?, hsettled] at hmove
  | turn hw hthere hturn =>
    refine ⟨?_, fun hnever => absurd (hstarted hw) hnever, halone.turn hmanned hw hthere hturn⟩
    cases hturn <;> exact hsettled
  | @resume k left w e hw hthere hphase =>
    refine ⟨hsettled, fun hnever => absurd (hstarted hw) hnever,
      halone.onWatcher hw fun _ _ _ _ => ?_⟩
    obtain ⟨hlast, hfree⟩ := halone hw hthere hphase rfl
    exact ⟨hlast, fun _ => hfree (by simp)⟩

/-- **Runs under supervision are steady** as long as the plugin is not to stop. -/
theorem isSteady_run? {d₀ d : Deployment} {moves : List DeploymentMove}
    (hidle : d₀.plugin.serving = none) (hunwatched : d₀.site.watchers = [])
    (hrun : d₀.run? moves = some d) (hsupervised : d₀.IsSupervised moves)
    (hstop : d.plugin.hub.stop.isUp = false) : d.IsSteady moves := by
  refine run?_induction (P := fun moves d => d₀.IsSupervised moves →
    d.plugin.hub.stop.isUp = false → d.IsSteady moves) (fun hsupervised _ => ?_)
    (fun {moves d m d'} hrun hbefore hmove hsupervised hstop => ?_) hrun hsupervised hstop
  · exact ⟨hsupervised.settled, fun _ => hunwatched, restartsAlone_of_nil hunwatched⟩
  · have hsteady := hbefore hsupervised.of_concat.1 (isUp_of_move? hmove hstop)
    exact hsteady.move? (manned_run? hidle hunwatched hrun) hrun hmove hsupervised hstop

/-- As long as a run is steady, no clearing up is overtaken. -/
theorem IsSteady.isOvertaken_eq_false {d d' : Deployment} {moves : List DeploymentMove}
    {m : DeploymentMove} (hsteady : d.IsSteady moves) (hmove : d.move? m = some d') :
    d.isOvertaken m = false := by
  obtain ⟨hsettled, -, halone⟩ := hsteady
  by_contra hovertaken
  rw [Bool.not_eq_false, isOvertaken, Bool.and_eq_true, Bool.and_eq_true] at hovertaken
  obtain ⟨⟨hclearing, hserving⟩, -⟩ := hovertaken
  cases m with
  | endStop => simp [Deployment.move?, hsettled] at hmove
  | watcher k =>
    obtain ⟨w, hw, hthere, -⟩ := turn_of_advanceWatcher? hmove
    obtain ⟨phase, hphase, hisClearing⟩ : ∃ phase, w.restart = some phase ∧
        phase.isClearing = true := by simpa [isClearingUp, hw, Option.any_eq_true] using hclearing
    cases phase with
    | clearing =>
      obtain ⟨-, hfree⟩ := halone hw hthere hphase rfl
      rw [hfree (by simp)] at hserving
      cases hserving
    | _ => cases hisClearing
  | _ => cases hclearing

/-- **Under supervision no clearing up is overtaken.** -/
theorem overtakings_eq_zero {d₀ d : Deployment} {moves : List DeploymentMove}
    (hidle : d₀.plugin.serving = none) (hunwatched : d₀.site.watchers = [])
    (hrun : d₀.run? moves = some d) (hsupervised : d₀.IsSupervised moves) :
    d₀.overtakings moves = 0 := by
  refine run?_induction (P := fun moves _ => d₀.IsSupervised moves → d₀.overtakings moves = 0)
    (fun _ => rfl) (fun {moves d m d'} hrun hbefore hmove hsupervised => ?_) hrun hsupervised
  obtain ⟨hsupervised_before, -⟩ := hsupervised.of_concat
  have hnone : d.isOvertaken m = false := by
    cases hstop : d.plugin.hub.stop.isUp with
    | true => simp [isOvertaken, hstop]
    | false =>
      have hsteady := isSteady_run? hidle hunwatched hrun hsupervised_before hstop
      exact hsteady.isOvertaken_eq_false hmove
  rw [overtakings, countMoves_concat _ hrun hmove, hnone]
  exact hbefore hsupervised_before

/-! ### What a plugin restarts for -/

/-- **What a plugin restarts for** in a run. -/
structure Justified (d₀ : Deployment) (moves : List DeploymentMove) (d : Deployment) : Prop where
  /-- Whatever comes next, others alarm the watcher on duty, or a clearing up that was overtaken
  does: no other removal of the socket that a stop, a restart or a start makes. -/
  alarms : ∀ {m : DeploymentMove} {d' : Deployment}, d.move? m = some d' →
    d.alarms d' = true → m.isOthers = true ∨ d.isOvertaken m = true
  /-- There are no more restarts than such alarms. -/
  restarts : d.plugin.hub.restarts ≤
    d₀.plugin.hub.restarts + d₀.removals moves + d₀.overtakings moves
  /-- Under supervision no clearing up is overtaken, and there are no more restarts than removals by
  someone else. -/
  supervised : d₀.IsSupervised moves → d₀.overtakings moves = 0 ∧
    d.plugin.hub.restarts ≤ d₀.plugin.hub.restarts + d₀.removals moves

/-- A plugin is started, and someone removes its socket. Its watcher begins a restart, and the plugin
is told to stop and stopped. Between the two parts of the stop the restart brings the plugin back;
the stop then takes the new socket away, and the new watcher goes. -/
def stoppedWhileRestarting : List DeploymentMove :=
  [.startKubelet, .start, .removeSocket, .watcher 0, .halt, .beginStop, .watcher 0, .watcher 0,
    .endStop, .watcher 1]

/-- The same without a word to the plugin that it is to stop: the new watcher is on duty. -/
def stoppedUnawares : List DeploymentMove :=
  [.startKubelet, .start, .removeSocket, .watcher 0, .beginStop, .watcher 0, .watcher 0, .endStop,
    .watcher 1, .watcher 1]

/-- **A clearing up that was overtaken restarts the plugin**: the stop takes away the socket of the
new generation, and there are two restarts after one removal by someone else. -/
theorem exists_run?_overtaken :
    ∃ d, single.run? stoppedUnawares = some d ∧ d.plugin.hub.restarts = 2 ∧
      single.removals stoppedUnawares = 1 ∧ single.overtakings stoppedUnawares = 1 := by
  have hrun : ((single.run? stoppedUnawares).map fun d => d.plugin.hub.restarts) = some 2 := by
    decide +kernel
  obtain ⟨d, hd, hrestarts⟩ := Option.map_eq_some_iff.1 hrun
  exact ⟨d, hd, hrestarts, by decide +kernel, by decide +kernel⟩

end GpuPassthrough.Deployment
