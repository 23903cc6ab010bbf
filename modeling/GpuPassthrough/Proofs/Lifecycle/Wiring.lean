import GpuPassthrough.Proofs.Lifecycle.Turns
import GpuPassthrough.Proofs.Session.Delivery

/-!
# What a Deployment Keeps

However a deployed plugin is started, stopped and restarted, its hub goes on: the line for the queue
stays in order, no event is lost that the queue has accepted, and the units are what the applied
events made of them. Every watcher looks for the nodes of the units that are advertised, and what it
has heard are plain reports.

## Main results

* `continues_of_move?`: no move takes the hub back.
* `wired_run?`: what every run of a new deployment keeps.
-/

namespace GpuPassthrough

/-! ### The plugin goes on -/

/-- What a deployment's move does to its hub, be it that of a session or not. -/
def Hub.Moves (h h' : Hub) : Prop :=
  (∃ i s, h.sessions[i]? = some s ∧ h.Advances i s h') ∨ ∃ m : HubMove, h.Outside m h'

/-- Other signals and counters. -/
theorem Hub.moves_signals (h : Hub) (stop : Signal) (generations : List Signal)
    (metrics : Metrics) (htransitions : ∀ className health,
      metrics.value (.healthTransitions className health) =
        h.metrics.value (.healthTransitions className health)) :
    h.Moves { h with stop := stop, generations := generations, metrics := metrics } :=
  .inr ⟨.consult, outside_signals h stop generations metrics rfl htransitions⟩

/-- **A plugin continues** with what it is and with its hub. -/
structure Instance.Continues (p p' : Instance) : Prop where
  config : p'.config = p.config
  deviceRoot : p'.deviceRoot = p.deviceRoot
  hub : p.hub.Moves p'.hub

namespace Instance.Continues

/-- Nothing happens to a plugin. -/
theorem refl (p : Instance) : p.Continues p :=
  ⟨rfl, rfl, p.hub.moves_signals _ _ p.hub.metrics fun _ _ => rfl⟩

/-- The gauge is set. -/
theorem gauge (p : Instance) (n : Nat) : p.Continues (p.gauge n) :=
  ⟨rfl, rfl, p.hub.moves_signals _ _ _ fun _ _ => Metrics.value_set_of_ne _ (by simp) n⟩

/-- The generation that is served ends. -/
theorem withdraw (p : Instance) (generation : Nat) : p.Continues (p.withdraw generation) :=
  ⟨rfl, rfl, p.hub.moves_signals _ _ p.hub.metrics fun _ _ => rfl⟩

/-- A start, whatever it leads to. -/
theorem starts {p p' : Instance} {s s' : Site} {result : Except PluginError Unit}
    (hstarts : p.Starts s (s', p', result)) : p.Continues p' := by
  cases hstarts with
  | refused _ => exact .refl p
  | failed _ _ => exact ⟨rfl, rfl, p.hub.moves_signals _ _ p.hub.metrics fun _ _ => rfl⟩
  | served _ _ =>
    exact ⟨rfl, rfl, p.hub.moves_signals _ _ _ fun _ _ => Metrics.value_set_of_ne _ (by simp) _⟩

/-- A step of a restart. -/
theorem steps {p p' : Instance} {s s' : Site} {phase next : RestartPhase}
    (hsteps : phase.Steps p s (s', p', next)) : p.Continues p' := by
  cases hsteps with
  | skip _ =>
    exact ⟨rfl, rfl, p.hub.moves_signals _ _ _ fun _ _ =>
      Metrics.value_increment_of_ne _ (by simp)⟩
  | stop _ =>
    exact ⟨rfl, rfl, p.hub.moves_signals _ _ _ fun _ _ =>
      Metrics.value_increment_of_ne _ (by simp)⟩
  | clear _ => exact .gauge p 0
  | fail _ => exact .refl p
  | giveUp _ => exact .refl p
  | attempt hstarts => exact .starts hstarts

end Instance.Continues

namespace Deployment

/-- A turn of a watcher. -/
theorem continues_of_turn {d d' : Deployment} {k : Nat} {w : Watcher} (hturn : Turn d k w d') :
    d.plugin.Continues d'.plugin := by
  cases hturn with
  | go _ => exact .refl d.plugin
  | handOn _ _ _ hoffer => exact ⟨rfl, rfl, .inr ⟨_, Hub.outside_offer hoffer⟩⟩
  | look _ _ _ _ => exact .refl d.plugin
  | restart _ hsteps => exact .steps hsteps

/-- **No move takes the hub back.** -/
theorem continues_of_move? {d d' : Deployment} {m : DeploymentMove} (hmove : d.move? m = some d') :
    d.plugin.Continues d'.plugin := by
  cases acts_of_move? hmove with
  | hub hgoes =>
    refine ⟨rfl, rfl, ?_⟩
    rcases hgoes.moves with hadv | ⟨m, -, hout⟩
    · exact .inl hadv
    · exact .inr ⟨m, hout⟩
  | site _ => exact .refl d.plugin
  | start hstarts => exact .starts hstarts
  | beginStop _ => exact .withdraw d.plugin _
  | endStop _ hsame =>
    rcases hsame with rfl | rfl
    · exact .refl d.plugin
    · exact .gauge d.plugin 0
  | turn _ _ hturn => exact continues_of_turn hturn
  | resume _ _ _ => exact .refl d.plugin

/-! ### The watchers go on -/

/-- The keys that a deployment advertises. -/
def keys (d : Deployment) : List String := d.plugin.hub.units.map AdvertisedUnit.key

/-- What a deployment's watchers look for. -/
def targets (d : Deployment) : WatchTargets :=
  .ofUnits d.plugin.deviceRoot d.keys d.plugin.socketPath

/-- Where a watcher of a deployment comes from: it was there, looked for the same and has heard plain
reports at most, or it is new. -/
def Descends (d : Deployment) (k : Nat) (w' : Watcher) : Prop :=
  (∃ w, d.site.watchers[k]? = some w ∧ w'.targets = w.targets ∧
      ∀ e ∈ w'.inbox, e ∈ w.inbox ∨ e.IsPlain) ∨
    w'.targets = d.targets ∧ w'.inbox = []

/-- A watcher that hears of changes. -/
theorem descends_of_hears {d : Deployment} {s : Site} (hhears : d.site.Hears s) {k : Nat}
    {w' : Watcher} (hw' : s.watchers[k]? = some w') : d.Descends k w' := by
  obtain ⟨w, hw, hhear⟩ := hhears.heard hw'
  obtain ⟨news, hnews, hplain⟩ := hhear.inbox
  refine .inl ⟨w, hw, hhear.targets, fun e he => ?_⟩
  rw [hnews] at he
  exact (List.mem_append.1 he).imp_right (hplain e)

/-- A watcher after a start. -/
theorem descends_of_starts {d : Deployment} {s : Site} {p : Instance}
    {result : Except PluginError Unit} (hstarts : d.plugin.Starts d.site (s, p, result)) {k : Nat}
    {w' : Watcher} (hw' : s.watchers[k]? = some w') : d.Descends k w' := by
  cases hstarts with
  | refused hhears => exact descends_of_hears hhears hw'
  | failed _ hhears => exact descends_of_hears hhears hw'
  | served _ hhears =>
    rcases Instance.watchNext_cases hw' with hold | ⟨-, rfl⟩
    · exact descends_of_hears hhears hold
    · exact .inr ⟨rfl, rfl⟩

/-- A watcher after a step of a restart. -/
theorem descends_of_steps {d : Deployment} {s : Site} {p : Instance} {phase next : RestartPhase}
    (hsteps : phase.Steps d.plugin d.site (s, p, next)) {k : Nat} {w' : Watcher}
    (hw' : s.watchers[k]? = some w') : d.Descends k w' := by
  cases hsteps with
  | skip _ => exact descends_of_hears (Site.hears_of_eq rfl) hw'
  | stop _ => exact descends_of_hears (Site.hears_of_eq rfl) hw'
  | clear hhears => exact descends_of_hears hhears hw'
  | fail hhears => exact descends_of_hears hhears hw'
  | giveUp _ => exact descends_of_hears (Site.hears_of_eq rfl) hw'
  | attempt hstarts => exact descends_of_starts hstarts hw'

/-- A watcher after a change of one watcher, which looks for the same and has heard no more. -/
theorem descends_of_onWatcher {d d₁ : Deployment} {k : Nat} {f : Watcher → Watcher}
    (hbefore : ∀ {j : Nat} {w : Watcher}, d₁.site.watchers[j]? = some w → d.Descends j w)
    {j : Nat} {w' : Watcher} (hw' : (d₁.onWatcher k f).site.watchers[j]? = some w')
    (hkeeps : ∀ w, d₁.site.watchers[k]? = some w →
      (f w).targets = w.targets ∧ ∀ e ∈ (f w).inbox, e ∈ w.inbox) : d.Descends j w' := by
  by_cases hne : k = j
  · subst hne
    cases hw : d₁.site.watchers[k]? with
    | none => simp [onWatcher, hw] at hw'
    | some w =>
      rw [watchers_onWatcher_self hw] at hw'
      cases hw'
      obtain ⟨htargets, hinbox⟩ := hkeeps w hw
      rcases hbefore hw with ⟨v, hv, hsame, hplain⟩ | ⟨hnew, hempty⟩
      · exact .inl ⟨v, hv, htargets.trans hsame, fun e he => hplain e (hinbox e he)⟩
      · refine .inr ⟨htargets.trans hnew, List.eq_nil_iff_forall_not_mem.2 fun e he => ?_⟩
        have hmem := hinbox e he
        simp [hempty] at hmem
  · rw [watchers_onWatcher_of_ne d₁ hne] at hw'
    exact hbefore hw'

/-- **Every watcher was there or is new.** -/
theorem descends_of_move? {d d' : Deployment} {m : DeploymentMove} (hmove : d.move? m = some d')
    {k : Nat} {w' : Watcher} (hw' : d'.site.watchers[k]? = some w') : d.Descends k w' := by
  have hsame : ∀ {d₁ : Deployment}, d₁.site.watchers = d.site.watchers → ∀ {j : Nat}
      {w : Watcher}, d₁.site.watchers[j]? = some w → d.Descends j w := by
    intro d₁ heq j w hw
    exact descends_of_hears (Site.hears_of_eq heq) hw
  cases acts_of_move? hmove with
  | hub _ => exact hsame rfl hw'
  | site hhears => exact descends_of_hears hhears hw'
  | start hstarts => exact descends_of_starts hstarts hw'
  | beginStop _ => exact hsame rfl hw'
  | endStop hhears _ => exact descends_of_hears hhears hw'
  | resume _ _ _ =>
    exact descends_of_onWatcher (hsame rfl) hw' fun _ _ => ⟨rfl, fun _ => id⟩
  | turn hw hthere hturn =>
    cases hturn with
    | go _ => exact descends_of_onWatcher (hsame rfl) hw' fun _ _ => ⟨rfl, fun _ => id⟩
    | handOn _ _ _ _ =>
      exact descends_of_onWatcher (hsame rfl) hw' fun _ _ => ⟨rfl, fun _ => id⟩
    | @look e rest _ _ hinbox _ =>
      refine descends_of_onWatcher (hsame rfl) hw' fun w hv => ?_
      obtain rfl := Option.some.inj (hw.symm.trans hv)
      have hrest : ∀ other ∈ rest, other ∈ e :: rest := fun _ => List.mem_cons_of_mem e
      rcases look_cases d.site.tree _ e rest with hlook | hlook <;> rw [hlook, hinbox]
      · exact ⟨rfl, hrest⟩
      · exact ⟨rfl, hrest⟩
    | restart _ hsteps =>
      exact descends_of_onWatcher (descends_of_steps hsteps) hw' fun _ _ => ⟨rfl, fun _ => id⟩

/-! ### Runs -/

/-- **A new deployment**: nothing has happened at its hub, and nobody watches. -/
structure IsNew (d : Deployment) : Prop where
  hub : ∃ className units stop metrics, d.plugin.hub = .fresh className units stop metrics
  idle : d.plugin.serving = none
  unwatched : d.site.watchers = []

/-- **What every run of a new deployment keeps.** -/
structure Wired (d₀ d : Deployment) : Prop where
  deviceRoot : d.plugin.deviceRoot = d₀.plugin.deviceRoot
  socketPath : d.plugin.socketPath = d₀.plugin.socketPath
  line : d.plugin.hub.LineInOrder
  conserved : d.plugin.hub.Conserved
  /-- The units are what the applied events made of them. -/
  units : d.plugin.hub.units =
    unitsAfter d₀.plugin.hub.units (d.plugin.hub.applied.map Prod.snd)
  /-- Every watcher looks for the nodes of the units. -/
  targets : ∀ {k : Nat} {w : Watcher}, d.site.watchers[k]? = some w → w.targets = d₀.targets
  plain : ∀ {k : Nat} {w : Watcher}, d.site.watchers[k]? = some w → ∀ e ∈ w.inbox, e.IsPlain

/-- The keys that are advertised never change. -/
theorem Wired.keys_eq {d₀ d : Deployment} (hwired : Wired d₀ d) : d.keys = d₀.keys := by
  rw [keys, hwired.units, map_key_unitsAfter, keys]

/-- What watchers look for never changes. -/
theorem Wired.targets_eq {d₀ d : Deployment} (hwired : Wired d₀ d) : d.targets = d₀.targets := by
  rw [Deployment.targets, hwired.deviceRoot, hwired.keys_eq, hwired.socketPath,
    Deployment.targets]

/-- The start of a new deployment. -/
theorem wired_of_isNew {d : Deployment} (hnew : d.IsNew) : Wired d d := by
  obtain ⟨className, units, stop, metrics, hhub⟩ := hnew.hub
  refine ⟨rfl, rfl, ?_, ?_, ?_, fun hw => ?_, fun hw => ?_⟩
  · rw [hhub]
    exact Hub.lineInOrder_fresh className units stop metrics
  · rw [hhub]
    rfl
  · rw [hhub]
    rfl
  · simp [hnew.unwatched] at hw
  · simp [hnew.unwatched] at hw

/-- Every move keeps it. -/
theorem Wired.move? {d₀ d d' : Deployment} {m : DeploymentMove} (hwired : Wired d₀ d)
    (hmove : d.move? m = some d') : Wired d₀ d' := by
  have hcontinues := continues_of_move? hmove
  have hhub : d'.plugin.hub.className = d.plugin.hub.className ∧ d'.plugin.hub.LineInOrder ∧
      d'.plugin.hub.Conserved ∧ d'.plugin.hub.units =
        unitsAfter d₀.plugin.hub.units (d'.plugin.hub.applied.map Prod.snd) := by
    rcases hcontinues.hub with ⟨i, s, hs, hadv⟩ | ⟨m, hout⟩
    · refine ⟨hadv.kept.1, hwired.line.advances hs hadv,
        hwired.conserved.advances hwired.line hs hadv, ?_⟩
      rcases hadv.applies_or with ⟨hunits, happlied, -⟩ | ⟨e, -, heq⟩
      · rw [hunits, happlied, hwired.units]
      · have hunits : d'.plugin.hub.units = e.apply d.plugin.hub.units := by rw [heq]; rfl
        have happlied : d'.plugin.hub.applied = d.plugin.hub.applied ++ [(i, e)] := by
          rw [heq]; rfl
        rw [hunits, happlied, List.map_append, List.map_singleton, unitsAfter_concat,
          ← hwired.units]
    · refine ⟨hout.className, hwired.line.outside hout, hwired.conserved.outside hout, ?_⟩
      rw [hout.units, hout.applied, hwired.units]
  obtain ⟨hclass, hline, hconserved, hunits⟩ := hhub
  refine ⟨hcontinues.deviceRoot.trans hwired.deviceRoot, ?_, hline, hconserved, hunits,
    fun hw' => ?_, fun hw' => ?_⟩
  · rw [← hwired.socketPath, Instance.socketPath, Instance.socketPath, Instance.className,
      Instance.className, hclass, hcontinues.config]
  · rcases descends_of_move? hmove hw' with ⟨w, hw, hsame, -⟩ | ⟨hnew, -⟩
    · exact hsame.trans (hwired.targets hw)
    · exact hnew.trans hwired.targets_eq
  · intro e he
    rcases descends_of_move? hmove hw' with ⟨w, hw, -, hplain⟩ | ⟨-, hempty⟩
    · exact (hplain e he).elim (hwired.plain hw e) id
    · simp [hempty] at he

/-- **Every run of a new deployment keeps it.** -/
theorem wired_run? {d₀ d : Deployment} {moves : List DeploymentMove} (hnew : d₀.IsNew)
    (hrun : d₀.run? moves = some d) : Wired d₀ d :=
  run?_induction (P := fun _ d => Wired d₀ d) (wired_of_isNew hnew)
    (fun _ hwired hmove => hwired.move? hmove) hrun

end Deployment

end GpuPassthrough
