import GpuPassthrough.Proofs.Lifecycle.Turns
import GpuPassthrough.Proofs.Session.Signals

/-!
# One Watcher on Duty

Every watcher belongs to a generation of the server. While the plugin serves, the last watcher is
that of the generation that is served, and it is on duty: it is there, unless the plugin is to stop,
and its restart has not begun to change anything. The generations of all other watchers have ended.

## Main results

* `manned_run?`: after every run of a new deployment the last watcher is on duty.
* `minds_of_move?`: what a move during a generation does to the watcher on duty.
-/

namespace GpuPassthrough

namespace Deployment

/-- **Who watches for whom**: the last watcher for the generation that is served, and all others for
generations that have ended. -/
structure Manned (d : Deployment) : Prop where
  /-- Watchers belong to generations that have begun. -/
  known : ∀ {k : Nat} {w : Watcher}, d.site.watchers[k]? = some w →
    w.generation < d.plugin.hub.generations.length
  /-- The generation of a watcher has ended, or is served, and the watcher is the last. -/
  ended : ∀ {k : Nat} {w : Watcher}, d.site.watchers[k]? = some w →
    d.plugin.hub.isTerminated w.generation = true ∨
      d.plugin.serving = some w.generation ∧ k + 1 = d.site.watchers.length
  /-- The generation that is served has not ended, and its watcher is on duty. -/
  served : ∀ {generation : Nat}, d.plugin.serving = some generation →
    d.plugin.hub.isTerminated generation = false ∧ generation < d.plugin.hub.generations.length ∧
      ∃ (k : Nat) (w : Watcher), d.site.watchers[k]? = some w ∧ w.generation = generation ∧
        (w.restart = none ∨ w.restart = some .stopping) ∧
        (w.gone = true → d.plugin.hub.stop.isUp = true)

/-- The watcher of the generation that is served is on duty. -/
theorem Manned.duty {d : Deployment} (hmanned : d.Manned) {k : Nat} {w : Watcher}
    (hw : d.site.watchers[k]? = some w) (hserving : d.plugin.serving = some w.generation) :
    k + 1 = d.site.watchers.length ∧ (w.restart = none ∨ w.restart = some .stopping) ∧
      (w.gone = true → d.plugin.hub.stop.isUp = true) := by
  obtain ⟨hlive, -, j, w', hw', hsame, hrestart, hgone⟩ := hmanned.served hserving
  have hlast : ∀ {i : Nat} {v : Watcher}, d.site.watchers[i]? = some v →
      v.generation = w.generation → i + 1 = d.site.watchers.length := by
    intro i v hv heq
    rcases hmanned.ended hv with hended | ⟨-, hlast⟩
    · rw [heq, hlive] at hended
      cases hended
    · exact hlast
  obtain rfl : k = j := by
    have hk := hlast hw rfl
    have hj := hlast hw' hsame
    omega
  obtain rfl : w = w' := Option.some.inj (hw.symm.trans hw')
  exact ⟨hlast hw rfl, hrestart, hgone⟩

/-- A watcher that is not that of the generation that is served has lost its generation. -/
theorem Manned.isTerminated_of_ne {d : Deployment} (hmanned : d.Manned) {k : Nat} {w : Watcher}
    (hw : d.site.watchers[k]? = some w) (hne : d.plugin.serving ≠ some w.generation) :
    d.plugin.hub.isTerminated w.generation = true :=
  (hmanned.ended hw).resolve_right fun hserved => hne hserved.1

/-! ### What keeps it so -/

/-- Watchers hear of changes, and the generations stay as they are. -/
theorem Manned.hears {d d' : Deployment} (hmanned : d.Manned)
    (hserving : d'.plugin.serving = d.plugin.serving)
    (hgenerations : d'.plugin.hub.generations = d.plugin.hub.generations)
    (hstop : d.plugin.hub.stop.isUp = true → d'.plugin.hub.stop.isUp = true)
    (hhears : d.site.Hears d'.site) : d'.Manned where
  known hw' := by
    obtain ⟨w, hw, hhear⟩ := hhears.heard hw'
    rw [hhear.generation, hgenerations]
    exact hmanned.known hw
  ended hw' := by
    obtain ⟨w, hw, hhear⟩ := hhears.heard hw'
    rw [hhear.generation, hserving, Hub.isTerminated_congr hgenerations, hhears.length]
    exact hmanned.ended hw
  served hg := by
    obtain ⟨hlive, hknown, k, w, hw, hgeneration, hrestart, hgone⟩ :=
      hmanned.served (hserving.symm.trans hg)
    obtain ⟨w', hw', hhear⟩ := hhears.hears hw
    rw [Hub.isTerminated_congr hgenerations, hgenerations]
    refine ⟨hlive, hknown, k, w', hw', hhear.generation.trans hgeneration, ?_, fun hgone' => ?_⟩
    · rw [hhear.restart]
      exact hrestart
    · exact hstop (hgone (hhear.gone.symm.trans hgone'))

/-- A watcher changes: where its generation is served, it stays on duty. -/
theorem Manned.onWatcher {d : Deployment} (hmanned : d.Manned) {k : Nat} {w : Watcher}
    (hw : d.site.watchers[k]? = some w) {f : Watcher → Watcher}
    (hgeneration : (f w).generation = w.generation)
    (hduty : d.plugin.serving = some w.generation →
      ((f w).restart = none ∨ (f w).restart = some .stopping) ∧
        ((f w).gone = true → d.plugin.hub.stop.isUp = true)) : (d.onWatcher k f).Manned := by
  have hlength : (d.onWatcher k f).site.watchers.length = d.site.watchers.length :=
    List.length_modify f d.site.watchers k
  have hself := watchers_onWatcher_self hw f
  have hothers := fun {j : Nat} (hne : k ≠ j) => watchers_onWatcher_of_ne d hne f
  -- Whoever is there afterwards was there, with the same generation.
  have hbefore : ∀ {j : Nat} {v : Watcher}, (d.onWatcher k f).site.watchers[j]? = some v →
      ∃ u, d.site.watchers[j]? = some u ∧ v.generation = u.generation := by
    intro j v hv
    by_cases hne : k = j
    · subst hne
      rw [hself] at hv
      cases hv
      exact ⟨w, hw, hgeneration⟩
    · exact ⟨v, (hothers hne).symm.trans hv, rfl⟩
  refine ⟨fun hv => ?_, fun hv => ?_, fun {g} hg => ?_⟩
  · obtain ⟨u, hu, heq⟩ := hbefore hv
    exact heq ▸ hmanned.known hu
  · obtain ⟨u, hu, heq⟩ := hbefore hv
    rw [hlength, heq]
    exact hmanned.ended hu
  · obtain ⟨hlive, hknown, j, v, hv, hsame, hrestart, hgone⟩ := hmanned.served hg
    refine ⟨hlive, hknown, ?_⟩
    by_cases hne : k = j
    · subst hne
      obtain rfl : w = v := Option.some.inj (hw.symm.trans hv)
      exact ⟨k, f w, hself, hgeneration.trans hsame, hduty (hsame.symm ▸ hg)⟩
    · exact ⟨j, v, (hothers hne).trans hv, hsame, hrestart, hgone⟩

/-- The generation that is served ends. -/
theorem Manned.withdraw {d d' : Deployment} (hmanned : d.Manned) {generation : Nat}
    (hserving : d.plugin.serving = some generation) (hfree : d'.plugin.serving = none)
    (hgenerations : d'.plugin.hub.generations =
      (d.plugin.hub.terminate generation).generations)
    (hsame : d'.site = d.site) : d'.Manned where
  known hw := by
    rw [hsame] at hw
    rw [hgenerations]
    simpa [Hub.terminate, Hub.signal] using hmanned.known hw
  ended hw := by
    rw [hsame] at hw
    refine .inl ?_
    rw [Hub.isTerminated_congr hgenerations]
    rcases hmanned.ended hw with hended | ⟨hserved, -⟩
    · exact Hub.isTerminated_terminate hended generation
    · obtain rfl := Option.some.inj (hserving.symm.trans hserved)
      exact Hub.isTerminated_terminate_self _ _
  served hg := by
    rw [hfree] at hg
    cases hg

/-- A start fails after a generation began, and ends it. -/
theorem Manned.attemptInVain {d : Deployment} (hmanned : d.Manned)
    (hfree : d.plugin.serving = none) {s : Site} (hhears : d.site.Hears s) :
    Manned { d with plugin := d.plugin.attemptInVain, site := s } where
  known hw' := by
    obtain ⟨w, hw, hhear⟩ := hhears.heard hw'
    have hknown := hmanned.known hw
    rw [hhear.generation]
    simp only [Instance.attemptInVain, Hub.terminate, Hub.signal, Hub.renew, List.length_modify,
      List.length_append, List.length_singleton]
    omega
  ended hw' := by
    obtain ⟨w, hw, hhear⟩ := hhears.heard hw'
    have hended := hmanned.isTerminated_of_ne hw (by simp [hfree])
    rw [hhear.generation]
    refine .inl (Hub.isTerminated_terminate ?_ _)
    rw [Hub.isTerminated_renew_of_lt (hmanned.known hw), hended]
  served hg := by
    have hnone : d.plugin.attemptInVain.serving = none := hfree
    rw [hnone] at hg
    cases hg

/-- A start serves the generation that it began, and its watcher is the last. -/
theorem Manned.serveNext {d : Deployment} (hmanned : d.Manned) (hfree : d.plugin.serving = none)
    {s : Site} (hhears : d.site.Hears s) :
    Manned { d with plugin := d.plugin.serveNext, site := d.plugin.watchNext s } := by
  have hgenerations : d.plugin.serveNext.hub.generations = d.plugin.hub.renew.generations := rfl
  have hserving : d.plugin.serveNext.serving = some d.plugin.hub.generations.length := rfl
  have hrenewed := d.plugin.hub.isTerminated_renew_self
  have hlast : (d.plugin.watchNext s).watchers[s.watchers.length]? =
      some (s.watcherFor d.plugin d.plugin.hub.generations.length) := by
    simp [Instance.watchNext]
  -- A watcher is an old one or the new one.
  have hcases : ∀ {k : Nat} {w : Watcher}, (d.plugin.watchNext s).watchers[k]? = some w →
      (∃ v, d.site.watchers[k]? = some v ∧ w.generation = v.generation) ∨
        k = s.watchers.length ∧ w.generation = d.plugin.hub.generations.length := by
    intro k w hw
    rcases Instance.watchNext_cases hw with hold | ⟨hk, rfl⟩
    · obtain ⟨v, hv, hhear⟩ := hhears.heard hold
      exact .inl ⟨v, hv, hhear.generation⟩
    · exact .inr ⟨hk, rfl⟩
  refine ⟨fun hw => ?_, fun hw => ?_, fun {g} hg => ?_⟩
  · have hlength : d.plugin.serveNext.hub.generations.length =
        d.plugin.hub.generations.length + 1 := by simp [hgenerations, Hub.renew]
    dsimp only
    rw [hlength]
    rcases hcases hw with ⟨v, hv, heq⟩ | ⟨-, heq⟩
    · have := hmanned.known hv
      omega
    · omega
  · dsimp only
    rw [Hub.isTerminated_congr hgenerations, hserving]
    rcases hcases hw with ⟨v, hv, heq⟩ | ⟨rfl, heq⟩
    · rw [heq, Hub.isTerminated_renew_of_lt (hmanned.known hv)]
      exact .inl (hmanned.isTerminated_of_ne hv (by simp [hfree]))
    · exact .inr ⟨by rw [heq], by simp [Instance.watchNext]⟩
  · obtain rfl : d.plugin.hub.generations.length = g := Option.some.inj hg
    refine ⟨(Hub.isTerminated_congr hgenerations _).trans hrenewed, ?_, _, _, hlast, rfl,
      .inl rfl, by simp [Site.watcherFor]⟩
    simp [hgenerations, Hub.renew]

/-- A start, whatever it leads to. -/
theorem Manned.starts {d : Deployment} (hmanned : d.Manned) {s : Site} {p : Instance}
    {result : Except PluginError Unit} (hstarts : d.plugin.Starts d.site (s, p, result)) :
    Manned { d with plugin := p, site := s } := by
  cases hstarts with
  | refused hhears => exact hmanned.hears rfl rfl id hhears
  | failed hfree hhears => exact hmanned.attemptInVain hfree hhears
  | served hfree hhears => exact hmanned.serveNext hfree hhears

/-- A watcher whose restart is past its stop is not on duty. -/
theorem Manned.serving_ne {d : Deployment} (hmanned : d.Manned) {k : Nat} {w : Watcher}
    (hw : d.site.watchers[k]? = some w) {phase : RestartPhase} (hphase : w.restart = some phase)
    (hpast : phase ≠ .stopping) : d.plugin.serving ≠ some w.generation := by
  intro hserving
  obtain ⟨-, hrestart, -⟩ := hmanned.duty hw hserving
  rcases hrestart with hnone | hstopping
  · rw [hphase] at hnone
    cases hnone
  · rw [hphase] at hstopping
    exact hpast (Option.some.inj hstopping)

/-- A step of a restart keeps the watchers on duty, and its own watcher is not. -/
theorem Manned.steps {d : Deployment} (hmanned : d.Manned) {k : Nat} {w : Watcher}
    (hw : d.site.watchers[k]? = some w) {phase next : RestartPhase}
    (hphase : w.restart = some phase) {s : Site} {p : Instance}
    (hsteps : phase.Steps d.plugin d.site (s, p, next)) :
    Manned { d with plugin := p, site := s } ∧ p.serving ≠ some w.generation := by
  have hpast := fun hne => hmanned.serving_ne hw hphase hne
  cases hsteps with
  | skip hfree =>
    exact ⟨hmanned.hears rfl rfl id (Site.hears_of_eq rfl), by simp [Instance.countRestart, hfree]⟩
  | stop hserving =>
    exact ⟨hmanned.withdraw hserving rfl rfl rfl, by simp [Instance.withdraw]⟩
  | clear hhears => exact ⟨hmanned.hears rfl rfl id hhears, hpast (by simp)⟩
  | fail hhears => exact ⟨hmanned.hears rfl rfl id hhears, hpast (by simp)⟩
  | giveUp hstop =>
    exact ⟨hmanned.hears rfl rfl id (Site.hears_of_eq rfl), hpast (by simp)⟩
  | attempt hstarts =>
    refine ⟨hmanned.starts hstarts, ?_⟩
    cases hstarts with
    | refused hhears => exact hpast (by simp)
    | failed hfree hhears => simp [Instance.attemptInVain, hfree]
    | served hfree hhears =>
      -- The new generation comes after that of the watcher.
      have hknown := hmanned.known hw
      intro heq
      have : d.plugin.hub.generations.length = w.generation := Option.some.inj heq
      omega

/-- A turn of a watcher keeps the watchers on duty. -/
theorem Manned.turn {d d' : Deployment} (hmanned : d.Manned) {k : Nat} {w : Watcher}
    (hw : d.site.watchers[k]? = some w) (hthere : w.gone = false) (hturn : Turn d k w d') :
    d'.Manned := by
  cases hturn with
  | go hend =>
    refine hmanned.onWatcher hw rfl fun hserving => ?_
    obtain ⟨-, hrestart, -⟩ := hmanned.duty hw hserving
    refine ⟨hrestart, fun _ => ?_⟩
    obtain ⟨hlive, -⟩ := hmanned.served hserving
    -- The watcher on duty goes only because the plugin is to stop.
    rcases hrestart with hnone | hstopping
    · cases hpending : w.pending <;> simp [MayGo, hnone, hpending, Hub.isOver, hlive] at hend
      exact hend
    · simp [MayGo, hstopping] at hend
  | @handOn e rest h hfree hpending hlive hoffer =>
    obtain ⟨-, rfl⟩ := Hub.offer?_eq_some_iff.1 hoffer
    have hmanned' : (d.onHub fun h =>
        { h with queue := some e, accepted := h.accepted ++ [e] }).Manned :=
      hmanned.hears rfl rfl id (Site.hears_of_eq rfl)
    refine hmanned'.onWatcher hw rfl fun hserving => ⟨.inl hfree, fun hgone => ?_⟩
    rw [hthere] at hgone
    cases hgone
  | @look e rest hfree hpending hinbox hlive =>
    have hgone : (look d.site.tree w e rest).gone = true → d.plugin.hub.stop.isUp = true := by
      rcases look_cases d.site.tree w e rest with hlook | hlook <;> simp [hlook, hthere]
    rcases look_cases d.site.tree w e rest with hlook | hlook
    · exact hmanned.onWatcher hw (by rw [hlook]) fun _ => ⟨.inr (by rw [hlook]), hgone⟩
    · exact hmanned.onWatcher hw (by rw [hlook]) fun _ => ⟨.inl (by rw [hlook, hfree]), hgone⟩
  | restart hphase hsteps =>
    obtain ⟨hmanned', hne⟩ := hmanned.steps hw hphase hsteps
    obtain ⟨-, -, -, -, hgrows⟩ := hsteps.effect
    obtain ⟨w', hw', hhear⟩ := hgrows.hears hw
    refine hmanned'.onWatcher hw' rfl fun hserving => ?_
    rw [hhear.generation] at hserving
    exact absurd hserving hne

/-- **Every move keeps the last watcher on duty.** -/
theorem Manned.move? {d d' : Deployment} {m : DeploymentMove} (hmanned : d.Manned)
    (hmove : d.move? m = some d') : d'.Manned := by
  cases acts_of_move? hmove with
  | hub hgoes =>
    refine hmanned.hears rfl hgoes.generations (fun hup => ?_) (Site.hears_of_eq rfl)
    rcases hgoes.stop with hsame | hraised
    · exact hsame ▸ hup
    · simp [onHub, hraised, Signal.isUp]
  | site hhears => exact hmanned.hears rfl rfl id hhears
  | start hstarts => exact hmanned.starts hstarts
  | beginStop hserving => exact hmanned.withdraw hserving rfl rfl rfl
  | endStop hhears hsame =>
    rcases hsame with rfl | rfl
    · exact hmanned.hears rfl rfl id hhears
    · exact hmanned.hears rfl rfl id hhears
  | turn hw hthere hturn => exact hmanned.turn hw hthere hturn
  | resume hw hthere hphase =>
    refine hmanned.onWatcher hw rfl fun hserving => ?_
    exact absurd hserving (hmanned.serving_ne hw hphase (by simp))

/-- **After every run of a deployment without watchers the last watcher is on duty.** -/
theorem manned_run? {d₀ d : Deployment} {moves : List DeploymentMove}
    (hidle : d₀.plugin.serving = none) (hunwatched : d₀.site.watchers = [])
    (hrun : d₀.run? moves = some d) : d.Manned := by
  have hstart : d₀.Manned := by
    refine ⟨fun hw => ?_, fun hw => ?_, fun hserving => ?_⟩
    · simp [hunwatched] at hw
    · simp [hunwatched] at hw
    · simp [hidle] at hserving
  exact run?_induction (P := fun _ d => d.Manned) hstart (fun _ hmanned hmove => hmanned.move? hmove)
    hrun

/-! ### The watcher on duty -/

/-- **What a move during a generation does to the watcher on duty**, and to the events that the queue
has accepted. -/
inductive Minds (d d' : Deployment) (w : Watcher) : Watcher → Prop
  /-- It hears of changes, or nothing happens to it. -/
  | hears {w' : Watcher} (haccepted : d'.plugin.hub.accepted = d.plugin.hub.accepted)
      (hhears : w.Hears w') : Minds d d' w w'
  /-- It hands a health event on. -/
  | handsOn {e : HealthEvent} {rest : List HealthEvent} (hpending : w.pending = e :: rest)
      (haccepted : d'.plugin.hub.accepted = d.plugin.hub.accepted ++ [e]) :
      Minds d d' w { w with pending := rest }
  /-- It looks at a report. -/
  | looks {e : FileEvent} {rest : List FileEvent} (hpending : w.pending = [])
      (hinbox : w.inbox = e :: rest)
      (haccepted : d'.plugin.hub.accepted = d.plugin.hub.accepted) :
      Minds d d' w (look d.site.tree w e rest)

/-- A step of a restart during a generation is none that ends or begins one. -/
theorem hears_of_steps {p p' : Instance} {s s' : Site} {phase next : RestartPhase}
    {generation : Nat} (hserving : p.serving = some generation)
    (hserving' : p'.serving = some generation) (hsteps : phase.Steps p s (s', p', next)) :
    phase ≠ .stopping ∧ s.Hears s' ∧ p'.hub.accepted = p.hub.accepted := by
  cases hsteps with
  | skip hfree => simp [hfree] at hserving
  | stop _ => simp [Instance.withdraw] at hserving'
  | clear hhears => exact ⟨by simp, hhears, rfl⟩
  | fail hhears => exact ⟨by simp, hhears, rfl⟩
  | giveUp _ => exact ⟨by simp, Site.hears_of_eq rfl, rfl⟩
  | attempt hstarts =>
    cases hstarts with
    | refused hhears => exact ⟨by simp, hhears, rfl⟩
    | failed hfree _ => simp [hfree] at hserving
    | served hfree _ => simp [hfree] at hserving

/-- Nobody but the watcher on duty is of a generation that has not ended. -/
theorem Manned.eq_of_live {d : Deployment} (hmanned : d.Manned) {j k : Nat} {v w : Watcher}
    (hw : d.site.watchers[k]? = some w) (hserving : d.plugin.serving = some w.generation)
    (hv : d.site.watchers[j]? = some v)
    (hlive : d.plugin.hub.isTerminated v.generation = false) : j = k := by
  obtain ⟨hk, -⟩ := hmanned.duty hw hserving
  rcases hmanned.ended hv with hended | ⟨-, hj⟩
  · rw [hlive] at hended
    cases hended
  · omega

/-- A turn during a generation. -/
theorem minds_of_turn {d d' : Deployment} (hmanned : d.Manned) {j k : Nat} {v w : Watcher}
    (hw : d.site.watchers[k]? = some w) (hserving : d.plugin.serving = some w.generation)
    (hserving' : d'.plugin.serving = some w.generation)
    (hstop : d'.plugin.hub.stop.isUp = false) (hv : d.site.watchers[j]? = some v)
    (hthere : v.gone = false) (hturn : Turn d j v d') :
    ∃ w', d'.site.watchers[k]? = some w' ∧ Minds d d' w w' := by
  have hmanned' := hmanned.turn hv hthere hturn
  by_cases hsame : j = k
  · subst hsame
    obtain rfl : w = v := Option.some.inj (hw.symm.trans hv)
    cases hturn with
    | go hend =>
      -- The watcher on duty would be gone, although the plugin is not to stop.
      obtain ⟨-, -, hgone⟩ := hmanned'.duty (watchers_onWatcher_self hw _) hserving'
      rw [hgone rfl] at hstop
      cases hstop
    | handOn hfree hpending hlive hoffer =>
      obtain ⟨-, rfl⟩ := Hub.offer?_eq_some_iff.1 hoffer
      exact ⟨_, watchers_onWatcher_self hw _, .handsOn hpending rfl⟩
    | look hfree hpending hinbox hlive =>
      exact ⟨_, watchers_onWatcher_self hw _, .looks hpending hinbox rfl⟩
    | restart hphase hsteps =>
      obtain ⟨hpast, -⟩ := hears_of_steps hserving hserving' hsteps
      exact absurd hserving (hmanned.serving_ne hw hphase hpast)
  · have hended : d.plugin.hub.isTerminated v.generation = true := by
      cases hlive : d.plugin.hub.isTerminated v.generation with
      | true => rfl
      | false => exact absurd (hmanned.eq_of_live hw hserving hv hlive) hsame
    cases hturn with
    | go hend =>
      exact ⟨w, (watchers_onWatcher_of_ne d hsame _).trans hw, .hears rfl (.refl w)⟩
    | handOn hfree hpending hlive hoffer =>
      rw [hlive] at hended
      cases hended
    | look hfree hpending hinbox hlive =>
      simp [Hub.isOver, hended] at hlive
    | restart hphase hsteps =>
      obtain ⟨-, hhears, haccepted⟩ := hears_of_steps hserving hserving' hsteps
      obtain ⟨w', hw', hhear⟩ := hhears.hears hw
      exact ⟨w', (watchers_onWatcher_of_ne _ hsame _).trans hw', .hears haccepted hhear⟩

/-- **A move during a generation**, of a plugin that is not to stop. -/
theorem minds_of_move? {d d' : Deployment} {m : DeploymentMove} (hmanned : d.Manned)
    (hmove : d.move? m = some d') {k : Nat} {w : Watcher} (hw : d.site.watchers[k]? = some w)
    (hserving : d.plugin.serving = some w.generation)
    (hserving' : d'.plugin.serving = some w.generation)
    (hstop : d'.plugin.hub.stop.isUp = false) :
    ∃ w', d'.site.watchers[k]? = some w' ∧ Minds d d' w w' := by
  have hheard : ∀ {s : Site} {p : Instance} {stopping : Nat}, d.site.Hears s →
      p.hub.accepted = d.plugin.hub.accepted →
      ∃ w', s.watchers[k]? = some w' ∧ Minds d ⟨p, s, stopping⟩ w w' := by
    intro s p stopping hhears haccepted
    obtain ⟨w', hw', hhear⟩ := hhears.hears hw
    exact ⟨w', hw', .hears haccepted hhear⟩
  cases acts_of_move? hmove with
  | hub hgoes => exact ⟨w, hw, .hears hgoes.accepted (.refl w)⟩
  | site hhears => exact hheard hhears rfl
  | start hstarts =>
    cases hstarts with
    | refused hhears => exact hheard hhears rfl
    | failed hfree _ => simp [hfree] at hserving
    | served hfree _ => simp [hfree] at hserving
  | beginStop _ => simp [Instance.withdraw] at hserving'
  | endStop hhears hsame =>
    rcases hsame with rfl | rfl
    · exact hheard hhears rfl
    · exact hheard hhears rfl
  | turn hv hthere hturn =>
    exact minds_of_turn hmanned hw hserving hserving' hstop hv hthere hturn
  | @resume j left v e hv hthere hphase =>
    have hne : j ≠ k := by
      rintro rfl
      obtain rfl : w = v := Option.some.inj (hw.symm.trans hv)
      exact hmanned.serving_ne hw hphase (by simp) hserving
    exact ⟨w, (watchers_onWatcher_of_ne d hne _).trans hw, .hears rfl (.refl w)⟩

/-! ### How a generation begins -/

/-- **A generation begins**: a watcher comes that has nothing to do, and no event is accepted. -/
def Begins (d d' : Deployment) (generation : Nat) : Prop :=
  d.plugin.serving = none ∧ d'.plugin.hub.accepted = d.plugin.hub.accepted ∧
    ∃ w, d'.site.watchers[d.site.watchers.length]? = some w ∧ w.generation = generation ∧
      w.restart = none ∧ w.pending = [] ∧ w.inbox = []

/-- A start lets the plugin serve as before, or a generation begins. -/
theorem serving_or_begins_of_starts {d : Deployment} {s : Site} {p : Instance}
    {result : Except PluginError Unit} (hstarts : d.plugin.Starts d.site (s, p, result))
    {generation : Nat} (hserving : p.serving = some generation) :
    d.plugin.serving = some generation ∨
      Begins d { d with plugin := p, site := s } generation := by
  cases hstarts with
  | refused _ => exact .inl hserving
  | failed hfree _ => simp [Instance.attemptInVain, hfree] at hserving
  | @served s' hfree hhears =>
    obtain rfl : d.plugin.hub.generations.length = generation := Option.some.inj hserving
    have hlast : (d.plugin.watchNext s').watchers[d.site.watchers.length]? =
        some (s'.watcherFor d.plugin d.plugin.hub.generations.length) := by
      simp [Instance.watchNext, ← hhears.length]
    exact .inr ⟨hfree, rfl, _, hlast, rfl, rfl, rfl, rfl⟩

/-- **A move lets the plugin serve as before, or a generation begins.** -/
theorem serving_or_begins_of_move? {d d' : Deployment} {m : DeploymentMove}
    (hmove : d.move? m = some d') {generation : Nat}
    (hserving : d'.plugin.serving = some generation) :
    d.plugin.serving = some generation ∨ Begins d d' generation := by
  cases acts_of_move? hmove with
  | hub _ | site _ => exact .inl hserving
  | start hstarts => exact serving_or_begins_of_starts hstarts hserving
  | beginStop _ => simp [Instance.withdraw] at hserving
  | endStop _ hsame =>
    rcases hsame with rfl | rfl
    · exact .inl hserving
    · exact .inl hserving
  | resume _ _ _ => exact .inl hserving
  | @turn k w _ hw _ hturn =>
    cases hturn with
    | go _ => exact .inl hserving
    | look _ _ _ _ => exact .inl hserving
    | handOn _ _ _ _ => exact .inl hserving
    | restart _ hsteps =>
      cases hsteps with
      | skip hfree => simp [onWatcher, Instance.countRestart, hfree] at hserving
      | stop _ => simp [onWatcher, Instance.withdraw] at hserving
      | clear _ => exact .inl hserving
      | fail _ => exact .inl hserving
      | giveUp _ => exact .inl hserving
      | attempt hstarts =>
        rcases serving_or_begins_of_starts hstarts hserving with
          hserved | ⟨hfree, haccepted, v, hv, hall⟩
        · exact .inl hserved
        · -- The watcher that comes is not the one that restarts the plugin.
          have hne : k ≠ d.site.watchers.length :=
            Nat.ne_of_lt (List.getElem?_eq_some_iff.1 hw).1
          exact .inr ⟨hfree, haccepted, v, (watchers_onWatcher_of_ne _ hne _).trans hv, hall⟩

/-- A plugin that is not to stop was not to stop before. -/
theorem isUp_of_move? {d d' : Deployment} {m : DeploymentMove} (hmove : d.move? m = some d')
    (hstop : d'.plugin.hub.stop.isUp = false) : d.plugin.hub.stop.isUp = false := by
  rcases stop_of_move? hmove with hsame | hraised
  · rwa [hsame] at hstop
  · simp [hraised, Signal.isUp] at hstop

end Deployment

end GpuPassthrough
