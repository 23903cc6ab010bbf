import GpuPassthrough.Lifecycle.Site
import GpuPassthrough.Proofs.Watch.Reports

/-!
# What a Start Does

A start, the clearing up after a stop and the steps of a restart at a site, said once, so that no
later proof opens them again. Whatever the plugin asks of its site, the watchers that are there only
hear of changes; a start that succeeds begins a generation and adds a watcher for it, and one that
fails has ended the generation that it began.

## Main results

* `Instance.starts_start`: a start is refused, fails or serves.
* `Instance.clearUp_cases`: clearing up fails or sets the gauge.
* `RestartPhase.goes_of_step?`: the six ways in which a restart goes on.
* `RestartPhase.steps_of_step?`: a restart goes on by the rules of `RestartPhase.Steps`.
-/

namespace GpuPassthrough

/-! ### Hearing -/

/-- **A watcher hears of changes**: plain reports come in, and otherwise only the places that it
watches change. -/
structure Watcher.Hears (w w' : Watcher) : Prop where
  generation : w'.generation = w.generation
  targets : w'.targets = w.targets
  pending : w'.pending = w.pending
  restart : w'.restart = w.restart
  gone : w'.gone = w.gone
  inbox : ∃ news, w'.inbox = w.inbox ++ news ∧ ∀ e ∈ news, e.IsPlain

namespace Watcher.Hears

/-- A watcher that hears nothing. -/
@[refl] theorem refl (w : Watcher) : w.Hears w :=
  ⟨rfl, rfl, rfl, rfl, rfl, [], (List.append_nil _).symm, by simp⟩

/-- A watcher hears of one change after another. -/
theorem trans {w w' w'' : Watcher} (hfirst : w.Hears w') (hthen : w'.Hears w'') :
    w.Hears w'' where
  generation := hthen.generation.trans hfirst.generation
  targets := hthen.targets.trans hfirst.targets
  pending := hthen.pending.trans hfirst.pending
  restart := hthen.restart.trans hfirst.restart
  gone := hthen.gone.trans hfirst.gone
  inbox := by
    obtain ⟨news, hnews, hplain⟩ := hfirst.inbox
    obtain ⟨news', hnews', hplain'⟩ := hthen.inbox
    refine ⟨news ++ news', by rw [hnews', hnews, List.append_assoc], fun e he => ?_⟩
    exact (List.mem_append.1 he).elim (hplain e) (hplain' e)

end Watcher.Hears

/-- A watcher that is told of a change hears of it. -/
theorem Watcher.hears_hear (w : Watcher) {change : FileChange}
    (hchange : change = .created ∨ change = .removed) (spot : Location) :
    w.Hears (w.hear change spot) := by
  have hplain : ∀ paths : List String, ∀ e ∈ paths.map fun path => (⟨change, [path]⟩ : FileEvent),
      e.IsPlain := by
    intro paths e he
    obtain ⟨path, -, rfl⟩ := List.mem_map.1 he
    exact ⟨hchange, path, rfl⟩
  unfold hear
  split
  · exact .refl w
  · split
    · exact ⟨rfl, rfl, rfl, rfl, rfl, _, rfl, hplain _⟩
    · exact ⟨rfl, rfl, rfl, rfl, rfl, _, rfl, hplain _⟩

namespace Site

/-- **The watchers of a site hear of changes**, whatever else changes there. -/
structure Hears (s s' : Site) : Prop where
  length : s'.watchers.length = s.watchers.length
  hears : ∀ {k : Nat} {w : Watcher}, s.watchers[k]? = some w →
    ∃ w', s'.watchers[k]? = some w' ∧ w.Hears w'

/-- A watcher that is there afterwards was there and heard of the changes. -/
theorem Hears.heard {s s' : Site} (hhears : s.Hears s') {k : Nat} {w' : Watcher}
    (hw' : s'.watchers[k]? = some w') : ∃ w, s.watchers[k]? = some w ∧ w.Hears w' := by
  have hk : k < s.watchers.length := hhears.length ▸ (List.getElem?_eq_some_iff.1 hw').1
  obtain ⟨w'', hw'', hhear⟩ := hhears.hears (List.getElem?_eq_getElem hk)
  obtain rfl : w'' = w' := Option.some.inj (hw''.symm.trans hw')
  exact ⟨_, List.getElem?_eq_getElem hk, hhear⟩

/-- Where the watchers stay as they are, they hear nothing. -/
theorem hears_of_eq {s s' : Site} (h : s'.watchers = s.watchers) : s.Hears s' where
  length := by rw [h]
  hears {k w} hw := ⟨w, h ▸ hw, .refl w⟩

/-- Watchers hear of one change after another. -/
theorem Hears.trans {s s' s'' : Site} (hfirst : s.Hears s') (hthen : s'.Hears s'') :
    s.Hears s'' where
  length := hthen.length.trans hfirst.length
  hears hw := by
    obtain ⟨w', hw', hhear⟩ := hfirst.hears hw
    obtain ⟨w'', hw'', hhear'⟩ := hthen.hears hw'
    exact ⟨w'', hw'', hhear.trans hhear'⟩

/-- The watchers of a site hear of changes, and new ones may come. -/
def Grows (s s' : Site) : Prop :=
  ∃ s₀ new, s.Hears s₀ ∧ s'.watchers = s₀.watchers ++ new ∧
    ∀ w ∈ new, w.gone = false ∧ w.restart = none

/-- Watchers that hear of changes are as many as before. -/
theorem Hears.grows {s s' : Site} (hhears : s.Hears s') : s.Grows s' :=
  ⟨s', [], hhears, (List.append_nil _).symm, by simp⟩

/-- A watcher that was there hears of the changes, whoever comes. -/
theorem Grows.hears {s s' : Site} (hgrows : s.Grows s') {k : Nat} {w : Watcher}
    (hw : s.watchers[k]? = some w) : ∃ w', s'.watchers[k]? = some w' ∧ w.Hears w' := by
  obtain ⟨s₀, new, hhears, hwatchers, -⟩ := hgrows
  obtain ⟨w', hw', hhear⟩ := hhears.hears hw
  refine ⟨w', ?_, hhear⟩
  rw [hwatchers, List.getElem?_append_left (List.getElem?_eq_some_iff.1 hw').1, hw']

/-- A change of the tree that is reported. -/
theorem hears_report (s : Site) (t : FileTree) {change : FileChange}
    (hchange : change = .created ∨ change = .removed) (spot : Location) :
    s.Hears ({ s with tree := t }.report change spot) where
  length := by simp [report]
  hears {k w} hw :=
    ⟨w.hear change spot, by simp [report, hw], w.hears_hear hchange spot⟩

/-- Watchers hear of a removal. -/
theorem hears_remove (s : Site) (path : String) : s.Hears (s.remove path).1 := by
  unfold remove
  split
  · exact s.hears_report _ (.inr rfl) _
  · exact hears_of_eq rfl
  · exact hears_of_eq rfl

/-- Watchers hear of a new file. -/
theorem hears_makeFile (s : Site) (path : String) : s.Hears (s.makeFile path).1 := by
  unfold makeFile
  split
  · dsimp only
    split
    · exact hears_of_eq rfl
    · exact s.hears_report _ (.inl rfl) _
  · exact hears_of_eq rfl
  · exact hears_of_eq rfl

/-- Watchers hear of a new socket. -/
theorem hears_bind (s : Site) (path : String) : s.Hears (s.bind path).1 := by
  unfold bind
  split
  · exact s.hears_report _ (.inl rfl) _
  · exact hears_of_eq rfl
  · exact hears_of_eq rfl

/-- Watchers hear of a kubelet that comes up. -/
theorem hears_startKubelet (s : Site) : s.Hears s.startKubelet := by
  have hremove := s.hears_remove s.kubelet.socketPath
  rw [startKubelet]
  generalize s.remove s.kubelet.socketPath = gone at hremove ⊢
  exact (hremove.trans (gone.1.hears_bind _)).trans (hears_of_eq rfl)

/-- Watchers hear of a kubelet that goes down. -/
theorem hears_stopKubelet (s : Site) : s.Hears s.stopKubelet :=
  (s.hears_remove _).trans (hears_of_eq rfl)

end Site

/-! ### Starting and clearing up -/

namespace Instance

/-- Taking the socket away is heard of. -/
theorem hears_clearSocket (p q : Instance) (s : Site) :
    s.Hears (clearSocket (Site.host p) q s).1 := by
  have hremove : s.Hears (s.remove p.socketPath).1 := s.hears_remove p.socketPath
  simp only [clearSocket, Site.host]
  split <;> next heq => rw [heq] at hremove; exact hremove

/-- An instance that serves a new generation, whose units are counted. -/
def serveNext (p : Instance) : Instance :=
  ({ p with serving := some p.hub.generations.length, hub := p.hub.renew } : Instance).gauge
    p.hub.units.length

/-- An instance that began a generation and ended it at once. -/
def attemptInVain (p : Instance) : Instance :=
  { p with hub := p.hub.renew.terminate p.hub.generations.length }

/-- The site with a watcher for the next generation of an instance. -/
def watchNext (p : Instance) (s : Site) : Site :=
  { s with watchers := s.watchers ++ [s.watcherFor p p.hub.generations.length] }

/-- A watcher was there or is the one for the next generation. -/
theorem watchNext_cases {p : Instance} {s : Site} {k : Nat} {w : Watcher}
    (hw : (p.watchNext s).watchers[k]? = some w) : s.watchers[k]? = some w ∨
      k = s.watchers.length ∧ w = s.watcherFor p p.hub.generations.length := by
  simp only [watchNext, List.getElem?_append] at hw
  split at hw
  · exact .inl hw
  · next hk =>
    obtain ⟨hlast, rfl⟩ : k - s.watchers.length = 0 ∧
        w = s.watcherFor p p.hub.generations.length := by
      simpa [List.getElem?_singleton, eq_comm] using hw
    exact .inr ⟨by omega, rfl⟩

/-- **What a start leads to.** -/
inductive Starts (p : Instance) (s : Site) : Site × Instance × Except PluginError Unit → Prop
  /-- It is refused, or fails before a generation begins. -/
  | refused {s' : Site} {e : PluginError} (hhears : s.Hears s') : Starts p s (s', p, .error e)
  /-- It fails after a generation began. -/
  | failed {s' : Site} {e : PluginError} (hfree : p.serving = none) (hhears : s.Hears s') :
      Starts p s (s', p.attemptInVain, .error e)
  /-- It serves the generation that began. -/
  | served {s' : Site} (hfree : p.serving = none) (hhears : s.Hears s') :
      Starts p s (p.watchNext s', p.serveNext, .ok ())

/-- A start leaves the signal to stop alone. -/
theorem Starts.stop_eq {p p' : Instance} {s s' : Site} {result : Except PluginError Unit}
    (hstarts : p.Starts s (s', p', result)) : p'.hub.stop = p.hub.stop := by
  cases hstarts <;> rfl

/-- Registering is heard of by the kubelet only. -/
theorem hears_register (p : Instance) (s : Site) : s.Hears ((Site.host p).register s).1 := by
  simp only [Site.host]
  split
  · exact Site.hears_of_eq rfl
  · split
    · exact Site.hears_of_eq rfl
    · exact Site.hears_of_eq rfl

/-- What is announced is heard of at most by the kubelet, and then watched. -/
theorem announce_cases (p q : Instance) (generation : Nat) (s : Site) :
    (∃ s' e, s.Hears s' ∧ announce (Site.host p) generation q s = (s', .error e)) ∨
      ∃ s', s.Hears s' ∧ announce (Site.host p) generation q s =
        ({ s' with watchers := s'.watchers ++ [s'.watcherFor p generation] }, .ok ()) := by
  have hprobe : ∃ result, (Site.host p).probe s = (s, result) := ⟨_, rfl⟩
  have hhears := hears_register p s
  obtain ⟨result, hprobe⟩ := hprobe
  rw [announce, hprobe]
  cases result with
  | error reason => exact .inl ⟨s, _, Site.hears_of_eq rfl, rfl⟩
  | ok _ =>
    rcases hregister : (Site.host p).register s with ⟨s', reason | _⟩ <;> rw [hregister] at hhears
    · exact .inl ⟨s', .registrationFailed q.resource reason, hhears, by simp only [hregister]⟩
    · exact .inr ⟨s', hhears, by simp only [hregister]; rfl⟩

/-- **A start is refused, fails or serves.** -/
theorem starts_start (p : Instance) (s : Site) : Starts p s (start (Site.host p) p s) := by
  cases hserving : p.serving with
  | some generation =>
    rw [start_of_serving (by simp [hserving])]
    exact .refused (Site.hears_of_eq rfl)
  | none =>
    have hclear := hears_clearSocket p p s
    rw [start, hserving, Option.isSome_none, if_neg Bool.false_ne_true]
    rcases hcleared : clearSocket (Site.host p) p s with ⟨s₁, e | _⟩ <;> rw [hcleared] at hclear
    · exact .refused hclear
    · have hbind : s₁.Hears ((Site.host p).bindSocket s₁).1 := s₁.hears_bind p.socketPath
      dsimp only
      rcases hbound : (Site.host p).bindSocket s₁ with ⟨s₂, cause | _⟩ <;> rw [hbound] at hbind
      · exact .refused (hclear.trans hbind)
      · dsimp only
        rw [serve]
        rcases announce_cases p { p with hub := p.hub.renew } p.hub.generations.length s₂ with
          ⟨s₃, e, hhears, hannounce⟩ | ⟨s₃, hhears, hannounce⟩ <;> simp only [hannounce]
        · have hagain := hears_clearSocket p p.attemptInVain s₃
          have hall := ((hclear.trans hbind).trans hhears).trans hagain
          rcases hcleared : clearSocket (Site.host p) p.attemptInVain s₃ with ⟨s₄, e' | _⟩ <;>
            rw [hcleared] at hall <;>
            simp only [attemptInVain] at hcleared <;>
            simp only [hcleared] <;>
            exact .failed hserving hall
        · exact .served hserving ((hclear.trans hbind).trans hhears)

/-- Clearing up fails, or sets the gauge. -/
theorem clearUp_cases (p q : Instance) (s : Site) :
    (∃ s' e, s.Hears s' ∧ q.clearUp (Site.host p) s = (s', q, .error e)) ∨
      ∃ s', s.Hears s' ∧ q.clearUp (Site.host p) s = (s', q.gauge 0, .ok ()) := by
  have hclear := hears_clearSocket p q s
  rw [clearUp]
  rcases hcleared : clearSocket (Site.host p) q s with ⟨s', e | _⟩ <;> rw [hcleared] at hclear
  · exact .inl ⟨s', e, hclear, rfl⟩
  · exact .inr ⟨s', hclear, rfl⟩

/-- An instance whose restart is counted. -/
def countRestart (p : Instance) : Instance :=
  { p with hub :=
    { p.hub with metrics := p.hub.metrics.increment (.pluginRestarts p.className) } }

/-- An instance whose generation has ended. -/
def withdraw (p : Instance) (generation : Nat) : Instance :=
  { p with serving := none, hub := p.hub.terminate generation }

end Instance

/-! ### The steps of a restart -/

namespace RestartPhase

/-- **How a restart goes on.** -/
inductive Goes {W : Type} (host : Host W) (p : Instance) (w : W) :
    RestartPhase → W × Instance × RestartPhase → Prop
  /-- There is nothing to stop. -/
  | skip (hfree : p.serving = none) :
      Goes host p w .stopping (w, p.countRestart, .attempting (attempts - 1))
  /-- The generation that is served is withdrawn. -/
  | withdraw {generation : Nat} (hserving : p.serving = some generation) :
      Goes host p w .stopping (w, p.countRestart.withdraw generation, .clearing)
  /-- The stop has cleared up. -/
  | clear {w' : W} {p' : Instance} (hclear : p.clearUp host w = (w', p', .ok ())) :
      Goes host p w .clearing (w', p', .attempting (attempts - 1))
  /-- The stop could not clear up. -/
  | fail {w' : W} {p' : Instance} {e : PluginError}
      (hclear : p.clearUp host w = (w', p', .error e)) :
      Goes host p w .clearing (w', p', .finished (.error e))
  /-- An attempt was made. -/
  | attempt {left : Nat} {w' : W} {p' : Instance} {result : Except PluginError Unit}
      (hstart : p.start host w = (w', p', result)) :
      Goes host p w (.attempting left) (w', p', afterAttempt left p'.hub.stop.raised result)
  /-- The signal to stop the plugin ends a pause. -/
  | giveUp {left : Nat} {e : PluginError} (hup : p.hub.stop.isUp = true) :
      Goes host p w (.pausing left e) (w, p, .finished (.error e))

/-- **A restart goes on in one of six ways.** -/
theorem goes_of_step? {W : Type} {host : Host W} {p : Instance} {w : W} {phase : RestartPhase}
    {outcome : W × Instance × RestartPhase} (hstep : phase.step? host p w = some outcome) :
    Goes host p w phase outcome := by
  cases phase with
  | stopping =>
    simp only [step?] at hstep
    split at hstep
    · next hnone =>
      obtain rfl := Option.some.inj hstep
      exact .skip (Option.map_eq_none_iff.1 hnone)
    · next hsome =>
      obtain ⟨generation, hserving, rfl⟩ := Option.map_eq_some_iff.1 hsome
      obtain rfl := Option.some.inj hstep
      exact .withdraw hserving
  | clearing =>
    rcases hclear : p.clearUp host w with ⟨w', p', e | _⟩ <;>
      simp only [step?, hclear, Option.some.injEq] at hstep <;> obtain rfl := hstep
    · exact .fail hclear
    · exact .clear hclear
  | attempting left =>
    obtain rfl := Option.some.inj hstep
    exact .attempt rfl
  | pausing left e =>
    simp only [step?] at hstep
    split at hstep
    · next hup =>
      obtain rfl := Option.some.inj hstep
      exact .giveUp hup
    · cases hstep
  | finished result => cases hstep

/-- **How a restart goes on** at a site. -/
inductive Steps (p : Instance) (s : Site) : RestartPhase → Site × Instance × RestartPhase → Prop
  /-- There is nothing to stop. -/
  | skip (hfree : p.serving = none) :
      Steps p s .stopping (s, p.countRestart, .attempting (attempts - 1))
  /-- It ends the generation that is served. -/
  | stop {generation : Nat} (hserving : p.serving = some generation) :
      Steps p s .stopping (s, p.countRestart.withdraw generation, .clearing)
  /-- It clears up after the stop. -/
  | clear {s' : Site} (hhears : s.Hears s') :
      Steps p s .clearing (s', p.gauge 0, .attempting (attempts - 1))
  /-- It cannot clear up. -/
  | fail {s' : Site} {e : PluginError} (hhears : s.Hears s') :
      Steps p s .clearing (s', p, .finished (.error e))
  /-- It starts the instance, or tries to. -/
  | attempt {left : Nat} {s' : Site} {p' : Instance} {result : Except PluginError Unit}
      (hstarts : p.Starts s (s', p', result)) :
      Steps p s (.attempting left) (s', p', afterAttempt left p'.hub.stop.raised result)
  /-- It ends in a pause, since the instance is to stop. -/
  | giveUp {left : Nat} {e : PluginError} (hstop : p.hub.stop.isUp = true) :
      Steps p s (.pausing left e) (s, p, .finished (.error e))

/-- **A restart goes on by the rules.** -/
theorem steps_of_step? {p : Instance} {s : Site} {phase : RestartPhase}
    {next : Site × Instance × RestartPhase}
    (hstep : phase.step? (Site.host p) p s = some next) : Steps p s phase next := by
  cases goes_of_step? hstep with
  | skip hfree => exact .skip hfree
  | withdraw hserving => exact .stop hserving
  | clear hclear =>
    obtain ⟨s', e, -, hends⟩ | ⟨s', hhears, hends⟩ := p.clearUp_cases p s <;>
      cases hends.symm.trans hclear
    exact .clear hhears
  | fail hclear =>
    obtain ⟨s', e, hhears, hends⟩ | ⟨s', -, hends⟩ := p.clearUp_cases p s <;>
      cases hends.symm.trans hclear
    exact .fail hhears
  | attempt hstart => exact .attempt (hstart ▸ p.starts_start s)
  | giveUp hup => exact .giveUp hup

/-- A restart goes on with a pause after a failure, if it may try again; else it returns. -/
theorem afterAttempt_cases (left : Nat) (stopping : Bool) (result : Except PluginError Unit) :
    afterAttempt left stopping result = .finished result ∧
        (result = .ok () ∨ left = 0 ∨ stopping = true) ∨
      ∃ e, result = .error e ∧ stopping = false ∧ 0 < left ∧
        afterAttempt left stopping result = .pausing left e := by
  cases result with
  | ok _ => exact .inl ⟨rfl, .inl rfl⟩
  | error e =>
    cases left with
    | zero => exact .inl ⟨rfl, .inr (.inl rfl)⟩
    | succ left =>
      cases stopping with
      | true => exact .inl ⟨rfl, .inr (.inr rfl)⟩
      | false => exact .inr ⟨e, rfl, rfl, Nat.succ_pos left, rfl⟩

/-- An attempt ends a restart well exactly if it succeeds. -/
theorem afterAttempt_eq_finished_ok {left : Nat} {stopping : Bool}
    {result : Except PluginError Unit} :
    afterAttempt left stopping result = finished (.ok ()) ↔ result = .ok () := by
  obtain ⟨hfinished, -⟩ | ⟨e, rfl, -, -, hpausing⟩ := afterAttempt_cases left stopping result
  · rw [hfinished, finished.injEq]
  · rw [hpausing]
    exact iff_of_false nofun nofun

/-- What a step of a restart does to the signal to stop, to the server and to the watchers. -/
theorem Steps.effect {p p' : Instance} {s s' : Site} {phase next : RestartPhase}
    (hsteps : phase.Steps p s (s', p', next)) :
    phase.result? = none ∧ p'.hub.stop = p.hub.stop ∧
      (p'.serving.isSome = true → p.serving.isSome = true ∨ next = .finished (.ok ())) ∧
      (next = .finished (.ok ()) → p'.serving.isSome = true) ∧ s.Grows s' := by
  cases hsteps with
  | skip hfree => exact ⟨rfl, rfl, .inl, by simp, (Site.hears_of_eq rfl).grows⟩
  | stop hserving =>
    exact ⟨rfl, rfl, by simp [Instance.withdraw], by simp, (Site.hears_of_eq rfl).grows⟩
  | clear hhears => exact ⟨rfl, rfl, .inl, by simp, hhears.grows⟩
  | fail hhears => exact ⟨rfl, rfl, .inl, by simp, hhears.grows⟩
  | giveUp hstop => exact ⟨rfl, rfl, .inl, by simp, (Site.hears_of_eq rfl).grows⟩
  | attempt hstarts =>
    refine ⟨rfl, hstarts.stop_eq, ?_⟩
    rw [afterAttempt_eq_finished_ok]
    cases hstarts with
    | refused hhears => exact ⟨.inl, by simp, hhears.grows⟩
    | failed hfree hhears =>
      exact ⟨by simp [Instance.attemptInVain, hfree], by simp, hhears.grows⟩
    | served hfree hhears =>
      refine ⟨fun _ => .inr rfl, fun _ => rfl, _, _, hhears, rfl, ?_⟩
      simp [Site.watcherFor]

end RestartPhase

end GpuPassthrough
