import GpuPassthrough.Lifecycle.Run
import GpuPassthrough.Proofs.Lifecycle.Starts
import GpuPassthrough.Proofs.Session.Step

/-!
# What a Move of a Deployment Does

The moves of a deployment, said once: sessions and clients change the hub, others change the site or
end a generation, and a watcher takes its turn by the rules of `Turn`. An invariant of all runs is
then a short case analysis over `Acts`.

## Main results

* `turn_of_advanceWatcher?`: a watcher takes its turn by the rules of `Turn`.
* `acts_of_move?`: every move is one of `Acts`.
* `stop_of_move?`: nothing lowers the signal to stop.
* `run?_induction`: what holds at the start and is kept by every move, holds after every run.
-/

namespace GpuPassthrough

/-! ### The hub between generations -/

/-- An event is put into a queue that is empty. -/
theorem Hub.offer?_eq_some_iff {h h' : Hub} {e : HealthEvent} :
    h.offer? e = some h' ↔
      h.queue = none ∧ h' = { h with queue := some e, accepted := h.accepted ++ [e] } := by
  cases hqueue : h.queue with
  | some other => simp [offer?, hqueue]
  | none => simp [offer?, hqueue, eq_comm]

/-- **A hub goes on within its generations**: a session moves, or something happens outside that
neither offers an event nor begins or ends a generation. The signal to stop may be raised. -/
structure Hub.GoesOn (h h' : Hub) : Prop where
  moves : (∃ i s, h.sessions[i]? = some s ∧ h.Advances i s h') ∨
    ∃ m : HubMove, m.offered = [] ∧ h.Outside m h'
  stop : h'.stop = h.stop ∨ h'.stop = { h.stop with raised := true }
  generations : h'.generations = h.generations

namespace Hub.GoesOn

/-- No event is accepted. -/
theorem accepted {h h' : Hub} (hgoes : h.GoesOn h') : h'.accepted = h.accepted := by
  rcases hgoes.moves with ⟨i, s, -, hadv⟩ | ⟨m, hoffered, hout⟩
  · exact hadv.kept.2
  · rw [hout.accepted, hoffered, List.append_nil]

/-- A session that moves. -/
theorem advance {h h' : Hub} {i : Nat} (hadv : h.advance? i = some h') : h.GoesOn h' := by
  obtain ⟨s, hs, hadvances⟩ := advances_of_advance? hadv
  exact ⟨.inl ⟨i, s, hs, hadvances⟩, .inl hadvances.signals.1, hadvances.signals.2⟩

/-- A client that comes. -/
theorem connect (h : Hub) (generation : Nat) : h.GoesOn (h.connect generation) :=
  ⟨.inr ⟨_, rfl, outside_connect h generation⟩, .inl rfl, rfl⟩

/-- A client that reads. -/
theorem read {h h' : Hub} {i : Nat} {list : List AdvertisedUnit}
    (hread : h.read? i = some (list, h')) : h.GoesOn h' := by
  have hout := outside_read hread
  simp only [read?, Option.bind_eq_bind, Option.bind_eq_some_iff] at hread
  obtain ⟨s, -, hread⟩ := hread
  split at hread
  · cases hread
  · obtain ⟨first, -, hfirst⟩ := Option.bind_eq_some_iff.1 hread
    cases hfirst
    exact ⟨.inr ⟨_, rfl, hout⟩, .inl rfl, rfl⟩

/-- A client that goes away. -/
theorem disconnect (h : Hub) (i : Nat) : h.GoesOn (h.disconnect i) :=
  ⟨.inr ⟨.disconnect i, rfl, outside_update (f := fun s => { s with closed := true })
    (fun _ => rfl) (fun _ => rfl) h i rfl⟩, .inl rfl, rfl⟩

/-- A client that asks for units. -/
theorem allocate (h : Hub) (granted : Bool) : h.GoesOn (h.countAllocation granted) :=
  ⟨.inr ⟨.allocate granted, rfl, outside_signals h h.stop h.generations _ rfl fun _ _ =>
    Metrics.value_increment_of_ne _ (by simp)⟩, .inl rfl, rfl⟩

/-- The signal to stop is raised. -/
theorem halt (h : Hub) : h.GoesOn h.halt :=
  ⟨.inr ⟨.halt, rfl, outside_signals h _ h.generations h.metrics rfl fun _ _ => rfl⟩, .inr rfl, rfl⟩

end Hub.GoesOn

namespace Deployment

/-! ### Turns of a watcher -/

/-- Whether a watcher may go: its restart is finished, or one of the signals that it looks at is up.
With health events in hand it looks at the signal of its generation only. -/
def MayGo (d : Deployment) (w : Watcher) : Prop :=
  match w.restart, w.pending with
  | some phase, _ => ∃ result, phase = .finished result
  | none, _ :: _ => d.plugin.hub.isTerminated w.generation = true
  | none, [] => d.plugin.hub.isOver w.generation = true

/-- A look at a report begins a restart or leads to health events. -/
theorem look_cases (t : FileTree) (w : Watcher) (e : FileEvent) (rest : List FileEvent) :
    look t w e rest = { w with inbox := rest, restart := some .stopping } ∨
      look t w e rest = { w with inbox := rest, pending := w.targets.healthEvents t e } := by
  by_cases hrestart : WatchAction.restart ∈ w.targets.classify t e
  · exact .inl (by rw [look, if_pos hrestart])
  · exact .inr (by rw [look, if_neg hrestart]; rfl)

/-- **The turn of watcher `k`**, which is `w`. -/
inductive Turn (d : Deployment) (k : Nat) (w : Watcher) : Deployment → Prop
  /-- It goes. -/
  | go (hend : d.MayGo w) : Turn d k w (d.onWatcher k fun w => { w with gone := true })
  /-- It hands a health event on. -/
  | handOn {e : HealthEvent} {rest : List HealthEvent} {h : Hub} (hfree : w.restart = none)
      (hpending : w.pending = e :: rest) (hlive : d.plugin.hub.isTerminated w.generation = false)
      (hoffer : d.plugin.hub.offer? e = some h) :
      Turn d k w ((d.onHub fun _ => h).onWatcher k fun w => { w with pending := rest })
  /-- It looks at a report. -/
  | look {e : FileEvent} {rest : List FileEvent} (hfree : w.restart = none)
      (hpending : w.pending = []) (hinbox : w.inbox = e :: rest)
      (hlive : d.plugin.hub.isOver w.generation = false) :
      Turn d k w (d.onWatcher k fun w => look d.site.tree w e rest)
  /-- Its restart goes on. -/
  | restart {phase next : RestartPhase} {s : Site} {p : Instance} (hphase : w.restart = some phase)
      (hsteps : phase.Steps d.plugin d.site (s, p, next)) :
      Turn d k w (onWatcher { d with plugin := p, site := s } k fun w =>
        { w with restart := some next })

/-- A restart that is not finished goes on by its steps. -/
theorem turn_of_advanceRestart? {d d' : Deployment} {k : Nat} {w : Watcher} {phase : RestartPhase}
    (hphase : w.restart = some phase) (hadv : d.advanceRestart? k phase = some d') :
    Turn d k w d' := by
  have hsteps : ∀ {phase}, w.restart = some phase →
      (phase.step? (Site.host d.plugin) d.plugin d.site).bind (fun next =>
        some (onWatcher { d with plugin := next.2.1, site := next.1 } k fun w =>
          { w with restart := some next.2.2 })) = some d' → Turn d k w d' := by
    intro phase hphase hbind
    obtain ⟨⟨s, p, next⟩, hstep, hnext⟩ := Option.bind_eq_some_iff.1 hbind
    cases hnext
    exact .restart hphase (RestartPhase.steps_of_step? hstep)
  cases phase with
  | finished result =>
    cases hadv
    exact .go (by simp [MayGo, hphase])
  | _ => exact hsteps hphase hadv

/-- Every turn follows one of the rules. -/
theorem turn_of_advanceWatcher? {d d' : Deployment} {k : Nat}
    (hadv : d.advanceWatcher? k = some d') :
    ∃ w, d.site.watchers[k]? = some w ∧ w.gone = false ∧ Turn d k w d' := by
  unfold advanceWatcher? at hadv
  obtain ⟨w, hw, hadv⟩ := Option.bind_eq_some_iff.1 hadv
  refine ⟨w, hw, ?_⟩
  by_cases hgone : w.gone = true
  · simp [hgone] at hadv
  rw [if_neg hgone] at hadv
  refine ⟨by simpa using hgone, ?_⟩
  cases hrestart : w.restart with
  | some phase =>
    simp only [hrestart] at hadv
    exact turn_of_advanceRestart? hrestart hadv
  | none =>
    cases hpending : w.pending with
    | cons e rest =>
      simp only [hrestart, hpending] at hadv
      split at hadv
      · next hend =>
        cases hadv
        exact .go (by simpa [MayGo, hrestart, hpending] using hend)
      · next hlive =>
        obtain ⟨h, hoffer, rfl⟩ := Option.map_eq_some_iff.1 hadv
        exact .handOn hrestart hpending (by simpa using hlive) hoffer
    | nil =>
      simp only [hrestart, hpending] at hadv
      split at hadv
      · next hend =>
        cases hadv
        exact .go (by simpa [MayGo, hrestart, hpending] using hend)
      · next hlive =>
        cases hinbox : w.inbox with
        | nil => simp [hinbox] at hadv
        | cons e rest =>
          simp only [hinbox] at hadv
          cases hadv
          exact .look hrestart hpending hinbox (by simpa using hlive)

/-! ### Moves -/

/-- **What a move of a deployment does.** -/
inductive Acts (d : Deployment) : DeploymentMove → Deployment → Prop
  /-- The hub goes on. -/
  | hub {m : DeploymentMove} {h : Hub} (hgoes : d.plugin.hub.GoesOn h) :
      Acts d m (d.onHub fun _ => h)
  /-- The site changes, and the watchers hear of it. -/
  | site {m : DeploymentMove} {s : Site} (hhears : d.site.Hears s) : Acts d m { d with site := s }
  /-- The plugin is started. -/
  | start {s : Site} {p : Instance} {result : Except PluginError Unit}
      (hstarts : d.plugin.Starts d.site (s, p, result)) :
      Acts d .start { d with plugin := p, site := s }
  /-- The generation that is served ends. -/
  | beginStop {generation : Nat} (hserving : d.plugin.serving = some generation) :
      Acts d .beginStop ⟨d.plugin.withdraw generation, d.site, d.stopping + 1⟩
  /-- A stop clears up. -/
  | endStop {s : Site} {p : Instance} (hhears : d.site.Hears s)
      (hsame : p = d.plugin ∨ p = d.plugin.gauge 0) : Acts d .endStop ⟨p, s, d.stopping - 1⟩
  /-- A watcher takes its turn. -/
  | turn {k : Nat} {w : Watcher} {d' : Deployment} (hw : d.site.watchers[k]? = some w)
      (hthere : w.gone = false) (hturn : Turn d k w d') : Acts d (.watcher k) d'
  /-- The pause of a restart ends. -/
  | resume {k left : Nat} {w : Watcher} {e : PluginError} (hw : d.site.watchers[k]? = some w)
      (hthere : w.gone = false) (hphase : w.restart = some (.pausing left e)) :
      Acts d (.resume k)
        (d.onWatcher k fun w => { w with restart := some (RestartPhase.pausing left e).resume })

/-- A change of a watcher is told by what it makes of this watcher. -/
theorem onWatcher_congr {d : Deployment} {k : Nat} {w : Watcher}
    (hw : d.site.watchers[k]? = some w) {f g : Watcher → Watcher} (hsame : f w = g w) :
    d.onWatcher k f = d.onWatcher k g := by
  have hwatchers : d.site.watchers.modify k f = d.site.watchers.modify k g := by
    refine List.ext_getElem? fun j => ?_
    rw [List.getElem?_modify, List.getElem?_modify]
    by_cases hj : k = j
    · subst hj
      simp [hw, hsame]
    · simp [hj]
  rw [onWatcher, onWatcher, hwatchers]

/-- The watcher that is changed. -/
theorem watchers_onWatcher_self {d : Deployment} {k : Nat} {w : Watcher}
    (hw : d.site.watchers[k]? = some w) (f : Watcher → Watcher) :
    (d.onWatcher k f).site.watchers[k]? = some (f w) := by
  simp [onWatcher, hw]

/-- The other watchers. -/
theorem watchers_onWatcher_of_ne (d : Deployment) {k j : Nat} (hne : k ≠ j)
    (f : Watcher → Watcher) : (d.onWatcher k f).site.watchers[j]? = d.site.watchers[j]? := by
  simp [onWatcher, hne]

/-- The change of a site that succeeded. -/
theorem acts_of_succeeded {d d' : Deployment} {m : DeploymentMove} {s : Site}
    {result : Except IoFailure Unit} (hhears : d.site.Hears s)
    (hsucceeded : succeeded? ({ d with site := s }, result) = some d') : Acts d m d' := by
  cases result with
  | error cause => cases hsucceeded
  | ok _ => cases hsucceeded; exact .site hhears

/-- The end of a pause. -/
theorem acts_resume {d d' : Deployment} {k : Nat} (hresume : d.resume? k = some d') :
    Acts d (.resume k) d' := by
  unfold resume? at hresume
  obtain ⟨w, hw, hresume⟩ := Option.bind_eq_some_iff.1 hresume
  split at hresume
  · next hpauses =>
    cases hresume
    obtain ⟨hthere, hpauses⟩ := Bool.and_eq_true_iff.1 hpauses
    cases hrestart : w.restart with
    | none => simp [hrestart] at hpauses
    | some phase =>
      cases phase with
      | pausing left e =>
        rw [onWatcher_congr (g := fun w =>
          { w with restart := some (RestartPhase.pausing left e).resume }) hw (by simp [hrestart])]
        exact .resume hw (by simpa using hthere) hrestart
      | _ => simp [hrestart, RestartPhase.isPausing] at hpauses
  · cases hresume

/-- **Every move is one of these.** -/
theorem acts_of_move? {d d' : Deployment} {m : DeploymentMove} (hmove : d.move? m = some d') :
    Acts d m d' := by
  cases m with
  | session i =>
    obtain ⟨h, hadv, rfl⟩ := Option.map_eq_some_iff.1 hmove
    exact .hub (.advance hadv)
  | watcher k =>
    obtain ⟨w, hw, hthere, hturn⟩ := turn_of_advanceWatcher? hmove
    exact .turn hw hthere hturn
  | resume k => exact acts_resume hmove
  | connect =>
    simp only [move?, connect?] at hmove
    split at hmove
    · split at hmove
      · cases hmove; exact .hub (.connect _ _)
      · cases hmove
    · cases hmove
  | read i =>
    obtain ⟨⟨list, h⟩, hread, rfl⟩ := Option.map_eq_some_iff.1 hmove
    exact .hub (.read hread)
  | disconnect i => cases hmove; exact .hub (.disconnect _ i)
  | allocate request => cases hmove; exact .hub (.allocate _ _)
  | start => cases hmove; exact .start (d.plugin.starts_start d.site)
  | beginStop =>
    cases hmove
    cases hserving : d.plugin.serving with
    | none =>
      have hidle : d.beginStop = d := by simp [beginStop, Instance.withdraw?, hserving]
      rw [hidle]
      exact .site (Site.hears_of_eq rfl)
    | some generation =>
      have hstopped : d.beginStop =
          ⟨d.plugin.withdraw generation, d.site, d.stopping + 1⟩ := by
        simp [beginStop, Instance.withdraw?, Instance.withdraw, hserving]
      rw [hstopped]
      exact .beginStop hserving
  | endStop =>
    simp only [move?] at hmove
    split at hmove
    · cases hmove
    · rcases d.plugin.clearUp_cases d.plugin d.site with
        ⟨s, e, hhears, hclear⟩ | ⟨s, hhears, hclear⟩ <;>
        simp only [endStop, hclear, Option.some.injEq] at hmove <;> subst hmove
      · exact .endStop hhears (.inl rfl)
      · exact .endStop hhears (.inr rfl)
  | halt => cases hmove; exact .hub (.halt _)
  | createNode name => exact acts_of_succeeded (d.site.hears_makeFile _) hmove
  | removeNode name => exact acts_of_succeeded (d.site.hears_remove _) hmove
  | removeSocket => exact acts_of_succeeded (d.site.hears_remove _) hmove
  | startKubelet => cases hmove; exact .site d.site.hears_startKubelet
  | stopKubelet => cases hmove; exact .site d.site.hears_stopKubelet
  | refuse times reason => cases hmove; exact .site (Site.hears_of_eq rfl)

/-- After a stop has begun the plugin does not serve. -/
theorem serving_beginStop (d : Deployment) : d.beginStop.plugin.serving = none := by
  cases hserving : d.plugin.serving with
  | none => simp [beginStop, Instance.withdraw?, hserving]
  | some generation => simp [beginStop, Instance.withdraw?, hserving]

/-- A stop keeps the signal to stop. -/
theorem stop_beginStop (d : Deployment) : d.beginStop.plugin.hub.stop = d.plugin.hub.stop := by
  cases hserving : d.plugin.serving with
  | none => simp [beginStop, Instance.withdraw?, hserving]
  | some generation =>
    simp [beginStop, Instance.withdraw?, hserving, Hub.terminate, Hub.signal]

/-- A stop changes nothing at the site when it begins. -/
theorem site_beginStop (d : Deployment) : d.beginStop.site = d.site := by
  cases hserving : d.plugin.serving with
  | none => simp [beginStop, Instance.withdraw?, hserving]
  | some generation => simp [beginStop, Instance.withdraw?, hserving]

/-- **A move leaves the signal to stop alone, or raises it.** -/
theorem stop_of_move? {d d' : Deployment} {m : DeploymentMove} (hmove : d.move? m = some d') :
    d'.plugin.hub.stop = d.plugin.hub.stop ∨
      d'.plugin.hub.stop = { d.plugin.hub.stop with raised := true } := by
  cases acts_of_move? hmove with
  | hub hgoes => exact hgoes.stop
  | site _ | beginStop _ | resume _ _ _ => exact .inl rfl
  | start hstarts => exact .inl hstarts.stop_eq
  | endStop _ hsame =>
    rcases hsame with rfl | rfl
    · exact .inl rfl
    · exact .inl rfl
  | turn _ _ hturn =>
    cases hturn with
    | go _ | look _ _ _ _ => exact .inl rfl
    | handOn _ _ _ hoffer =>
      obtain ⟨-, rfl⟩ := Hub.offer?_eq_some_iff.1 hoffer
      exact .inl rfl
    | restart _ hsteps =>
      obtain ⟨-, hsame, -⟩ := hsteps.effect
      exact .inl hsame

/-- What holds at the start and is kept by every move, holds after every run. -/
theorem run?_induction {d₀ : Deployment} {P : List DeploymentMove → Deployment → Prop}
    (hstart : P [] d₀)
    (hstep : ∀ {moves d m d'}, d₀.run? moves = some d → P moves d → d.move? m = some d' →
      P (moves ++ [m]) d') {moves : List DeploymentMove} {d : Deployment}
    (hrun : d₀.run? moves = some d) : P moves d := by
  induction moves using List.reverseRecOn generalizing d with
  | nil => cases hrun; exact hstart
  | append_singleton moves m ih =>
    rw [run?_append] at hrun
    obtain ⟨d', hbefore, hlast⟩ := Option.bind_eq_some_iff.1 hrun
    obtain ⟨d'', hmove, hend⟩ := Option.bind_eq_some_iff.1 hlast
    cases hend
    exact hstep hbefore (ih hbefore) hmove

/-! ### On the way of a run -/

/-- **A run passes a deployment** of some kind, at its start, between its moves or at its end. -/
def Passes (d : Deployment) (moves : List DeploymentMove) (P : Deployment → Prop) : Prop :=
  ∃ before now, before <+: moves ∧ d.run? before = some now ∧ P now

/-- A run without moves passes its start. -/
theorem passes_nil {d : Deployment} {P : Deployment → Prop} : d.Passes [] P ↔ P d := by
  constructor
  · rintro ⟨before, now, hprefix, hbefore, hnow⟩
    obtain rfl := List.prefix_nil.1 hprefix
    cases hbefore
    exact hnow
  · intro hd
    exact ⟨[], d, List.prefix_refl [], rfl, hd⟩

/-- A run passes its start and what it passes after its first move. -/
theorem passes_cons {d d' : Deployment} {m : DeploymentMove} {moves : List DeploymentMove}
    {P : Deployment → Prop} (hmove : d.move? m = some d') :
    d.Passes (m :: moves) P ↔ P d ∨ d'.Passes moves P := by
  constructor
  · rintro ⟨before, now, hprefix, hbefore, hnow⟩
    rcases List.prefix_cons_iff.1 hprefix with rfl | ⟨rest, rfl, hrest⟩
    · cases hbefore
      exact .inl hnow
    · rw [run?_cons, hmove] at hbefore
      exact .inr ⟨rest, now, hrest, hbefore, hnow⟩
  · rintro (hd | ⟨before, now, hprefix, hbefore, hnow⟩)
    · exact ⟨[], d, List.nil_prefix, rfl, hd⟩
    · refine ⟨m :: before, now, (List.prefix_cons_inj m).2 hprefix, ?_, hnow⟩
      rw [run?_cons, hmove]
      exact hbefore

/-- A run passes what it passes before its last move and its end. -/
theorem passes_concat {d d' d'' : Deployment} {moves : List DeploymentMove} {m : DeploymentMove}
    {P : Deployment → Prop} (hrun : d.run? moves = some d') (hmove : d'.move? m = some d'') :
    d.Passes (moves ++ [m]) P ↔ d.Passes moves P ∨ P d'' := by
  induction moves generalizing d with
  | nil =>
    cases hrun
    rw [List.nil_append, passes_cons hmove, passes_nil, passes_nil]
  | cons first moves ih =>
    obtain ⟨d₁, hfirst, hthen⟩ := Option.bind_eq_some_iff.1 hrun
    rw [List.cons_append, passes_cons hfirst, passes_cons hfirst, ih hthen, or_assoc]

/-- A run passes its end. -/
theorem passes_of_end {d d' : Deployment} {moves : List DeploymentMove} {P : Deployment → Prop}
    (hrun : d.run? moves = some d') (hend : P d') : d.Passes moves P :=
  ⟨moves, d', List.prefix_refl moves, hrun, hend⟩

/-! ### A small deployment -/

/-- A plugin for one unit, whose node is there; the kubelet is down. -/
def single : Deployment where
  plugin := {
    config := { pluginDirectory := "/plugins" }
    snapshot := { handles := false }
    deviceRoot := "/vfio"
    timeout := 5000
    hub := .fresh "pgpu" (AdvertisedUnit.allHealthy ["1"]) {} {} }
  site := {
    tree := {
      entries := [([.text "plugins"], .directory), ([.text "vfio"], .directory),
        ([.text "vfio", .text "1"], .file (.text ""))]
      workingDirectory := [] }
    kubelet := { socketPath := "/plugins/kubelet.sock" } }

end Deployment

end GpuPassthrough
