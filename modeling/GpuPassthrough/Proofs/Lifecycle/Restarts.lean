import GpuPassthrough.Proofs.Lifecycle.Turns
import GpuPassthrough.Proofs.Session.Client

/-!
# Restarts That Are Begun

A restart is begun by a watcher on duty: one that is there, restarts nothing and minds no signal. It
begins when the watcher looks at a report that its socket was removed, and it is counted when it goes
on to stop the plugin. Nothing else counts a restart or begins one.

## Main results

* `restart_mem_classify_iff`: a report asks for a restart exactly if it is an alarm.
* `restarts_of_move?`: only a watcher counts a restart.
* `begun_of_move?`: only a watcher on duty that looks at an alarm begins a restart.
-/

namespace GpuPassthrough

/-! ### Restarts that are counted -/

/-- How often a restart of the plugin was counted. -/
def Hub.restarts (h : Hub) : Nat := h.metrics.value (.pluginRestarts h.className)

/-- A session that moves counts no restart. -/
theorem Hub.Advances.restarts {h h' : Hub} {i : Nat} {s : Session} (hadv : h.Advances i s h') :
    h'.restarts = h.restarts := by
  rcases hadv.applies_or with ⟨-, -, hmetrics⟩ | ⟨e, -, rfl⟩
  · rw [Hub.restarts, Hub.restarts, hmetrics, hadv.kept.1]
  · show (if e.concerns h.units then h.metrics.increment _ else h.metrics).value _ = _
    split
    · exact Metrics.value_increment_of_ne _ (by simp)
    · rfl

namespace Instance

/-- Setting the gauge counts no restart. -/
@[simp] theorem restarts_gauge (p : Instance) (n : Nat) :
    (p.gauge n).hub.restarts = p.hub.restarts :=
  Metrics.value_set_of_ne _ (by simp) n

/-- A restart is counted once. -/
@[simp] theorem restarts_countRestart (p : Instance) :
    p.countRestart.hub.restarts = p.hub.restarts + 1 :=
  Metrics.value_increment_self _ _

/-- A start counts no restart. -/
theorem Starts.restarts {p p' : Instance} {s s' : Site} {result : Except PluginError Unit}
    (hstarts : p.Starts s (s', p', result)) : p'.hub.restarts = p.hub.restarts := by
  cases hstarts with
  | refused _ => rfl
  | failed _ _ => rfl
  | served _ _ => exact restarts_gauge _ _

/-- A start lets the watchers that are there hear of changes. -/
theorem Starts.grows {p p' : Instance} {s s' : Site} {result : Except PluginError Unit}
    (hstarts : p.Starts s (s', p', result)) : s.Grows s' := by
  cases hstarts with
  | refused hhears => exact hhears.grows
  | failed _ hhears => exact hhears.grows
  | served _ hhears => exact ⟨_, _, hhears, rfl, by simp [Site.watcherFor]⟩

end Instance

/-- A restart that is under way is counted when it begins to stop the plugin, and then only. -/
theorem RestartPhase.Steps.restarts {p p' : Instance} {s s' : Site} {phase next : RestartPhase}
    (hsteps : phase.Steps p s (s', p', next)) :
    phase = .stopping ∧ p'.hub.restarts = p.hub.restarts + 1 ∨
      phase ≠ .stopping ∧ p'.hub.restarts = p.hub.restarts := by
  cases hsteps with
  | skip _ | stop _ => exact .inl ⟨rfl, p.restarts_countRestart⟩
  | clear _ => exact .inr ⟨by simp, p.restarts_gauge 0⟩
  | fail _ | giveUp _ => exact .inr ⟨by simp, rfl⟩
  | attempt hstarts => exact .inr ⟨by simp, hstarts.restarts⟩

/-- No step of a restart leads back to its beginning. -/
theorem RestartPhase.Steps.next_ne {p p' : Instance} {s s' : Site} {phase next : RestartPhase}
    (hsteps : phase.Steps p s (s', p', next)) : next ≠ .stopping := by
  cases hsteps with
  | @attempt left s' p' result hstarts =>
    obtain ⟨hfinished, -⟩ | ⟨e, -, -, -, hpausing⟩ :=
      afterAttempt_cases left p'.hub.stop.raised result
    · rw [hfinished]
      exact nofun
    · rw [hpausing]
      exact nofun
  | _ => simp

namespace Watcher

/-- Whether a watcher has begun a restart that is not counted yet. -/
def isAboutToRestart (w : Watcher) : Bool :=
  match w.restart with
  | some .stopping => !w.gone
  | _ => false

/-- A restart that is past its beginning is counted. -/
theorem isAboutToRestart_of_ne {w : Watcher} {phase : RestartPhase}
    (hphase : w.restart = some phase) (hne : phase ≠ .stopping) : w.isAboutToRestart = false := by
  rw [isAboutToRestart, hphase]
  cases phase with
  | stopping => exact absurd rfl hne
  | _ => rfl

/-- Whether a report tells a watcher that the socket was removed. -/
def isAlarm (w : Watcher) (e : FileEvent) : Bool :=
  decide (e.change = .removed) && e.paths.any fun path => decide (SamePath path w.targets.socket)

/-- How many reports that a watcher has to look at tell it that the socket was removed. -/
def alarms (w : Watcher) : Nat := w.inbox.countP w.isAlarm

/-- The alarms of a watcher are told by what it has heard and what it looks for. -/
theorem alarms_congr {w w' : Watcher} (hinbox : w'.inbox = w.inbox)
    (htargets : w'.targets = w.targets) : w'.alarms = w.alarms := by
  have halarm : w'.isAlarm = w.isAlarm := by
    funext e
    rw [isAlarm, isAlarm, htargets]
  rw [alarms, alarms, hinbox, halarm]

/-- A report asks for a restart exactly if it tells that the socket was removed. -/
theorem restart_mem_classify_iff {w : Watcher} {t : FileTree} {e : FileEvent} :
    WatchAction.restart ∈ w.targets.classify t e ↔ w.isAlarm e = true := by
  rw [WatchTargets.restart_mem_classify_iff]
  simp [isAlarm]

end Watcher

/-- A watcher that hears of changes is about to restart the plugin if it was. -/
theorem Watcher.Hears.isAboutToRestart {w w' : Watcher} (hhears : w.Hears w') :
    w'.isAboutToRestart = w.isAboutToRestart := by
  rw [Watcher.isAboutToRestart, Watcher.isAboutToRestart, hhears.restart, hhears.gone]

/-- What is counted after a change of one element. -/
theorem countP_modify {α : Type} {p : α → Bool} {f : α → α} {list : List α} {k : Nat} {a : α}
    (ha : list[k]? = some a) :
    (list.modify k f).countP p + (p a).toNat = list.countP p + (p (f a)).toNat := by
  induction list generalizing k with
  | nil => simp at ha
  | cons b rest ih =>
    cases k with
    | zero =>
      obtain rfl : b = a := by simpa using ha
      cases hb : p b <;> cases hfb : p (f b) <;> simp [List.modify, hb, hfb]
    | succ k =>
      have hrest := ih (k := k) (by simpa using ha)
      simp only [List.modify_succ_cons, List.countP_cons]
      omega

namespace Site

/-- How many watchers have begun a restart that is not counted yet. -/
def restartsAhead (s : Site) : Nat := s.watchers.countP Watcher.isAboutToRestart

/-- What watchers hear begins no restart. -/
theorem Hears.restartsAhead {s s' : Site} (hhears : s.Hears s') :
    s'.restartsAhead = s.restartsAhead := by
  have hmap : s'.watchers.map Watcher.isAboutToRestart =
      s.watchers.map Watcher.isAboutToRestart := by
    refine List.ext_getElem? fun k => ?_
    rw [List.getElem?_map, List.getElem?_map]
    cases hw' : s'.watchers[k]? with
    | some w' =>
      obtain ⟨w, hw, hhear⟩ := hhears.heard hw'
      rw [hw, Option.map_some, Option.map_some, hhear.isAboutToRestart]
    | none =>
      have hw : s.watchers[k]? = none :=
        List.getElem?_eq_none (hhears.length ▸ List.getElem?_eq_none_iff.1 hw')
      rw [hw, Option.map_none]
  have hcount := congrArg (List.countP id) hmap
  rw [Site.restartsAhead, Site.restartsAhead]
  simpa only [List.countP_map, Function.id_comp] using hcount

/-- New watchers have begun no restart. -/
theorem Grows.restartsAhead {s s' : Site} (hgrows : s.Grows s') :
    s'.restartsAhead = s.restartsAhead := by
  obtain ⟨s₀, new, hhears, hwatchers, hnew⟩ := hgrows
  have hnone : new.countP Watcher.isAboutToRestart = 0 := by
    refine List.countP_eq_zero.2 fun w hw => ?_
    simp [Watcher.isAboutToRestart, (hnew w hw).2]
  rw [← hhears.restartsAhead, Site.restartsAhead, hwatchers, List.countP_append, hnone]
  rfl

end Site

namespace Deployment

/-! ### Restarts that are begun -/

/-- How many restarts were begun: those that were counted, and those that are yet to be. -/
def begun (d : Deployment) : Nat := d.plugin.hub.restarts + d.site.restartsAhead

/-- Whether a watcher is on duty: it is there, restarts nothing and minds no signal. -/
def isOnDuty (d : Deployment) (w : Watcher) : Bool :=
  !w.gone && w.restart.isNone && !d.plugin.hub.isOver w.generation

/-- A watcher is on duty exactly if it is there, restarts nothing, and neither the plugin is to stop
nor its generation has ended. -/
theorem isOnDuty_iff {d : Deployment} {w : Watcher} :
    d.isOnDuty w = true ↔ w.gone = false ∧ w.restart = none ∧ d.plugin.hub.stop.isUp = false ∧
      d.plugin.hub.isTerminated w.generation = false := by
  simp [isOnDuty, Hub.isOver, and_assoc]

/-- A change of one watcher, and the restarts that are yet to be counted. -/
theorem restartsAhead_onWatcher {d : Deployment} {k : Nat} {w : Watcher}
    (hw : d.site.watchers[k]? = some w) (f : Watcher → Watcher) :
    (d.onWatcher k f).site.restartsAhead + w.isAboutToRestart.toNat =
      d.site.restartsAhead + (f w).isAboutToRestart.toNat :=
  countP_modify hw

/-- A change of a watcher that begins no restart. -/
theorem begun_onWatcher {d : Deployment} {k : Nat} {w : Watcher}
    (hw : d.site.watchers[k]? = some w) {f : Watcher → Watcher}
    (hsame : (f w).isAboutToRestart = w.isAboutToRestart) : (d.onWatcher k f).begun = d.begun := by
  have hahead := restartsAhead_onWatcher hw f
  have hrestarts : (d.onWatcher k f).plugin.hub.restarts = d.plugin.hub.restarts := rfl
  rw [hsame] at hahead
  rw [begun, begun, hrestarts]
  omega

/-- A restart that goes on was begun before: what is ahead of it is counted, or it is counted. -/
theorem begun_of_steps {d : Deployment} {k : Nat} {w : Watcher} {phase next : RestartPhase}
    {s : Site} {p : Instance} (hw : d.site.watchers[k]? = some w) (hthere : w.gone = false)
    (hphase : w.restart = some phase) (hsteps : phase.Steps d.plugin d.site (s, p, next)) :
    (onWatcher { d with plugin := p, site := s } k fun w =>
      { w with restart := some next }).begun = d.begun := by
  obtain ⟨-, -, -, -, hgrows⟩ := hsteps.effect
  obtain ⟨w₁, hw₁, hhear⟩ := hgrows.hears hw
  have hahead := restartsAhead_onWatcher (d := { d with plugin := p, site := s }) hw₁ fun w =>
    { w with restart := some next }
  have hnext : Watcher.isAboutToRestart { w₁ with restart := some next } = false :=
    Watcher.isAboutToRestart_of_ne rfl hsteps.next_ne
  rw [hhear.isAboutToRestart, hnext, hgrows.restartsAhead] at hahead
  rw [begun, begun]
  rcases hsteps.restarts with ⟨rfl, hcounted⟩ | ⟨hne, hsame⟩
  · have habout : w.isAboutToRestart = true := by simp [Watcher.isAboutToRestart, hphase, hthere]
    rw [habout] at hahead
    show p.hub.restarts + _ = _
    rw [hcounted]
    simp only [Bool.toNat_true, Bool.toNat_false] at hahead
    omega
  · rw [Watcher.isAboutToRestart_of_ne hphase hne] at hahead
    show p.hub.restarts + _ = _
    rw [hsame]
    simp only [Bool.toNat_false] at hahead
    omega

/-- **A turn of a watcher begins a restart** only where the watcher is on duty and looks at an
alarm. -/
theorem begun_of_turn {d d' : Deployment} {k : Nat} {w : Watcher}
    (hw : d.site.watchers[k]? = some w) (hthere : w.gone = false) (hturn : Turn d k w d') :
    d'.begun = d.begun ∨
      d'.begun = d.begun + 1 ∧ d.isOnDuty w = true ∧ 0 < w.alarms ∧
        ∃ w', d'.site.watchers[k]? = some w' ∧ d'.isOnDuty w' = false := by
  cases hturn with
  | go hend =>
    refine .inl (begun_onWatcher hw ?_)
    cases hrestart : w.restart with
    | none => simp [Watcher.isAboutToRestart, hrestart]
    | some phase =>
      obtain ⟨result, rfl⟩ : ∃ result, phase = .finished result := by
        simpa [MayGo, hrestart] using hend
      simp [Watcher.isAboutToRestart, hrestart]
  | handOn hfree _ _ hoffer =>
    obtain ⟨-, rfl⟩ := Hub.offer?_eq_some_iff.1 hoffer
    exact .inl (begun_onWatcher (d := d.onHub fun _ => _) hw rfl)
  | @look e rest hfree hpending hinbox hlive =>
    by_cases halarm : w.isAlarm e = true
    · have hlook : look d.site.tree w e rest =
          { w with inbox := rest, restart := some .stopping } := by
        rw [look, if_pos (Watcher.restart_mem_classify_iff.2 halarm)]
      have hahead := restartsAhead_onWatcher hw fun w => look d.site.tree w e rest
      have hself := watchers_onWatcher_self hw fun w => look d.site.tree w e rest
      rw [hlook] at hahead hself
      refine .inr ⟨?_, by simp [isOnDuty, hthere, hfree, hlive], ?_, _, hself, by simp [isOnDuty]⟩
      · have hrestarts : (d.onWatcher k fun w => look d.site.tree w e rest).plugin.hub.restarts =
            d.plugin.hub.restarts := rfl
        rw [begun, begun, hrestarts]
        simp [Watcher.isAboutToRestart, hfree, hthere] at hahead
        omega
      · rw [Watcher.alarms, hinbox, List.countP_cons_of_pos halarm]
        omega
    · have hlook : look d.site.tree w e rest =
          { w with inbox := rest, pending := w.targets.healthEvents d.site.tree e } := by
        rw [look, if_neg (Watcher.restart_mem_classify_iff.not.2 halarm)]
        rfl
      refine .inl (begun_onWatcher hw ?_)
      rw [hlook]
      rfl
  | restart hphase hsteps => exact .inl (begun_of_steps hw hthere hphase hsteps)

/-- Clients count no restart, and neither do starts, stops and changes of the site. -/
theorem restarts_of_move? {d d' : Deployment} {m : DeploymentMove} (hmove : d.move? m = some d')
    (hm : ∀ k, m ≠ .watcher k) : d'.plugin.hub.restarts = d.plugin.hub.restarts := by
  have hsite : ∀ {s : Site} {result : Except IoFailure Unit},
      succeeded? ({ d with site := s }, result) = some d' → d'.plugin = d.plugin := by
    intro s result hsucceeded
    cases result <;> cases hsucceeded
    rfl
  cases m with
  | watcher k => exact absurd rfl (hm k)
  | session i =>
    obtain ⟨h, hadv, rfl⟩ := Option.map_eq_some_iff.1 hmove
    obtain ⟨s, -, hadv⟩ := Hub.advances_of_advance? hadv
    exact hadv.restarts
  | read i =>
    obtain ⟨⟨list, h⟩, hread, rfl⟩ := Option.map_eq_some_iff.1 hmove
    obtain ⟨s, -, -, -, rfl⟩ := Hub.read?_eq_some_iff.1 hread
    rfl
  | resume k =>
    obtain ⟨w, -, hresume⟩ := Option.bind_eq_some_iff.1 hmove
    split at hresume <;> cases hresume
    rfl
  | connect =>
    simp only [move?, connect?] at hmove
    split at hmove
    · split at hmove <;> cases hmove
      rfl
    · cases hmove
  | allocate request => cases hmove; exact Metrics.value_increment_of_ne _ (by simp)
  | start => cases hmove; exact (d.plugin.starts_start d.site).restarts
  | beginStop =>
    cases hmove
    cases hserving : d.plugin.serving <;> simp only [beginStop, Instance.withdraw?, hserving] <;> rfl
  | endStop =>
    simp only [move?] at hmove
    split at hmove
    · cases hmove
    · rcases d.plugin.clearUp_cases d.plugin d.site with
        ⟨s, e, -, hclear⟩ | ⟨s, -, hclear⟩ <;>
        simp only [endStop, hclear, Option.some.injEq] at hmove <;> subst hmove
      · rfl
      · exact d.plugin.restarts_gauge 0
  | createNode name | removeNode name | removeSocket => rw [hsite hmove]
  | disconnect i | halt | startKubelet | stopKubelet | refuse times reason => cases hmove; rfl

/-- **A move begins a restart** only where a watcher on duty looks at an alarm, which takes the watcher
off duty. -/
theorem begun_of_move? {d d' : Deployment} {m : DeploymentMove} (hmove : d.move? m = some d') :
    d'.begun = d.begun ∨
      d'.begun = d.begun + 1 ∧ ∃ (k : Nat) (w w' : Watcher), d.site.watchers[k]? = some w ∧
        d.isOnDuty w = true ∧ 0 < w.alarms ∧ d'.site.watchers[k]? = some w' ∧
        d'.isOnDuty w' = false := by
  by_cases hm : ∀ k, m ≠ .watcher k
  · have hrestarts := restarts_of_move? hmove hm
    refine .inl ?_
    cases acts_of_move? hmove with
    | hub _ => rw [begun, begun, hrestarts]; rfl
    | beginStop _ => rw [begun, begun, hrestarts]
    | site hhears => rw [begun, begun, hrestarts, hhears.restartsAhead]
    | start hstarts => rw [begun, begun, hrestarts, hstarts.grows.restartsAhead]
    | endStop hhears _ => rw [begun, begun, hrestarts, hhears.restartsAhead]
    | @turn k _ _ _ _ _ => exact absurd rfl (hm k)
    | @resume k left w e hw _ hphase =>
      refine begun_onWatcher hw ?_
      rw [Watcher.isAboutToRestart_of_ne hphase (by simp),
        Watcher.isAboutToRestart_of_ne rfl (by cases left <;> simp [RestartPhase.resume])]
  · obtain ⟨k, rfl⟩ : ∃ k, m = .watcher k := by simpa using hm
    obtain ⟨w, hw, hthere, hturn⟩ := turn_of_advanceWatcher? hmove
    rcases begun_of_turn hw hthere hturn with hsame | ⟨hmore, hduty, halarms, w', hw', hoff⟩
    · exact .inl hsame
    · exact .inr ⟨hmore, k, w, w', hw, hduty, halarms, hw', hoff⟩

end Deployment

end GpuPassthrough
