import GpuPassthrough.Proofs.Lifecycle.Generations
import GpuPassthrough.Proofs.Lifecycle.Restarts

/-!
# What Makes a Plugin Restart

A watcher restarts the plugin when it hears that the socket was removed, and cannot tell by whom. A
plugin removes its socket itself whenever it starts, whenever a start fails and whenever it clears up
after a stop. That none of this leads to a restart rests on the order of things: a start removes the
socket while nobody is on duty, and a stop ends the generation, and with it the duty of its watcher,
before it clears up.

A stop lets others act between its two parts, though. If the plugin is started in between, the late
clearing up takes away the socket of the new generation, whose watcher is on duty and restarts the
plugin. Such a clearing up is overtaken. So every restart goes back to a removal by someone else or
to a clearing up that was overtaken.

## Main results

* `onDuty_of_move?`: a watcher that comes on duty has heard nothing yet.
* `isOthers_or_isOvertaken`: who alarms a watcher on duty.
* `begun_run?`: no more restarts are begun in a run than there are removals by others and clearings
  up that were overtaken.
-/

namespace GpuPassthrough

/-- Whether a move is made by others: neither by the plugin nor by its clients or its owner. -/
def DeploymentMove.isOthers : DeploymentMove → Bool
  | createNode _ | removeNode _ | removeSocket | startKubelet | stopKubelet | refuse _ _ => true
  | _ => false

/-- Whether a restart is to clear up after its stop. -/
def RestartPhase.isClearing : RestartPhase → Bool
  | clearing => true
  | _ => false

namespace Deployment

/-! ### Alarms -/

/-- The generation of a watcher on duty is served. -/
theorem Manned.serving_of_onDuty {d : Deployment} (hmanned : d.Manned) {k : Nat} {w : Watcher}
    (hw : d.site.watchers[k]? = some w) (hduty : d.isOnDuty w = true) :
    d.plugin.serving = some w.generation := by
  obtain ⟨-, -, -, hlive⟩ := isOnDuty_iff.1 hduty
  exact ((hmanned.ended hw).resolve_left (by simp [hlive])).1

/-- Only one watcher is on duty. -/
theorem Manned.eq_of_onDuty {d : Deployment} (hmanned : d.Manned) {j k : Nat} {v w : Watcher}
    (hv : d.site.watchers[j]? = some v) (hv_duty : d.isOnDuty v = true)
    (hw : d.site.watchers[k]? = some w) (hw_duty : d.isOnDuty w = true) : j = k :=
  hmanned.eq_of_live hw (hmanned.serving_of_onDuty hw hw_duty) hv (isOnDuty_iff.1 hv_duty).2.2.2

/-- A watcher that comes on duty has heard nothing yet; any other watcher on duty was so before. -/
theorem onDuty_of_move? {d d' : Deployment} {m : DeploymentMove} (hmanned : d.Manned)
    (hmove : d.move? m = some d') {k : Nat} {w' : Watcher}
    (hw' : d'.site.watchers[k]? = some w') (hduty : d'.isOnDuty w' = true) :
    (∃ w, d.site.watchers[k]? = some w ∧ d.isOnDuty w = true) ∨ w'.inbox = [] := by
  have hmanned' := hmanned.move? hmove
  have hserving' := hmanned'.serving_of_onDuty hw' hduty
  obtain ⟨hthere, hfree, hstop, hlive'⟩ := isOnDuty_iff.1 hduty
  -- Whoever belongs to the generation that is served is this watcher.
  have hself : ∀ {j : Nat} {v : Watcher}, d'.site.watchers[j]? = some v →
      v.generation = w'.generation → j = k ∧ v = w' := by
    intro j v hv hgeneration
    obtain rfl := hmanned'.eq_of_live hw' hserving' hv (by rw [hgeneration, hlive'])
    exact ⟨rfl, Option.some.inj (hv.symm.trans hw')⟩
  rcases serving_or_begins_of_move? hmove hserving' with
    hserving | ⟨-, -, v, hv, hgeneration, -, -, hempty⟩
  · obtain ⟨hlive, -, j, w, hw, hgeneration, -, hgone⟩ := hmanned.served hserving
    have hstop_before := isUp_of_move? hmove hstop
    obtain ⟨v, hv, hminds⟩ := minds_of_move? hmanned hmove hw (hgeneration ▸ hserving)
      (hgeneration ▸ hserving') hstop
    have hfollows : v.generation = w.generation ∧ (v.restart = none → w.restart = none) := by
      cases hminds with
      | hears _ hhears => exact ⟨hhears.generation, fun h => hhears.restart.symm.trans h⟩
      | handsOn _ _ => exact ⟨rfl, id⟩
      | @looks e rest _ _ _ =>
        rcases look_cases d.site.tree w e rest with hlook | hlook <;> rw [hlook]
        · exact ⟨rfl, by simp⟩
        · exact ⟨rfl, id⟩
    obtain ⟨rfl, rfl⟩ := hself hv (hfollows.1.trans hgeneration)
    have hthere_before : w.gone = false := by
      by_contra hne
      rw [hgone (by simpa using hne)] at hstop_before
      cases hstop_before
    refine .inl ⟨w, hw, isOnDuty_iff.2 ⟨hthere_before, hfollows.2 hfree, hstop_before, ?_⟩⟩
    rw [hgeneration, hlive]
  · obtain ⟨-, rfl⟩ := hself hv hgeneration
    exact .inr hempty

/-- Whether a watcher on duty has an alarm to look at. -/
def isWarned (d : Deployment) : Bool :=
  d.site.watchers.any fun w => d.isOnDuty w && decide (0 < w.alarms)

/-- Whether a move alarms a watcher on duty: whether the watcher hears that the socket was removed. -/
def alarms (d d' : Deployment) : Bool :=
  (d.site.watchers.zip d'.site.watchers).any fun pair =>
    d.isOnDuty pair.1 && decide (pair.1.alarms < pair.2.alarms)

/-- Some watcher on duty has an alarm to look at. -/
theorem isWarned_iff {d : Deployment} : d.isWarned = true ↔
    ∃ (k : Nat) (w : Watcher), d.site.watchers[k]? = some w ∧ d.isOnDuty w = true ∧
      0 < w.alarms := by
  simp only [isWarned, List.any_eq_true, List.mem_iff_getElem?, Bool.and_eq_true, decide_eq_true_eq]
  constructor
  · rintro ⟨w, ⟨k, hw⟩, hboth⟩
    exact ⟨k, w, hw, hboth⟩
  · rintro ⟨k, w, hw, hboth⟩
    exact ⟨w, ⟨k, hw⟩, hboth⟩

/-- Some watcher on duty hears that the socket was removed. -/
theorem alarms_iff {d d' : Deployment} : d.alarms d' = true ↔
    ∃ (k : Nat) (w w' : Watcher), d.site.watchers[k]? = some w ∧
      d'.site.watchers[k]? = some w' ∧ d.isOnDuty w = true ∧ w.alarms < w'.alarms := by
  simp only [alarms, List.any_eq_true, List.mem_iff_getElem?, Bool.and_eq_true, decide_eq_true_eq,
    List.getElem?_zip_eq_some]
  constructor
  · rintro ⟨⟨w, w'⟩, ⟨k, hw, hw'⟩, hboth⟩
    exact ⟨k, w, w', hw, hw', hboth⟩
  · rintro ⟨k, w, w', hw, hw', hboth⟩
    exact ⟨⟨w, w'⟩, ⟨k, hw, hw'⟩, hboth⟩

/-- An alarm that a watcher on duty has to look at was there or is new. -/
theorem isWarned_of_move? {d d' : Deployment} {m : DeploymentMove} (hmanned : d.Manned)
    (hmove : d.move? m = some d') (hwarned : d'.isWarned = true) :
    d.isWarned = true ∨ d.alarms d' = true := by
  obtain ⟨k, w', hw', hduty', halarms'⟩ := isWarned_iff.1 hwarned
  rcases onDuty_of_move? hmanned hmove hw' hduty' with ⟨w, hw, hduty⟩ | hempty
  · by_cases halarms : 0 < w.alarms
    · exact .inl (isWarned_iff.2 ⟨k, w, hw, hduty, halarms⟩)
    · exact .inr (alarms_iff.2 ⟨k, w, w', hw, hw', hduty, by omega⟩)
  · simp [Watcher.alarms, hempty] at halarms'

/-- When the watcher on duty goes off duty, nobody on duty has an alarm to look at. -/
theorem isWarned_eq_false {d d' : Deployment} {m : DeploymentMove} (hmanned : d.Manned)
    (hmove : d.move? m = some d') {k : Nat} {w w' : Watcher} (hw : d.site.watchers[k]? = some w)
    (hduty : d.isOnDuty w = true) (hw' : d'.site.watchers[k]? = some w')
    (hoff : d'.isOnDuty w' = false) : d'.isWarned = false := by
  by_contra hwarned
  obtain ⟨j, v', hv', hduty', halarms'⟩ := isWarned_iff.1 (by simpa using hwarned)
  rcases onDuty_of_move? hmanned hmove hv' hduty' with ⟨v, hv, hv_duty⟩ | hempty
  · obtain rfl := hmanned.eq_of_onDuty hv hv_duty hw hduty
    obtain rfl : v' = w' := Option.some.inj (hv'.symm.trans hw')
    rw [hoff] at hduty'
    cases hduty'
  · simp [Watcher.alarms, hempty] at halarms'

/-- **A move pays for the restarts that it begins** with an alarm, old or new. -/
theorem begun_add_isWarned_of_move? {d d' : Deployment} {m : DeploymentMove} (hmanned : d.Manned)
    (hmove : d.move? m = some d') :
    d'.begun + d'.isWarned.toNat ≤ d.begun + d.isWarned.toNat + (d.alarms d').toNat := by
  rcases begun_of_move? hmove with hsame | ⟨hmore, k, w, w', hw, hduty, halarms, hw', hoff⟩
  · have hwarned : d'.isWarned.toNat ≤ d.isWarned.toNat + (d.alarms d').toNat := by
      cases hwarned : d'.isWarned with
      | false => simp
      | true =>
        rcases isWarned_of_move? hmanned hmove hwarned with hold | hnew
        · simp [hold]
        · simp [hnew]
    omega
  · have hwarned : d.isWarned = true := isWarned_iff.2 ⟨k, w, hw, hduty, halarms⟩
    have hcalm := isWarned_eq_false hmanned hmove hw hduty hw' hoff
    simp [hmore, hwarned, hcalm]

/-! ### Who alarms a watcher on duty -/

/-- Whether a move goes on with the clearing up after a stop, be it that of a restart or not. -/
def isClearingUp (d : Deployment) : DeploymentMove → Bool
  | .endStop => true
  | .watcher k => ((d.site.watchers[k]?).bind Watcher.restart).any RestartPhase.isClearing
  | _ => false

/-- **A clearing up is overtaken** if the plugin serves again by then, and is not to stop. -/
def isOvertaken (d : Deployment) (m : DeploymentMove) : Bool :=
  d.isClearingUp m && d.plugin.serving.isSome && !d.plugin.hub.stop.isUp

/-- While the plugin serves, an attempt to start it changes nothing. -/
theorem eq_onWatcher_of_attempt {d d' : Deployment} {k left : Nat} {w : Watcher}
    (hw : d.site.watchers[k]? = some w) (hthere : w.gone = false)
    (hphase : w.restart = some (.attempting left)) (hserving : d.plugin.serving.isSome = true)
    (hadv : d.advanceWatcher? k = some d') :
    ∃ next, d' = d.onWatcher k fun w => { w with restart := some next } := by
  obtain ⟨next, hstep⟩ : ∃ next, (RestartPhase.attempting left).step? (Site.host d.plugin) d.plugin
      d.site = some (d.site, d.plugin, next) := by
    simp [RestartPhase.step?, Instance.start_of_serving hserving]
  have hgoes : d.advanceWatcher? k =
      some (d.onWatcher k fun w => { w with restart := some next }) := by
    simp [advanceWatcher?, hw, hthere, hphase, advanceRestart?, hstep]
  exact ⟨next, Option.some.inj (hadv.symm.trans hgoes)⟩

/-- A change of a watcher that does not hear anything alarms nobody. -/
theorem alarms_onWatcher {d : Deployment} {p : Instance} {k : Nat} {w : Watcher}
    (hw : d.site.watchers[k]? = some w) (f : Watcher → Watcher) (hf : (f w).alarms ≤ w.alarms) :
    d.alarms (onWatcher { d with plugin := p } k f) = false := by
  rw [← Bool.not_eq_true, alarms_iff]
  rintro ⟨j, v, v', hv, hv', -, hmore⟩
  by_cases hkj : k = j
  · subst hkj
    obtain rfl : w = v := Option.some.inj (hw.symm.trans hv)
    obtain rfl : f w = v' := Option.some.inj
      ((watchers_onWatcher_self (d := { d with plugin := p }) hw f).symm.trans hv')
    omega
  · rw [watchers_onWatcher_of_ne _ hkj] at hv'
    obtain rfl : v = v' := Option.some.inj (hv.symm.trans hv')
    omega

/-- Where nothing is heard nobody is alarmed. -/
theorem alarms_of_eq {d d' : Deployment} (hsame : d'.site.watchers = d.site.watchers) :
    d.alarms d' = false := by
  rw [← Bool.not_eq_true, alarms_iff]
  rintro ⟨j, v, v', hv, hv', -, hmore⟩
  obtain rfl : v = v' := Option.some.inj (hv.symm.trans (hsame ▸ hv'))
  omega

/-- A watcher alarms the watcher on duty only when it clears up after the stop of a restart. -/
theorem isClearingUp_of_turn {d d' : Deployment} {k : Nat} {w : Watcher}
    (hw : d.site.watchers[k]? = some w) (hthere : w.gone = false) (hturn : Turn d k w d')
    (hadv : d.advanceWatcher? k = some d') (hserving : d.plugin.serving.isSome = true)
    (halarms : d.alarms d' = true) : d.isClearingUp (.watcher k) = true := by
  have hcalm : ∀ (p : Instance) (f : Watcher → Watcher),
      d' = onWatcher { d with plugin := p } k f → (f w).alarms ≤ w.alarms →
      d.isClearingUp (.watcher k) = true := by
    rintro p f rfl hf
    rw [alarms_onWatcher hw f hf] at halarms
    cases halarms
  cases hturn with
  | go _ => exact hcalm d.plugin _ rfl (Nat.le_of_eq (Watcher.alarms_congr rfl rfl))
  | handOn _ _ _ _ => exact hcalm _ _ rfl (Nat.le_of_eq (Watcher.alarms_congr rfl rfl))
  | @look e rest _ _ hinbox _ =>
    refine hcalm d.plugin _ rfl ?_
    have hless : (w.inbox.countP w.isAlarm) = rest.countP w.isAlarm + (w.isAlarm e).toNat := by
      rw [hinbox, List.countP_cons]
      cases w.isAlarm e <;> rfl
    have hrest : rest.countP w.isAlarm ≤ w.alarms := by
      rw [Watcher.alarms, hless]
      exact Nat.le_add_right _ _
    rcases look_cases d.site.tree w e rest with hlook | hlook <;> rw [hlook]
    · exact hrest
    · exact hrest
  | restart hphase hsteps =>
    cases hsteps with
    | skip hfree => simp [hfree] at hserving
    | stop _ => exact hcalm _ _ rfl (Nat.le_of_eq (Watcher.alarms_congr rfl rfl))
    | giveUp _ => exact hcalm _ _ rfl (Nat.le_of_eq (Watcher.alarms_congr rfl rfl))
    | clear _ | fail _ => simp [isClearingUp, hw, hphase, RestartPhase.isClearing]
    | attempt _ =>
      obtain ⟨next, heq⟩ := eq_onWatcher_of_attempt hw hthere hphase hserving hadv
      exact hcalm d.plugin _ heq (Nat.le_of_eq (Watcher.alarms_congr rfl rfl))

/-- **Who alarms a watcher on duty**: others, or a clearing up that was overtaken. A start, whether
it succeeds or not, alarms nobody, and neither does a clearing up that comes in time. -/
theorem isOthers_or_isOvertaken {d d' : Deployment} {m : DeploymentMove} (hmanned : d.Manned)
    (hmove : d.move? m = some d') (halarms : d.alarms d' = true) :
    m.isOthers = true ∨ d.isOvertaken m = true := by
  obtain ⟨k, w, -, hw, -, hduty, -⟩ := alarms_iff.1 halarms
  have hserving : d.plugin.serving.isSome = true := by
    simp [hmanned.serving_of_onDuty hw hduty]
  obtain ⟨-, -, hstop, -⟩ := isOnDuty_iff.1 hduty
  have hovertaken : d.isClearingUp m = true → d.isOvertaken m = true := by
    intro hclearing
    simp [isOvertaken, hclearing, hserving, hstop]
  have hcalm : d'.site.watchers = d.site.watchers → m.isOthers = true ∨ d.isOvertaken m = true := by
    intro hsame
    rw [alarms_of_eq hsame] at halarms
    cases halarms
  cases m with
  | createNode name | removeNode name | removeSocket | startKubelet | stopKubelet
  | refuse times reason => exact .inl rfl
  | endStop => exact .inr (hovertaken rfl)
  | watcher j =>
    obtain ⟨v, hv, hthere, hturn⟩ := turn_of_advanceWatcher? hmove
    exact .inr (hovertaken (isClearingUp_of_turn hv hthere hturn hmove hserving halarms))
  | resume j =>
    obtain ⟨v, hv, hresume⟩ := Option.bind_eq_some_iff.1 hmove
    split at hresume <;> cases hresume
    have hcalm := alarms_onWatcher (p := d.plugin) hv
      (fun w => { w with restart := w.restart.map RestartPhase.resume })
      (Nat.le_of_eq (Watcher.alarms_congr rfl rfl))
    exact absurd (hcalm.symm.trans halarms) Bool.false_ne_true
  | start =>
    cases hmove
    refine hcalm ?_
    rw [start, Instance.start_of_serving hserving]
  | beginStop =>
    cases hmove
    exact hcalm (by rw [site_beginStop])
  | session i =>
    obtain ⟨h, -, rfl⟩ := Option.map_eq_some_iff.1 hmove
    exact hcalm rfl
  | read i =>
    obtain ⟨⟨list, h⟩, -, rfl⟩ := Option.map_eq_some_iff.1 hmove
    exact hcalm rfl
  | connect =>
    simp only [move?, connect?] at hmove
    split at hmove
    · split at hmove <;> cases hmove
      exact hcalm rfl
    · cases hmove
  | disconnect i | allocate request | halt => cases hmove; exact hcalm rfl

/-! ### Runs -/

/-- How many moves of a run are of some kind, told by what is before and after the move. -/
def countMoves (kind : Deployment → DeploymentMove → Deployment → Bool) :
    Deployment → List DeploymentMove → Nat
  | _, [] => 0
  | d, m :: moves =>
    match d.move? m with
    | none => 0
    | some d' => (kind d m d').toNat + countMoves kind d' moves

/-- The last move of a run counts if it is of the kind. -/
theorem countMoves_concat (kind : Deployment → DeploymentMove → Deployment → Bool)
    {d₀ d d' : Deployment} {moves : List DeploymentMove} {m : DeploymentMove}
    (hrun : d₀.run? moves = some d) (hmove : d.move? m = some d') :
    countMoves kind d₀ (moves ++ [m]) = countMoves kind d₀ moves + (kind d m d').toNat := by
  induction moves generalizing d₀ with
  | nil =>
    cases hrun
    simp [countMoves, hmove]
  | cons first moves ih =>
    obtain ⟨d₁, hfirst, hrest⟩ := Option.bind_eq_some_iff.1 hrun
    simp only [List.cons_append, countMoves, hfirst, ih hrest, Nat.add_assoc]

/-- **How often someone else removes the socket** in a run while its watcher is on duty. -/
def removals : Deployment → List DeploymentMove → Nat :=
  countMoves fun d m d' => m.isOthers && d.alarms d'

/-- **How often a clearing up is overtaken** in a run. -/
def overtakings : Deployment → List DeploymentMove → Nat :=
  countMoves fun d m _ => d.isOvertaken m

/-- **No more restarts are begun** in a run than there are removals by others and clearings up that
were overtaken. -/
theorem begun_run? {d₀ d : Deployment} {moves : List DeploymentMove}
    (hidle : d₀.plugin.serving = none) (hunwatched : d₀.site.watchers = [])
    (hrun : d₀.run? moves = some d) :
    d.begun + d.isWarned.toNat ≤
      d₀.plugin.hub.restarts + d₀.removals moves + d₀.overtakings moves := by
  refine run?_induction (P := fun moves d => d.begun + d.isWarned.toNat ≤
    d₀.plugin.hub.restarts + d₀.removals moves + d₀.overtakings moves) ?_
    (fun {moves d m d'} hrun hbound hmove => ?_) hrun
  · simp [begun, Site.restartsAhead, isWarned, hunwatched, removals, overtakings, countMoves]
  · have hmanned := manned_run? hidle hunwatched hrun
    have hstep := begun_add_isWarned_of_move? hmanned hmove
    have hremovals := countMoves_concat (fun d m d' => m.isOthers && d.alarms d') hrun hmove
    have hovertakings := countMoves_concat (fun d m _ => d.isOvertaken m) hrun hmove
    have hcause : (d.alarms d').toNat ≤
        (m.isOthers && d.alarms d').toNat + (d.isOvertaken m).toNat := by
      cases halarms : d.alarms d' with
      | false => simp
      | true =>
        rcases isOthers_or_isOvertaken hmanned hmove halarms with hothers | hovertaken
        · simp [hothers]
        · simp [hovertaken]
    rw [removals, overtakings, hremovals, hovertakings]
    rw [removals, overtakings] at hbound
    omega

end Deployment

end GpuPassthrough
