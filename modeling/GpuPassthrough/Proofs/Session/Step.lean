import GpuPassthrough.Proofs.Health.History
import GpuPassthrough.Proofs.Session.Rules
import GpuPassthrough.Session.Run
import Mathlib.Data.List.Induction

/-!
# What a Move Does

The moves of a hub, said once: a move is one of a session, by the rules of `Advances`, or it is
outside, and `Outside` says what it leaves alone. An invariant of all runs is then a short case
analysis, and `run?_induction` is the one induction behind it.

## Main results

* `advances_or_outside`: a move is one of a session, or leaves the sessions alone.
* `run?_induction`: what a new hub has and every move keeps, holds after every run.
-/

namespace GpuPassthrough

/-- The events that a move puts into the queue. -/
def HubMove.offered : HubMove → List HealthEvent
  | .offer e => [e]
  | _ => []

namespace Hub

/-- The hub of a new plugin. -/
def fresh (className : String) (units : List AdvertisedUnit) (stop : Signal) (metrics : Metrics) :
    Hub :=
  { className, units, stop, metrics }

/-! ### Moves of others -/

/-- What a move that is none of a session leaves alone: the units, the line, what was applied, where
the sessions stand and what they have sent. It may open a session, which has not run yet, and put an
event into the queue. -/
structure Outside (h : Hub) (m : HubMove) (h' : Hub) : Prop where
  className : h'.className = h.className
  units : h'.units = h.units
  line : h'.line = h.line
  applied : h'.applied = h.applied
  /-- The event that the move offers comes last. -/
  accepted : h'.accepted = h.accepted ++ m.offered
  /-- There is room for the event that the move offers. -/
  queue : h'.queue.toList = h.queue.toList ++ m.offered
  transitions : ∀ className health,
    h'.metrics.value (.healthTransitions className health) =
      h.metrics.value (.healthTransitions className health)
  phases : h'.phases = h.phases ∨ h'.phases = h.phases ++ [.opened]
  sent : ∀ (i : Nat) (s' : Session), h'.sessions[i]? = some s' →
    (h.sessions[i]? = none ∧ s'.phase = .opened ∧ s'.sent = []) ∨
      ∃ s : Session, h.sessions[i]? = some s ∧ s'.phase = s.phase ∧ s'.sent = s.sent

/-- A session after a change that keeps its phase and what it has sent. -/
theorem sent_update {f : Session → Session} (hphase : ∀ s, (f s).phase = s.phase)
    (hsent : ∀ s, (f s).sent = s.sent) {h : Hub} {i j : Nat} {s' : Session}
    (hs' : (h.update i f).sessions[j]? = some s') :
    ∃ s, h.sessions[j]? = some s ∧ s'.phase = s.phase ∧ s'.sent = s.sent := by
  simp only [update, List.getElem?_modify] at hs'
  obtain ⟨s, hs, rfl⟩ := Option.map_eq_some_iff.1 hs'
  refine ⟨s, hs, ?_, ?_⟩ <;> split <;> simp [hphase, hsent]

/-- Changing a session but neither its phase nor what it has sent is outside its moves. -/
theorem outside_update {f : Session → Session} (hphase : ∀ s, (f s).phase = s.phase)
    (hsent : ∀ s, (f s).sent = s.sent) (h : Hub) (i : Nat) {m : HubMove} (hm : m.offered = []) :
    Outside h m (h.update i f) where
  className := rfl
  units := rfl
  line := rfl
  applied := rfl
  accepted := by simp [hm, update]
  queue := by simp [hm, update]
  transitions _ _ := rfl
  phases := .inl (phases_update_of_keeps hphase h i)
  sent _ _ hs' := .inr (sent_update hphase hsent hs')

/-- Changing signals and other counters is outside the moves of the sessions. -/
theorem outside_signals (h : Hub) (stop : Signal) (generations : List Signal) (metrics : Metrics)
    {m : HubMove} (hm : m.offered = [])
    (htransitions : ∀ className health,
      metrics.value (.healthTransitions className health) =
        h.metrics.value (.healthTransitions className health)) :
    Outside h m { h with stop := stop, generations := generations, metrics := metrics } where
  className := rfl
  units := rfl
  line := rfl
  applied := rfl
  accepted := by simp [hm]
  queue := by simp [hm]
  transitions := htransitions
  phases := .inl rfl
  sent _ s' hs' := .inr ⟨s', hs', rfl, rfl⟩

/-- Opening a session is outside the moves of the others. -/
theorem outside_connect (h : Hub) (generation : Nat) :
    Outside h (.connect generation) (h.connect generation) where
  className := rfl
  units := rfl
  line := rfl
  applied := rfl
  accepted := by simp [connect, HubMove.offered]
  queue := by simp [connect, HubMove.offered]
  transitions _ _ := rfl
  phases := .inr (by simp [phases, connect])
  sent i s' hs' := by
    simp only [connect, List.getElem?_append] at hs'
    split at hs'
    · exact .inr ⟨s', hs', rfl, rfl⟩
    · next hi =>
      rw [List.getElem?_singleton] at hs'
      split at hs'
      · cases hs'
        exact .inl ⟨List.getElem?_eq_none (Nat.le_of_not_lt hi), rfl, rfl⟩
      · cases hs'

/-- Putting an event into the queue is outside the moves of the sessions. -/
theorem outside_offer {h h' : Hub} {e : HealthEvent} (hoffer : h.offer? e = some h') :
    Outside h (.offer e) h' := by
  unfold offer? at hoffer
  cases hqueue : h.queue with
  | some other => simp [hqueue] at hoffer
  | none =>
    simp only [hqueue, Option.some.injEq] at hoffer
    subst hoffer
    exact ⟨rfl, rfl, rfl, rfl, rfl, by simp [hqueue, HubMove.offered], fun _ _ => rfl, .inl rfl,
      fun i s' hs' => .inr ⟨s', hs', rfl, rfl⟩⟩

/-- Reading a list is outside the moves of the sessions. -/
theorem outside_read {h h' : Hub} {i : Nat} {list : List AdvertisedUnit}
    (hread : h.read? i = some (list, h')) : Outside h (.read i) h' := by
  simp only [read?, Option.bind_eq_bind, Option.bind_eq_some_iff] at hread
  obtain ⟨s, -, hread⟩ := hread
  split at hread
  · cases hread
  · obtain ⟨first, -, hfirst⟩ := Option.bind_eq_some_iff.1 hread
    cases hfirst
    exact outside_update (f := fun s => { s with received := s.received + 1 }) (m := .read i)
      (fun _ => rfl) (fun _ => rfl) h i rfl

/-- A move of others lets every session stand where it stands. -/
theorem Outside.phases_kept {h h' : Hub} {m : HubMove} (hout : Outside h m h') {j : Nat}
    {p : SessionPhase} (hp : h.phases[j]? = some p) : h'.phases[j]? = some p := by
  rcases hout.phases with hsame | hopened
  · rwa [hsame]
  · rw [hopened, List.getElem?_append_left (List.getElem?_eq_some_iff.1 hp).1, hp]

/-- After a move of others a session stands where it stood or has not run yet. -/
theorem Outside.phases_or_opened {h h' : Hub} {m : HubMove} (hout : Outside h m h') {j : Nat}
    {p : SessionPhase} (hp : h'.phases[j]? = some p) : h.phases[j]? = some p ∨ p = .opened := by
  rcases hout.phases with hsame | hopened
  · exact .inl (hsame ▸ hp)
  · rw [hopened, List.getElem?_append] at hp
    split at hp
    · exact .inl hp
    · rw [List.getElem?_singleton] at hp
      split at hp
      · exact .inr (Option.some.inj hp).symm
      · cases hp

/-- **A move is one of a session or outside.** -/
theorem advances_or_outside {h h' : Hub} {m : HubMove} (hmove : h.move? m = some h') :
    (∃ i s, m = .advance i ∧ h.sessions[i]? = some s ∧ Advances h i s h') ∨
      Outside h m h' := by
  cases m with
  | advance i =>
    obtain ⟨s, hs, hadv⟩ := advances_of_advance? hmove
    exact .inl ⟨i, s, rfl, hs, hadv⟩
  | connect generation =>
    simp only [move?] at hmove
    split at hmove
    · cases hmove; exact .inr (outside_connect h generation)
    · cases hmove
  | read i =>
    obtain ⟨⟨list, h''⟩, hread, rfl⟩ := Option.map_eq_some_iff.1 hmove
    exact .inr (outside_read hread)
  | disconnect i =>
    cases hmove
    exact .inr (outside_update (f := fun s => { s with closed := true }) (m := .disconnect i)
      (fun _ => rfl) (fun _ => rfl) h i rfl)
  | offer e => exact .inr (outside_offer hmove)
  | allocate granted =>
    cases hmove
    refine .inr (outside_signals h h.stop h.generations _ rfl fun className health => ?_)
    exact Metrics.value_increment_of_ne _ (by simp)
  | _ =>
    cases hmove
    exact .inr (outside_signals h _ _ h.metrics rfl fun _ _ => rfl)

/-- What a new hub has and every move keeps, holds after every run. -/
theorem run?_induction {h₀ : Hub} {P : List HubMove → Hub → Prop} (hstart : P [] h₀)
    (hstep : ∀ {moves h m h'}, h₀.run? moves = some h → P moves h → h.move? m = some h' →
      P (moves ++ [m]) h') {moves : List HubMove} {h : Hub} (hrun : h₀.run? moves = some h) :
    P moves h := by
  induction moves using List.reverseRecOn generalizing h with
  | nil => cases hrun; exact hstart
  | append_singleton moves m ih =>
    rw [run?_append] at hrun
    obtain ⟨h', hbefore, hlast⟩ := Option.bind_eq_some_iff.1 hrun
    obtain ⟨h'', hmove, hend⟩ := Option.bind_eq_some_iff.1 hlast
    cases hend
    exact hstep hbefore (ih hbefore) hmove

end Hub

end GpuPassthrough
