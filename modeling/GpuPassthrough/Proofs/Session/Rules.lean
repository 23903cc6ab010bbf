import GpuPassthrough.Session.Hub

/-!
# What a Session Does

The moves of a session, said once, so that no later proof opens `Hub.advance?` again. `Advances`
lists them rule by rule; a property of what sessions do is then a case for each rule.

## Main results

* `advance?_eq_some_iff`: a session moves exactly by the rules of `Advances`.
* `Advances.applies_or`: only a session that has taken an event changes units and counters.
-/

namespace GpuPassthrough.Hub

/-! ### Changing one session -/

/-- Where the sessions stand. -/
def phases (h : Hub) : List SessionPhase := h.sessions.map Session.phase

/-- A session stands where it stands in the hub. -/
theorem phases_getElem? (h : Hub) (i : Nat) :
    h.phases[i]? = (h.sessions[i]?).map Session.phase :=
  List.getElem?_map

/-- A session that is there stands somewhere. -/
theorem phases_of_session {h : Hub} {i : Nat} {s : Session} (hs : h.sessions[i]? = some s) :
    h.phases[i]? = some s.phase := by
  rw [phases_getElem?, hs, Option.map_some]

/-- A change that ends in one phase moves one session there. -/
theorem phases_update {f : Session → Session} {p : SessionPhase} (hf : ∀ s, (f s).phase = p)
    (h : Hub) (i : Nat) : (h.update i f).phases = h.phases.set i p := by
  refine List.ext_getElem? fun j => ?_
  simp only [phases, update, List.getElem?_map, List.getElem?_modify, List.getElem?_set]
  by_cases hij : i = j
  · subst hij
    by_cases hi : i < h.sessions.length
    · simp [hi, hf]
    · simp [hi]
  · simp [hij]

/-- A session that enters a phase stands there. -/
theorem phases_enter (h : Hub) (i : Nat) (p : SessionPhase) :
    (h.update i fun s => s.enter p).phases = h.phases.set i p :=
  phases_update (f := fun s => s.enter p) (fun _ => rfl) h i

/-- A session that sends a list and enters a phase stands there. -/
theorem phases_send_enter (h : Hub) (i : Nat) (list : List AdvertisedUnit) (p : SessionPhase) :
    (h.update i fun s => (s.send list).enter p).phases = h.phases.set i p :=
  phases_update (f := fun s => (s.send list).enter p) (fun _ => rfl) h i

/-- A change that keeps the phase leaves every session where it stands. -/
theorem phases_update_of_keeps {f : Session → Session} (hf : ∀ s, (f s).phase = s.phase)
    (h : Hub) (i : Nat) : (h.update i f).phases = h.phases := by
  refine List.ext_getElem? fun j => ?_
  simp only [phases, update, List.getElem?_map, List.getElem?_modify]
  cases h.sessions[j]? with
  | none => split <;> rfl
  | some s => split <;> simp [hf]

/-- The session that a change is about. -/
theorem sessions_update_self {f : Session → Session} {h : Hub} {i : Nat} {s : Session}
    (hs : h.sessions[i]? = some s) : (h.update i f).sessions[i]? = some (f s) := by
  simp only [update, List.getElem?_modify, hs, if_true]
  rfl

/-- What a change makes of the session that it is about. -/
theorem eq_of_update {f : Session → Session} {h : Hub} {i : Nat} {s s' : Session}
    (hs : h.sessions[i]? = some s) (hs' : (h.update i f).sessions[i]? = some s') : s' = f s :=
  Option.some.inj (hs'.symm.trans (sessions_update_self hs))

/-- The sessions that a change is not about. -/
theorem sessions_update_of_ne {f : Session → Session} (h : Hub) {i j : Nat} (hij : i ≠ j) :
    (h.update i f).sessions[j]? = h.sessions[j]? := by
  simp only [update, List.getElem?_modify, hij, if_false]
  exact id_map _

/-! ### Moves of a session -/

/-- Whether a session may end: its client is gone, or it waits where it looks at the signals and one
of them is up. A session that has taken an event may not. -/
def MayEnd (h : Hub) (s : Session) : Prop :=
  match s.phase with
  | .opened | .sending _ => s.closed = true
  | .greeted | .waiting | .listening => h.isOver s.generation = true ∨ s.closed = true
  | .taken _ | .ended => False

/-- Whether a session has no reason to end: neither signal is up and its client is there. -/
def IsUndisturbed (h : Hub) (s : Session) : Prop :=
  h.isOver s.generation = false ∧ s.closed = false

/-- The move of session `i`, which is `s`, to its next waiting point. -/
inductive Advances (h : Hub) (i : Nat) (s : Session) : Hub → Prop
  /-- It ends. -/
  | leave (hend : h.MayEnd s) : Advances h i s (h.finish i)
  /-- It sends its first list. -/
  | greet (hphase : s.phase = .opened) (hopen : s.closed = false) :
      Advances h i s (h.update i fun s => (s.send h.units).enter .greeted)
  /-- It steps into the line for the queue. -/
  | lineUp (hphase : s.phase = .greeted) (hcalm : h.IsUndisturbed s) :
      Advances h i s { h.update i fun s => s.enter .waiting with line := h.line ++ [i] }
  /-- It is the first in the line and takes charge of the queue. -/
  | takeCharge (hphase : s.phase = .waiting) (hcalm : h.IsUndisturbed s)
      (hfirst : h.line.head? = some i) :
      Advances h i s (h.update i fun s => s.enter .listening)
  /-- It takes the event from the queue. -/
  | take (e : HealthEvent) (hphase : s.phase = .listening) (hcalm : h.IsUndisturbed s)
      (hqueue : h.queue = some e) :
      Advances h i s { h.update i fun s => s.enter (.taken e) with queue := none }
  /-- It applies the event that it has taken, whatever the signals and its client do. -/
  | apply (e : HealthEvent) (hphase : s.phase = .taken e) :
      Advances h i s
        ((h.applyEvent i e).update i fun s => s.enter (.sending (e.apply h.units)))
  /-- It sends the list that the event led to. -/
  | deliver (list : List AdvertisedUnit) (hphase : s.phase = .sending list)
      (hopen : s.closed = false) (hroom : s.unread.length < Session.capacity) :
      Advances h i s (h.update i fun s => (s.send list).enter .listening)

/-- Every move of a session follows one of the rules. -/
theorem advances_of_advance? {h h' : Hub} {i : Nat} (hadv : h.advance? i = some h') :
    ∃ s, h.sessions[i]? = some s ∧ Advances h i s h' := by
  unfold advance? at hadv
  obtain ⟨s, hs, hadv⟩ := Option.bind_eq_some_iff.1 hadv
  refine ⟨s, hs, ?_⟩
  cases hp : s.phase with
  | opened =>
    simp only [hp] at hadv
    split at hadv
    · next hclosed => cases hadv; exact .leave (by simpa [MayEnd, hp] using hclosed)
    · next hopen => cases hadv; exact .greet hp (by simpa using hopen)
  | greeted =>
    simp only [hp] at hadv
    split at hadv
    · next hend => cases hadv; exact .leave (by simpa [MayEnd, hp] using hend)
    · next hcalm => cases hadv; exact .lineUp hp (by simpa [IsUndisturbed] using hcalm)
  | waiting =>
    simp only [hp] at hadv
    split at hadv
    · next hend => cases hadv; exact .leave (by simpa [MayEnd, hp] using hend)
    · next hcalm =>
      split at hadv
      · next hfirst =>
        cases hadv; exact .takeCharge hp (by simpa [IsUndisturbed] using hcalm) hfirst
      · cases hadv
  | listening =>
    simp only [hp] at hadv
    split at hadv
    · next hend => cases hadv; exact .leave (by simpa [MayEnd, hp] using hend)
    · next hcalm =>
      obtain ⟨e, hqueue, rfl⟩ := Option.map_eq_some_iff.1 hadv
      exact .take e hp (by simpa [IsUndisturbed] using hcalm) hqueue
  | taken e =>
    simp only [hp] at hadv
    cases hadv
    exact .apply e hp
  | sending list =>
    simp only [hp] at hadv
    split at hadv
    · next hclosed => cases hadv; exact .leave (by simpa [MayEnd, hp] using hclosed)
    · next hopen =>
      split at hadv
      · next hroom => cases hadv; exact .deliver list hp (by simpa using hopen) hroom
      · cases hadv
  | ended => simp only [hp] at hadv; cases hadv

/-- Every rule is a move of the session. -/
theorem advance?_of_advances {h h' : Hub} {i : Nat} {s : Session}
    (hs : h.sessions[i]? = some s) (hadv : Advances h i s h') : h.advance? i = some h' := by
  cases hadv with
  | leave hend =>
    cases hp : s.phase <;> simp only [MayEnd, hp] at hend <;> simp [advance?, hs, hp, hend]
  | greet hphase hopen => simp [advance?, hs, hphase, hopen]
  | lineUp hphase hcalm => simp [advance?, hs, hphase, hcalm.1, hcalm.2]
  | takeCharge hphase hcalm hfirst => simp [advance?, hs, hphase, hcalm.1, hcalm.2, hfirst]
  | take e hphase hcalm hqueue => simp [advance?, hs, hphase, hcalm.1, hcalm.2, hqueue]
  | apply e hphase => simp [advance?, hs, hphase, applyEvent]
  | deliver list hphase hopen hroom => simp [advance?, hs, hphase, hopen, hroom]

/-- **A session moves exactly by the rules.** -/
theorem advance?_eq_some_iff {h h' : Hub} {i : Nat} :
    h.advance? i = some h' ↔ ∃ s, h.sessions[i]? = some s ∧ Advances h i s h' :=
  ⟨advances_of_advance?, fun ⟨_, hs, hadv⟩ => advance?_of_advances hs hadv⟩

/-- A session changes neither the class of the plugin nor what was accepted. -/
theorem Advances.kept {h h' : Hub} {i : Nat} {s : Session} (hadv : Advances h i s h') :
    h'.className = h.className ∧ h'.accepted = h.accepted := by
  cases hadv <;> exact ⟨rfl, rfl⟩

/-- A session raises no signal. -/
theorem Advances.signals {h h' : Hub} {i : Nat} {s : Session} (hadv : Advances h i s h') :
    h'.stop = h.stop ∧ h'.generations = h.generations := by
  cases hadv <;> exact ⟨rfl, rfl⟩

/-- A session that has taken an event applies it; any other leaves the units, what was applied and
the counters alone. -/
theorem Advances.applies_or {h h' : Hub} {i : Nat} {s : Session} (hadv : Advances h i s h') :
    (h'.units = h.units ∧ h'.applied = h.applied ∧ h'.metrics = h.metrics) ∨
      ∃ e, s.phase = .taken e ∧
        h' = (h.applyEvent i e).update i fun s => s.enter (.sending (e.apply h.units)) := by
  cases hadv with
  | apply e hphase => exact .inr ⟨e, hphase, rfl⟩
  | _ => exact .inl ⟨rfl, rfl, rfl⟩

/-- A session moves on its own. -/
theorem Advances.others {h h' : Hub} {i j : Nat} {s : Session} (hadv : Advances h i s h')
    (hij : i ≠ j) : h'.sessions[j]? = h.sessions[j]? := by
  cases hadv <;> exact sessions_update_of_ne _ hij

end GpuPassthrough.Hub
