import GpuPassthrough.Proofs.Session.Client

/-!
# Sessions at Rest

Where a session can stand when it cannot move: it has ended, it waits behind another one, it listens
to an empty queue, or its client leaves no room for a list. Only in the second and the third does it
look at the signals, so a session whose generation is over rests at its end or with a list in hand.

## Main results

* `advance?_eq_none_iff`: a session cannot move exactly if it is at rest.
* `IsQuiet.holds_of_first`: where no session can move, the first in the line holds the queue.
-/

namespace GpuPassthrough.Hub

/-- **Why session `i`**, which is `s`, **cannot move.** -/
inductive AtRest (h : Hub) (i : Nat) (s : Session) : Prop
  /-- It has ended. -/
  | ended (hphase : s.phase = .ended)
  /-- It waits in the line, not as the first. -/
  | behind (hphase : s.phase = .waiting) (hcalm : h.IsUndisturbed s)
      (hfirst : h.line.head? ≠ some i)
  /-- It holds the queue, which is empty. -/
  | idle (hphase : s.phase = .listening) (hcalm : h.IsUndisturbed s) (hempty : h.queue = none)
  /-- It has a list to send, and its stream is full. -/
  | blocked (list : List AdvertisedUnit) (hphase : s.phase = .sending list)
      (hopen : s.closed = false) (hfull : Session.capacity ≤ s.unread.length)

/-- A session that looks at the signals may end or is undisturbed. -/
theorem over_or_isUndisturbed (h : Hub) (s : Session) :
    (h.isOver s.generation = true ∨ s.closed = true) ∨ h.IsUndisturbed s := by
  rw [IsUndisturbed]
  cases h.isOver s.generation <;> cases s.closed <;> simp

/-- A session without a rule to follow is at rest. -/
theorem atRest_of_forall_not {h : Hub} {i : Nat} {s : Session}
    (hstays : ∀ h', ¬ Advances h i s h') : AtRest h i s := by
  cases hphase : s.phase with
  | opened =>
    cases hclosed : s.closed with
    | true => exact absurd (.leave (by simpa only [MayEnd, hphase] using hclosed)) (hstays _)
    | false => exact absurd (.greet hphase hclosed) (hstays _)
  | greeted =>
    rcases h.over_or_isUndisturbed s with hend | hcalm
    · exact absurd (.leave (by simpa only [MayEnd, hphase] using hend)) (hstays _)
    · exact absurd (.lineUp hphase hcalm) (hstays _)
  | waiting =>
    rcases h.over_or_isUndisturbed s with hend | hcalm
    · exact absurd (.leave (by simpa only [MayEnd, hphase] using hend)) (hstays _)
    · exact .behind hphase hcalm fun hfirst => hstays _ (.takeCharge hphase hcalm hfirst)
  | listening =>
    rcases h.over_or_isUndisturbed s with hend | hcalm
    · exact absurd (.leave (by simpa only [MayEnd, hphase] using hend)) (hstays _)
    · cases hqueue : h.queue with
      | none => exact .idle hphase hcalm hqueue
      | some e => exact absurd (.take e hphase hcalm hqueue) (hstays _)
  | taken e => exact absurd (.apply e hphase) (hstays _)
  | sending list =>
    cases hclosed : s.closed with
    | true => exact absurd (.leave (by simpa only [MayEnd, hphase] using hclosed)) (hstays _)
    | false =>
      exact .blocked list hphase hclosed
        (Nat.le_of_not_lt fun hroom => hstays _ (.deliver list hphase hclosed hroom))
  | ended => exact .ended hphase

/-- No rule takes a session away from its rest. -/
theorem AtRest.not_advances {h h' : Hub} {i : Nat} {s : Session} (hrest : AtRest h i s) :
    ¬ Advances h i s h' := by
  intro hadv
  cases hrest with
  | ended hphase => cases hadv <;> simp_all [MayEnd]
  | behind hphase hcalm hfirst => cases hadv <;> simp_all [MayEnd, IsUndisturbed]
  | idle hphase hcalm hempty => cases hadv <;> simp_all [MayEnd, IsUndisturbed]
  | blocked list hphase hopen hfull =>
    cases hadv with
    | deliver list' hphase' hopen' hroom => exact absurd hroom (Nat.not_lt_of_le hfull)
    | _ => simp_all [MayEnd]

/-- **A session cannot move exactly if it is at rest.** -/
theorem advance?_eq_none_iff {h : Hub} {i : Nat} {s : Session} (hs : h.sessions[i]? = some s) :
    h.advance? i = none ↔ AtRest h i s := by
  constructor
  · intro hnone
    refine atRest_of_forall_not fun h' hadv => ?_
    have hmove := advance?_of_advances hs hadv
    rw [hnone] at hmove
    cases hmove
  · intro hrest
    cases hmove : h.advance? i with
    | none => rfl
    | some h' =>
      obtain ⟨t, ht, hadv⟩ := advances_of_advance? hmove
      obtain rfl : s = t := Option.some.inj (hs.symm.trans ht)
      exact absurd hadv hrest.not_advances

/-- In a quiet hub every session is at rest. -/
theorem IsQuiet.atRest {h : Hub} (hquiet : h.IsQuiet) {i : Nat} {s : Session}
    (hs : h.sessions[i]? = some s) : AtRest h i s :=
  (advance?_eq_none_iff hs).1 (hquiet i)

/-- Where no session can move, the first in the line holds the queue. -/
theorem IsQuiet.holds_of_first {h : Hub} (hquiet : h.IsQuiet) (hline : h.LineInOrder) {i : Nat}
    (hfirst : h.line.head? = some i) : ∃ s, h.sessions[i]? = some s ∧ s.phase.Holds := by
  obtain ⟨p, hp, hlined⟩ := (hline.mem_iff i).1 (List.mem_of_mem_head? hfirst)
  rw [phases_getElem?] at hp
  obtain ⟨s, hs, rfl⟩ := Option.map_eq_some_iff.1 hp
  refine ⟨s, hs, ?_⟩
  cases hquiet.atRest hs with
  | ended hphase => rw [hphase] at hlined; exact hlined.elim
  | behind _ _ hbehind => exact absurd hfirst hbehind
  | idle hphase => rw [hphase]; trivial
  | blocked list hphase => rw [hphase]; trivial

end GpuPassthrough.Hub
