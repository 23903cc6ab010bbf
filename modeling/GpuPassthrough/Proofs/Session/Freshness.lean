import GpuPassthrough.Proofs.Session.Transcript

/-!
# What a Client Knows

Whether the client of the session in charge knows the health of the units. A session greets its
client before it steps into the line, so while it waits another session may apply events whose
lists it never sends. The list that its client has is up to date once it has applied an event of its
own; before, it is the greeting, which the units may have left behind.

## Main results

* `upToDate_iff`: exactly when the last list of the session in charge shows the units as they are.
* `outdated_handover`: a session that took over the queue has a client that takes a unit for healthy
  which is not.
-/

namespace GpuPassthrough.Hub

/-- **A session at rest in charge**: no session can move, it is the first in the line, the queue is
empty and it has no list in hand. -/
structure RestsInCharge (h : Hub) (i : Nat) (s : Session) : Prop where
  quiet : h.IsQuiet
  session : h.sessions[i]? = some s
  first : h.line.head? = some i
  empty : h.queue = none
  nothingInHand : ∀ list, s.phase ≠ .sending list

/-- A session at rest in charge waits for an event. -/
theorem RestsInCharge.listening {h : Hub} {i : Nat} {s : Session} (hrest : h.RestsInCharge i s)
    (hline : h.LineInOrder) : s.phase = .listening := by
  have hmem : i ∈ h.line := List.mem_of_mem_head? hrest.first
  obtain ⟨p, hp, hlined⟩ := (hline.mem_iff i).1 hmem
  obtain rfl : s.phase = p :=
    Option.some.inj ((phases_of_session hrest.session).symm.trans hp)
  -- In every other phase of the line the first could move.
  have hstuck : ∀ h', ¬ Advances h i s h' := by
    intro h' hadv
    have hmove := advance?_of_advances hrest.session hadv
    rw [hrest.quiet i] at hmove
    cases hmove
  cases hphase : s.phase with
  | listening => rfl
  | waiting =>
    by_cases hcalm : h.IsUndisturbed s
    · exact absurd (.takeCharge hphase hcalm hrest.first) (hstuck _)
    · refine absurd (.leave ?_) (hstuck _)
      have hend : h.isOver s.generation = true ∨ s.closed = true := by
        simpa [IsUndisturbed, or_iff_not_imp_left] using hcalm
      simpa only [MayEnd, hphase] using hend
  | taken e => exact absurd (.apply e hphase) (hstuck _)
  | sending list => exact absurd hphase (hrest.nothingInHand list)
  | opened | greeted | ended =>
    rw [hphase] at hlined
    exact hlined.elim

/-- **Exactly when the client of the session in charge is up to date**: the session has applied an
event itself, or the units are again as they were when it greeted its client. -/
theorem upToDate_iff {className : String} {units : List AdvertisedUnit} {stop : Signal}
    {metrics : Metrics} {moves : List HubMove} {h : Hub} {i : Nat} {s : Session}
    (hrun : (fresh className units stop metrics).run? moves = some h)
    (hrest : h.RestsInCharge i s) :
    ∃ first, Greeting (fresh className units stop metrics) moves i first ∧
      s.sent.head? = some first ∧
      (s.sent.getLast? = some h.units ↔ (∃ e, (i, e) ∈ h.applied) ∨ first = h.units) := by
  have hphase : s.phase = .listening := hrest.listening (lineInOrder_run? hrun)
  have hrecites := recited_run? hrun i s hrest.session
  simp only [Recites, hphase] at hrecites
  obtain ⟨first, hfirst, hsent⟩ := hrecites
  refine ⟨first, hfirst, by rw [hsent, List.head?_cons], ?_⟩
  by_cases happlied : ∃ e, (i, e) ∈ h.applied
  · -- Nobody has applied an event after the last one of the session in charge.
    obtain ⟨e, hmem⟩ := happlied
    have hp := phases_of_session hrest.session
    rw [hphase] at hp
    obtain ⟨e', hlast⟩ := (turns_run? hrun).current hp trivial hmem
    have hshown := echoes_getLast? hlast units
    rw [← (reflected_run? hrun).inUnits] at hshown
    have hup : s.sent.getLast? = some h.units := by
      rw [hsent, List.getLast?_cons]
      exact congrArg (fun last => some (last.getD first)) hshown
    exact ⟨fun _ => .inl ⟨e, hmem⟩, fun _ => hup⟩
  · have hnone : ∀ e, (i, e) ∉ h.applied := fun e hmem => happlied ⟨e, hmem⟩
    have hgreeting : s.sent.getLast? = some first := by
      rw [hsent, echoes_eq_nil hnone, List.getLast?_singleton]
    rw [hgreeting, Option.some.injEq]
    exact ⟨.inr, fun hor => hor.resolve_left happlied⟩

/-- A hand-over: two sessions greet their clients, the first applies an event and its client goes
away, and the second takes over. -/
def handover : List HubMove :=
  [.renew, .connect 0, .connect 0, .advance 0, .advance 0, .advance 0, .advance 1, .advance 1,
    .offer ⟨"1", .unhealthy⟩, .advance 0, .advance 0, .advance 0, .disconnect 0, .advance 0,
    .advance 1]

/-- After the hand-over the second session rests in charge and has sent its greeting only. -/
theorem restsInCharge_handover :
    ∃ h s, (fresh "pgpu" [⟨"1", .healthy, none⟩] {} {}).run? handover = some h ∧
      h.RestsInCharge 1 s ∧ h.units = [⟨"1", .unhealthy, none⟩] ∧
      s.sent = [[⟨"1", .healthy, none⟩]] :=
  ⟨_, _, rfl, ⟨isQuiet_of_next?_eq_none rfl, rfl, rfl, rfl, fun _ h => nomatch h⟩, rfl, rfl⟩

/-- The condition at the hand-over: the second session has applied nothing, and the units are no
longer those of its greeting. -/
theorem upToDate_iff_handover :
    ∃ h s, (fresh "pgpu" [⟨"1", .healthy, none⟩] {} {}).run? handover = some h ∧
      h.RestsInCharge 1 s ∧
      ∃ first, Greeting (fresh "pgpu" [⟨"1", .healthy, none⟩] {} {}) handover 1 first ∧
        s.sent.head? = some first ∧
        (s.sent.getLast? = some h.units ↔ (∃ e, (1, e) ∈ h.applied) ∨ first = h.units) := by
  obtain ⟨h, s, hrun, hrest, -, -⟩ := restsInCharge_handover
  exact ⟨h, s, hrun, hrest, upToDate_iff hrun hrest⟩

/-- **A client can be left behind**: after the hand-over the second session is in charge, nothing is
left to do, and its client takes the unit for healthy. -/
theorem outdated_handover :
    ∃ h s, (fresh "pgpu" [⟨"1", .healthy, none⟩] {} {}).run? handover = some h ∧
      h.RestsInCharge 1 s ∧ s.sent.getLast? ≠ some h.units := by
  obtain ⟨h, s, hrun, hrest, hunits, hsent⟩ := restsInCharge_handover
  refine ⟨h, s, hrun, hrest, ?_⟩
  rw [hsent, hunits]
  decide

end GpuPassthrough.Hub
