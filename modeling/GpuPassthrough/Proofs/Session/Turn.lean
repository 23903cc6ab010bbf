import GpuPassthrough.Proofs.Session.Client

/-!
# One Turn at the Queue

A session has one turn at the queue, from taking charge to its end, and the events that it applies
follow one another in the history of the hub. So its lists after the first go through the history
without a gap: each shows the units one event after the list before.

## Main results

* `hasHeld_of_mem_applied`: a session that has applied an event has held the queue.
* `oneTurn_run?`: in every run the events of a session follow one another.
* `OneTurn.echoes_getElem?`: the lists of a session go through the history without a gap.
-/

namespace GpuPassthrough

/-! ### Lists along a history -/

/-- A session owes one list for each event that it applied. -/
theorem length_echoes (i : Nat) (units : List AdvertisedUnit)
    (applied : List (Nat × HealthEvent)) :
    (echoes i units applied).length = applied.countP fun entry => entry.1 = i := by
  induction applied generalizing units with
  | nil => rfl
  | cons entry rest ih =>
    obtain ⟨j, e⟩ := entry
    by_cases hji : j = i <;> simp [echoes, hji, ih]

/-- The lists owed for events that follow one another: each shows the units one event later. -/
theorem echoes_map_getElem? {i k : Nat} {units list : List AdvertisedUnit}
    {own : List HealthEvent} (hlist : (echoes i units (own.map (Prod.mk i)))[k]? = some list) :
    ∃ e, own[k]? = some e ∧ list = e.apply (unitsAfter units (own.take k)) := by
  induction own generalizing units k with
  | nil => simp [echoes] at hlist
  | cons e rest ih =>
    rw [List.map_cons, echoes, if_pos rfl] at hlist
    cases k with
    | zero => exact ⟨e, rfl, by simpa using hlist.symm⟩
    | succ k =>
      obtain ⟨e', he', rfl⟩ := ih (by simpa using hlist)
      exact ⟨e', he', by rw [List.take_succ_cons, unitsAfter_cons]⟩

namespace Hub

/-- **The events of session `i` follow one another** in a history. -/
def OneTurn (i : Nat) (applied : List (Nat × HealthEvent)) : Prop :=
  ∃ (before : List (Nat × HealthEvent)) (own : List HealthEvent) (after : List (Nat × HealthEvent)),
    applied = before ++ (own.map (Prod.mk i) ++ after) ∧ (∀ e, (i, e) ∉ before) ∧
      ∀ e, (i, e) ∉ after

/-- **The lists of a session go through the history without a gap**: each shows the units right after
the next event. -/
theorem OneTurn.echoes_getElem? {i : Nat} {applied : List (Nat × HealthEvent)}
    (hturn : OneTurn i applied) (units : List AdvertisedUnit) :
    ∃ start, ∀ (k : Nat) (list : List AdvertisedUnit), (echoes i units applied)[k]? = some list →
      ∃ e, applied[start + k]? = some (i, e) ∧
        list = e.apply (unitsAfter units ((applied.take (start + k)).map Prod.snd)) := by
  obtain ⟨before, own, after, rfl, hbefore, hafter⟩ := hturn
  refine ⟨before.length, fun k list hlist => ?_⟩
  rw [echoes_append, echoes_append, echoes_eq_nil hbefore, echoes_eq_nil hafter, List.append_nil,
    List.nil_append] at hlist
  obtain ⟨e, he, rfl⟩ := echoes_map_getElem? hlist
  have hk : k < own.length := (List.getElem?_eq_some_iff.1 he).1
  refine ⟨e, ?_, ?_⟩
  · rw [List.getElem?_append_right (Nat.le_add_right _ _), Nat.add_sub_cancel_left,
      List.getElem?_append_left (by simpa using hk), List.getElem?_map, he, Option.map_some]
  · have htake : (before ++ (own.map (Prod.mk i) ++ after)).take (before.length + k) =
        before ++ (own.take k).map (Prod.mk i) := by
      rw [List.take_length_add_append, List.take_append_of_le_length (by simpa using Nat.le_of_lt hk),
        List.map_take]
    have hown : ((own.take k).map (Prod.mk i)).map Prod.snd = own.take k := by
      rw [List.map_map]
      exact List.map_id _
    rw [htake, List.map_append, hown, unitsAfter_append]

/-! ### What a move applies -/

/-- A move applies no event, or it is that of a session that applies the event it has taken. -/
theorem applied_of_move? {h h' : Hub} {m : HubMove} (hmove : h.move? m = some h') :
    h'.applied = h.applied ∨ ∃ i e, m = .advance i ∧ h.phases[i]? = some (.taken e) ∧
      h'.applied = h.applied ++ [(i, e)] := by
  rcases advances_or_outside hmove with ⟨i, s, rfl, hs, hadv⟩ | hout
  · rcases hadv.applies_or with ⟨-, happlied, -⟩ | ⟨e, hphase, rfl⟩
    · exact .inl happlied
    · exact .inr ⟨i, e, rfl, by rw [phases_of_session hs, hphase], rfl⟩
  · exact .inl hout.applied

/-- Whether session `i` has held the queue at some point of a run. -/
def HasHeld (start : Hub) (moves : List HubMove) (i : Nat) : Prop :=
  ∃ before after h p, moves = before ++ after ∧ start.run? before = some h ∧
    h.phases[i]? = some p ∧ p.Holds

/-- A session that has held the queue has held it, however the run goes on. -/
theorem HasHeld.concat {start : Hub} {moves : List HubMove} {i : Nat}
    (hheld : HasHeld start moves i) (m : HubMove) : HasHeld start (moves ++ [m]) i := by
  obtain ⟨before, after, h, p, rfl, hrun, hp, hholds⟩ := hheld
  exact ⟨before, after ++ [m], h, p, by rw [List.append_assoc], hrun, hp, hholds⟩

/-- A session that holds the queue after a run has held it. -/
theorem hasHeld_of_holds {start h : Hub} {moves : List HubMove}
    (hrun : start.run? moves = some h) {i : Nat} {p : SessionPhase} (hp : h.phases[i]? = some p)
    (hholds : p.Holds) : HasHeld start moves i :=
  ⟨moves, [], h, p, (List.append_nil _).symm, hrun, hp, hholds⟩

/-- **A session that has applied an event has held the queue.** -/
theorem hasHeld_of_mem_applied {className : String} {units : List AdvertisedUnit} {stop : Signal}
    {metrics : Metrics} {moves : List HubMove} {h : Hub} {i : Nat} {e : HealthEvent}
    (hrun : (fresh className units stop metrics).run? moves = some h)
    (hmem : (i, e) ∈ h.applied) : HasHeld (fresh className units stop metrics) moves i := by
  refine run?_induction (P := fun moves h => (i, e) ∈ h.applied →
    HasHeld (fresh className units stop metrics) moves i) (fun hmem => ?_)
    (fun {_ _ m _} hbefore hheld hmove hmem => ?_) hrun hmem
  · simp [fresh] at hmem
  · rcases applied_of_move? hmove with happlied | ⟨j, e', -, hp, happlied⟩
    · exact (hheld (happlied ▸ hmem)).concat m
    · rw [happlied, List.mem_append, List.mem_singleton, Prod.mk.injEq] at hmem
      rcases hmem with hmem | ⟨rfl, -⟩
      · exact (hheld hmem).concat m
      · exact (hasHeld_of_holds hbefore hp trivial).concat m

/-! ### One turn -/

/-- One more event is applied: by another session, by the one that applied the last event, or by one
that has applied none. -/
theorem OneTurn.concat {i j : Nat} {e : HealthEvent} {applied : List (Nat × HealthEvent)}
    (hturn : OneTurn i applied)
    (hlast : j = i → ∀ e', (i, e') ∈ applied → ∃ e'', applied.getLast? = some (i, e'')) :
    OneTurn i (applied ++ [(j, e)]) := by
  by_cases hji : j = i
  · subst hji
    by_cases hnone : ∀ e', (j, e') ∉ applied
    · exact ⟨applied, [e], [], by simp, hnone, nofun⟩
    · obtain ⟨e', hmem⟩ := not_forall_not.1 hnone
      obtain ⟨e'', hlast⟩ := hlast rfl e' hmem
      obtain ⟨before, own, after, rfl, hbefore, hafter⟩ := hturn
      -- The last event is one of the session, so none of another stands after its own.
      obtain rfl : after = [] := by
        by_contra hne
        rw [← List.append_assoc, List.getLast?_append, List.getLast?_eq_some_getLast hne,
          Option.some_or, Option.some.injEq] at hlast
        exact hafter e'' (hlast ▸ List.getLast_mem hne)
      exact ⟨before, own ++ [e], [], by simp, hbefore, nofun⟩
  · obtain ⟨before, own, after, rfl, hbefore, hafter⟩ := hturn
    refine ⟨before, own, after ++ [(j, e)], by simp, hbefore, fun e' hmem => ?_⟩
    rw [List.mem_append, List.mem_singleton, Prod.mk.injEq] at hmem
    rcases hmem with hmem | ⟨hij, -⟩
    · exact hafter e' hmem
    · exact hji hij.symm

/-- **In every run the events of a session follow one another.** -/
theorem oneTurn_run? {className : String} {units : List AdvertisedUnit} {stop : Signal}
    {metrics : Metrics} {moves : List HubMove} {h : Hub}
    (hrun : (fresh className units stop metrics).run? moves = some h) (i : Nat) :
    OneTurn i h.applied := by
  refine run?_induction (P := fun _ h => OneTurn i h.applied) ?_
    (fun hbefore hturn hmove => ?_) hrun
  · exact ⟨[], [], [], rfl, nofun, nofun⟩
  · rcases applied_of_move? hmove with happlied | ⟨j, e, -, hp, happlied⟩
    · rwa [happlied]
    · rw [happlied]
      refine hturn.concat fun hji e' hmem => ?_
      subst hji
      exact (turns_run? hbefore).current hp trivial hmem

end Hub

end GpuPassthrough
