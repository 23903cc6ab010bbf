import GpuPassthrough.Proofs.Session.Rest

/-!
# When a Generation Is Over

What the sessions of a generation that is over leave behind once no session can move. A session
looks at the signals while it waits for its turn or for an event, but not while it has a list to
send, so it lets go of the queue unless its client is there and has not read four lists. Such a
session is stuck: it holds the queue until its client reads or goes away, whatever else happens, and
the sessions of the generations after it wait.

## Main results

* `sessions_of_isStuck_run?`: a stuck session stays as it is until its client reads or goes away.
* `exists_run?_listening`: where nobody stands in the line, a new session takes the queue.
* `released_run?`: in every quiet hub a session whose generation is over stands in the line exactly
  if it is stuck.
* `unreleased_overrun`: a session whose generation was ended holds the queue, and one of the next
  generation waits for it.
-/

namespace GpuPassthrough

/-- Whether a session has a list to send for which its client, who is there, leaves no room. -/
def Session.IsStuck (s : Session) : Prop :=
  (∃ list, s.phase = .sending list) ∧ s.closed = false ∧ s.unread.length = Session.capacity

namespace Hub

/-! ### Stuck sessions -/

/-- A stuck session is at rest. -/
theorem atRest_of_isStuck (h : Hub) (i : Nat) {s : Session} (hstuck : s.IsStuck) :
    AtRest h i s := by
  obtain ⟨⟨list, hphase⟩, hopen, hfull⟩ := hstuck
  exact .blocked list hphase hopen (Nat.le_of_eq hfull.symm)

/-- A stuck session holds the queue. -/
theorem holds_of_isStuck {s : Session} (hstuck : s.IsStuck) : s.phase.Holds := by
  obtain ⟨⟨list, hphase⟩, -⟩ := hstuck
  rw [hphase]
  trivial

/-- Only its client takes a stuck session any further. -/
theorem sessions_of_isStuck_move? {h h' : Hub} {m : HubMove} {i : Nat} {s : Session}
    (hs : h.sessions[i]? = some s) (hstuck : s.IsStuck) (hread : m ≠ .read i)
    (hleft : m ≠ .disconnect i) (hmove : h.move? m = some h') : h'.sessions[i]? = some s := by
  obtain ⟨s', hs', hbecomes⟩ := becomes_of_move? hmove hs
  cases hbecomes with
  | same => exact hs'
  | advanced _ hadv => exact absurd hadv (h.atRest_of_isStuck i hstuck).not_advances
  | read hm => exact absurd hm hread
  | left hm => exact absurd hm hleft

/-- **A stuck session stays as it is** until its client reads or goes away, whatever else moves. -/
theorem sessions_of_isStuck_run? {h h' : Hub} {moves : List HubMove} {i : Nat} {s : Session}
    (hs : h.sessions[i]? = some s) (hstuck : s.IsStuck) (hread : .read i ∉ moves)
    (hleft : .disconnect i ∉ moves) (hrun : h.run? moves = some h') :
    h'.sessions[i]? = some s := by
  refine run?_induction (P := fun moves h' => .read i ∉ moves → .disconnect i ∉ moves →
    h'.sessions[i]? = some s) (fun _ _ => hs) (fun _ hkept hmove hread hleft => ?_) hrun hread hleft
  simp only [List.mem_append, List.mem_singleton, not_or] at hread hleft
  exact sessions_of_isStuck_move? (hkept hread.1 hleft.1) hstuck (Ne.symm hread.2)
    (Ne.symm hleft.2) hmove

/-- A session in charge is the first in the line. -/
theorem LineInOrder.first_of_session {h : Hub} (hline : h.LineInOrder) {i : Nat} {s : Session}
    (hs : h.sessions[i]? = some s) (hholds : s.phase.Holds) : h.line.head? = some i :=
  hline.first_of_holds (phases_of_session hs) hholds

/-! ### The next session -/

/-- **Where nobody stands in the line, a new session takes the queue**, if its generation is not
over. -/
theorem exists_run?_listening {h : Hub} (hline : h.line = []) {generation : Nat}
    (hknown : generation < h.generations.length) (hcalm : h.isOver generation = false) :
    let i := h.sessions.length
    ∃ h', h.run? [.connect generation, .advance i, .advance i, .advance i] = some h' ∧
      h'.phases[i]? = some .listening := by
  intro i
  let opened := h.connect generation
  let greeted := opened.update i fun s => (s.send h.units).enter .greeted
  let lined : Hub :=
    { greeted.update i fun s => s.enter .waiting with line := greeted.line ++ [i] }
  let served := lined.update i fun s => s.enter .listening
  have hs : opened.sessions[i]? = some { generation } := List.getElem?_concat_length
  have hgreet : opened.move? (.advance i) = some greeted :=
    advance?_of_advances hs (.greet rfl rfl)
  have hs := sessions_update_self (f := fun s => (s.send h.units).enter .greeted) hs
  have hlineUp : greeted.move? (.advance i) = some lined :=
    advance?_of_advances hs (.lineUp rfl ⟨hcalm, rfl⟩)
  have hs := sessions_update_self (f := fun s => s.enter .waiting) hs
  have hfirst : lined.line.head? = some i := by
    show (h.line ++ [i]).head? = some i
    rw [hline]
    rfl
  have htake : lined.move? (.advance i) = some served :=
    advance?_of_advances hs (.takeCharge rfl ⟨hcalm, rfl⟩ hfirst)
  have hs := sessions_update_self (f := fun s => s.enter .listening) hs
  refine ⟨served, ?_, phases_of_session hs⟩
  have hopen : h.move? (.connect generation) = some opened := if_pos hknown
  simp only [run?_cons, run?_nil, hopen, hgreet, hlineUp, htake, Option.bind_some]

/-! ### What is left of a generation -/

/-- **What a quiet hub keeps of generations that are over.** -/
structure Released (h : Hub) : Prop where
  /-- A session whose generation is over holds the queue or waits for it exactly if it is stuck. -/
  lined_iff : ∀ (i : Nat) (s : Session), h.sessions[i]? = some s →
    h.isOver s.generation = true → (s.phase.IsLined ↔ s.IsStuck)
  /-- The first in the line holds the queue, and is stuck if its generation is over. -/
  first : ∀ (i : Nat) (s : Session), h.sessions[i]? = some s → h.line.head? = some i →
    s.phase.Holds ∧ (h.isOver s.generation = true → s.IsStuck)
  /-- A stuck session holds the queue until its client reads or goes away, whatever else moves. -/
  kept : ∀ (i : Nat) (s : Session), h.sessions[i]? = some s → s.IsStuck →
    ∀ later h', .read i ∉ later → .disconnect i ∉ later → h.run? later = some h' →
      h'.sessions[i]? = some s ∧ h'.line.head? = some i
  /-- Where nobody stands in the line, the next session of a generation that goes on takes the
  queue. -/
  next : h.line = [] → ∀ generation < h.generations.length, h.isOver generation = false →
    let i := h.sessions.length
    ∃ h', h.run? [.connect generation, .advance i, .advance i, .advance i] = some h' ∧
      h'.phases[i]? = some .listening

/-- **In every quiet hub a session whose generation is over stands in the line exactly if it is
stuck**, so that the queue is free for the next generation or in the hands of a client that does not
read. -/
theorem released_run? {className : String} {units : List AdvertisedUnit} {stop : Signal}
    {metrics : Metrics} {moves : List HubMove} {h : Hub}
    (hrun : (fresh className units stop metrics).run? moves = some h) (hquiet : h.IsQuiet) :
    Released h := by
  have hline : h.LineInOrder := lineInOrder_run? hrun
  -- A session that looks at the signals would have seen that its generation is over.
  have hstuck : ∀ (i : Nat) (s : Session), h.sessions[i]? = some s →
      h.isOver s.generation = true → s.phase.IsLined → s.IsStuck := by
    intro i s hs hover hlined
    cases hquiet.atRest hs with
    | ended hphase => rw [hphase] at hlined; exact hlined.elim
    | behind _ hcalm => rw [hcalm.1] at hover; cases hover
    | idle _ hcalm => rw [hcalm.1] at hover; cases hover
    | blocked list hphase hopen hfull =>
      exact ⟨⟨list, hphase⟩, hopen, Nat.le_antisymm (unread_le_capacity hrun hs) hfull⟩
  refine ⟨fun i s hs hover => ⟨hstuck i s hs hover, fun h' => ?_⟩, fun i s hs hfirst => ?_,
    fun i s hs hstuck later h' hread hleft hlater => ?_,
    fun hnobody generation hknown hcalm => exists_run?_listening hnobody hknown hcalm⟩
  · exact SessionPhase.isLined_of_holds (holds_of_isStuck h')
  · obtain ⟨t, ht, hholds⟩ := hquiet.holds_of_first hline hfirst
    obtain rfl : s = t := Option.some.inj (hs.symm.trans ht)
    exact ⟨hholds, fun hover => hstuck i s hs hover (SessionPhase.isLined_of_holds hholds)⟩
  · have hs' := sessions_of_isStuck_run? hs hstuck hread hleft hlater
    exact ⟨hs', (hline.run? hlater).first_of_session hs' (holds_of_isStuck hstuck)⟩

/-- A client that does not read: the session of the first generation fills its stream with four
lists and has a fifth to send when its generation is ended, and a session of the next generation
lines up for the queue while an event comes in. -/
def overrun : List HubMove :=
  let update : List HubMove := [.offer ⟨"1", .unhealthy⟩, .advance 0, .advance 0]
  [.renew, .connect 0, .advance 0, .advance 0, .advance 0] ++
    update ++ [.advance 0] ++ update ++ [.advance 0] ++ update ++ [.advance 0] ++ update ++
    [.terminate 0, .renew, .connect 1, .advance 1, .advance 1, .offer ⟨"1", .healthy⟩]

/-- Where the client that does not read leads: nothing can move, the session of the generation that
was ended is stuck, and the one of the next generation waits while an event is in the queue. -/
theorem exists_run?_overrun :
    ∃ h s t, (fresh "pgpu" [⟨"1", .healthy, none⟩] {} {}).run? overrun = some h ∧ h.IsQuiet ∧
      h.isTerminated 0 = true ∧ h.sessions[0]? = some s ∧ s.generation = 0 ∧ s.IsStuck ∧
      h.isOver 1 = false ∧ h.sessions[1]? = some t ∧ t.generation = 1 ∧ t.phase = .waiting ∧
      h.queue = some ⟨"1", .healthy⟩ :=
  ⟨_, _, _, rfl, isQuiet_of_next?_eq_none rfl, rfl, rfl, rfl, ⟨⟨_, rfl⟩, rfl, rfl⟩, rfl, rfl, rfl,
    rfl, rfl⟩

/-- What is left of the generation that was ended: its session, which is stuck. -/
theorem released_overrun :
    ∃ h s, (fresh "pgpu" [⟨"1", .healthy, none⟩] {} {}).run? overrun = some h ∧ h.IsQuiet ∧
      h.sessions[0]? = some s ∧ s.IsStuck ∧ Released h := by
  obtain ⟨h, s, -, hrun, hquiet, -, hs, -, hstuck, -⟩ := exists_run?_overrun
  exact ⟨h, s, hrun, hquiet, hs, hstuck, released_run? hrun hquiet⟩

/-- **A generation can keep the queue after its end**: no session can move, the one of the generation
that was ended holds the queue, and the one of the next generation waits for it while an event is
there. -/
theorem unreleased_overrun :
    ∃ h s t, (fresh "pgpu" [⟨"1", .healthy, none⟩] {} {}).run? overrun = some h ∧ h.IsQuiet ∧
      h.isTerminated 0 = true ∧ h.sessions[0]? = some s ∧ s.generation = 0 ∧ s.phase.Holds ∧
      h.isOver 1 = false ∧ h.sessions[1]? = some t ∧ t.generation = 1 ∧ t.phase = .waiting ∧
      h.queue = some ⟨"1", .healthy⟩ := by
  obtain ⟨h, s, t, hrun, hquiet, hterminated, hs, hgeneration, hstuck, hnext⟩ :=
    exists_run?_overrun
  exact ⟨h, s, t, hrun, hquiet, hterminated, hs, hgeneration, holds_of_isStuck hstuck, hnext⟩

end Hub

end GpuPassthrough
