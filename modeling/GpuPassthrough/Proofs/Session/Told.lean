import GpuPassthrough.Proofs.Session.Turn

/-!
# What a Client Is Told

The lists that a client can read are those that its session has sent: the units at the start of the
session and then, for each event that the session applied, the units right after it, none left out,
merged or made up. Only the last one can be missing, for a client that is gone or has not read the
four lists that its stream has room for, or between two moves of the session.

## Main results

* `exists_greeting`: a session that has moved has a greeting.
* `length_sent_of_ended`: a session that ended with its client there has sent every list it owes.
* `told_run?`: what the client of every session of every run is told.
-/

namespace GpuPassthrough.Hub

variable {className : String} {units : List AdvertisedUnit} {stop : Signal} {metrics : Metrics}
variable {moves : List HubMove} {h : Hub} {i : Nat} {s : Session}

/-- A session that has moved has a greeting. -/
theorem exists_greeting
    (hrun : (fresh className units stop metrics).run? moves = some h)
    (hs : h.sessions[i]? = some s) (hmoved : s.phase ≠ .opened) :
    ∃ first, Greeting (fresh className units stop metrics) moves i first := by
  refine session_induction (P := fun moves _ i s => s.phase ≠ .opened →
    ∃ first, Greeting (fresh className units stop metrics) moves i first) rfl
    (fun _ _ _ hphase _ hmoved => absurd hphase hmoved) ?_ hrun hs hmoved
  intro moves h m h' i s s' hbefore hmove hs hs' hbecomes hgreeting hmoved
  have hkept : s.phase ≠ .opened →
      ∃ first, Greeting (fresh className units stop metrics) (moves ++ [m]) i first := by
    intro hphase
    obtain ⟨first, hfirst⟩ := hgreeting hphase
    exact ⟨first, hfirst.concat m⟩
  cases hbecomes with
  | same => exact hkept hmoved
  | read => exact hkept hmoved
  | left => exact hkept hmoved
  | advanced hself hadv =>
    subst hself
    by_cases hphase : s.phase = .opened
    · exact ⟨h.units, moves, [], h, rfl, hbefore, hphase ▸ phases_of_session hs, rfl⟩
    · exact hkept hphase

/-- The events that a session has applied are the same after a move that is not its own. -/
theorem countP_applied_of_ne {h' : Hub} {m : HubMove} (hmove : h.move? m = some h')
    (hne : m ≠ .advance i) :
    (h'.applied.countP fun entry => entry.1 = i) = h.applied.countP fun entry => entry.1 = i := by
  rcases applied_of_move? hmove with happlied | ⟨j, e, rfl, -, happlied⟩
  · rw [happlied]
  · have hji : j ≠ i := fun hji => hne (hji ▸ rfl)
    simp [happlied, hji]

/-- A session that ended while its client was there has sent every list that it owes. -/
theorem length_sent_of_ended
    (hrun : (fresh className units stop metrics).run? moves = some h)
    (hs : h.sessions[i]? = some s) (hended : s.phase = .ended) (hthere : s.closed = false) :
    s.sent.length = 1 + h.applied.countP fun entry => entry.1 = i := by
  refine session_induction (P := fun _ h i s => s.phase = .ended → s.closed = false →
    s.sent.length = 1 + h.applied.countP fun entry => entry.1 = i) rfl
    (fun _ _ _ hphase _ hended => by rw [hphase] at hended; cases hended) ?_ hrun hs hended hthere
  intro moves h m h' i s s' hbefore hmove hs hs' hbecomes hsent hended hthere
  cases hbecomes with
  | same hothers =>
    rw [countP_applied_of_ne hmove hothers]
    exact hsent hended hthere
  | read hread =>
    rw [countP_applied_of_ne hmove (hread ▸ nofun)]
    exact hsent hended hthere
  | left => cases hthere
  | advanced hself hadv =>
    have hrecites := recited_run? hbefore _ _ hs
    cases hadv with
    | leave hend =>
      obtain rfl := eq_of_update hs hs'
      have hthere : s.closed = false := hthere
      -- With its client there, it ended where it has no list in hand.
      cases hphase : s.phase with
      | greeted | waiting | listening =>
        simp only [Recites, hphase] at hrecites
        obtain ⟨first, -, hrecites⟩ := hrecites
        show s.sent.length = 1 + h.applied.countP fun entry => entry.1 = i
        rw [hrecites, List.length_cons, length_echoes, Nat.add_comm]
      | _ => simp [MayEnd, hphase, hthere] at hend
    | _ =>
      obtain rfl := eq_of_update hs hs'
      cases hended

/-- A session that has ended misses no more than its last list, and that only if its client is
gone. -/
theorem exists_missing_of_ended
    (hrun : (fresh className units stop metrics).run? moves = some h)
    (hs : h.sessions[i]? = some s) (hended : s.phase = .ended) :
    ∃ first missing, Greeting (fresh className units stop metrics) moves i first ∧
      s.sent ++ missing = first :: echoes i units h.applied ∧ missing.length ≤ 1 ∧
      (missing ≠ [] → s.closed = true) := by
  have hrecites := recited_run? hrun i s hs
  simp only [Recites, hended] at hrecites
  have hlength := length_sent_of_ended hrun hs hended
  rw [← length_echoes i units] at hlength
  rcases hrecites with ⟨hsent, hdue⟩ | ⟨first, missing, hfirst, hmissing, hsent⟩
  · obtain ⟨first, hfirst⟩ := exists_greeting hrun hs (by rw [hended]; simp)
    refine ⟨first, [first], hfirst, ?_, Nat.le_refl 1, fun _ => ?_⟩
    · rw [hsent, List.nil_append]
      exact congrArg _ hdue.symm
    · rw [← Bool.not_eq_false]
      intro hthere
      have hsome := hlength hthere
      rw [hsent, List.length_nil] at hsome
      omega
  · refine ⟨first, missing, hfirst, hsent, hmissing, fun hne => ?_⟩
    rw [← Bool.not_eq_false]
    intro hthere
    have hall := congrArg List.length hsent
    have hsome := hlength hthere
    have hpos := List.length_pos_iff.2 hne
    simp only [List.length_append, List.length_cons] at hall
    change s.sent.length + missing.length = (echoes i units h.applied).length + 1 at hall
    omega

/-- **Only the last list can be missing**: if the client is gone or has four lists to read, or if the
next move of the session sends it. -/
theorem exists_missing
    (hrun : (fresh className units stop metrics).run? moves = some h)
    (hs : h.sessions[i]? = some s) (hmoved : s.phase ≠ .opened) :
    ∃ first missing, Greeting (fresh className units stop metrics) moves i first ∧
      s.sent ++ missing = first :: echoes i units h.applied ∧ missing.length ≤ 1 ∧
      ∀ list ∈ missing, s.closed = true ∨ s.unread.length = Session.capacity ∨
        h.advance? i = some (h.update i fun s => (s.send list).enter .listening) := by
  have hrecites := recited_run? hrun i s hs
  cases hphase : s.phase with
  | opened => exact absurd hphase hmoved
  | greeted | waiting | listening | taken e =>
    simp only [Recites, hphase] at hrecites
    obtain ⟨first, hfirst, hsent⟩ := hrecites
    exact ⟨first, [], hfirst, by rw [List.append_nil]; exact hsent, Nat.zero_le 1,
      fun _ hlist => absurd hlist List.not_mem_nil⟩
  | sending list =>
    simp only [Recites, hphase] at hrecites
    obtain ⟨first, hfirst, hsent⟩ := hrecites
    refine ⟨first, [list], hfirst, hsent, Nat.le_refl 1, fun other hother => ?_⟩
    obtain rfl := List.mem_singleton.1 hother
    cases hthere : s.closed with
    | true => exact .inl rfl
    | false =>
      rcases Nat.lt_or_eq_of_le (unread_le_capacity hrun hs) with hroom | hfull
      · exact .inr (.inr (advance?_of_advances hs (.deliver other hphase hthere hroom)))
      · exact .inr (.inl hfull)
  | ended =>
    obtain ⟨first, missing, hfirst, hsent, hmissing, hgone⟩ := exists_missing_of_ended hrun hs hphase
    exact ⟨first, missing, hfirst, hsent, hmissing,
      fun list hlist => .inl (hgone (List.ne_nil_of_mem hlist))⟩

/-! ### What is read -/

/-- A client reads the lists that were sent, one after the other. -/
theorem read?_list (hs : h.sessions[i]? = some s) (hthere : s.closed = false) :
    (h.read? i).map Prod.fst = s.sent[s.received]? := by
  rw [← List.head?_drop]
  cases hlist : s.unread.head? <;> simp_all [read?, Session.unread]

/-- A session that has never held the queue has sent its first list alone, or nothing to a client
that was gone at once. -/
theorem sent_of_not_hasHeld
    (hrun : (fresh className units stop metrics).run? moves = some h)
    (hs : h.sessions[i]? = some s) (hmoved : s.phase ≠ .opened)
    (hnever : ¬ HasHeld (fresh className units stop metrics) moves i) :
    (∃ first, Greeting (fresh className units stop metrics) moves i first ∧ s.sent = [first]) ∨
      s.sent = [] ∧ s.closed = true := by
  have hdue : echoes i units h.applied = [] :=
    echoes_eq_nil (fun _ hmem => hnever (hasHeld_of_mem_applied hrun hmem)) units
  have hrecites := recited_run? hrun i s hs
  have hp := phases_of_session hs
  cases hphase : s.phase with
  | opened => exact absurd hphase hmoved
  | listening | taken | sending =>
    rw [hphase] at hp
    exact absurd (hasHeld_of_holds hrun hp trivial) hnever
  | greeted | waiting =>
    simp only [Recites, hphase] at hrecites
    obtain ⟨first, hfirst, hsent⟩ := hrecites
    exact .inl ⟨first, hfirst, hsent.trans (congrArg _ hdue)⟩
  | ended =>
    obtain ⟨first, missing, hfirst, hsent, -, hgone⟩ := exists_missing_of_ended hrun hs hphase
    rw [hdue, List.append_eq_singleton_iff] at hsent
    rcases hsent with ⟨hnil, hmissing⟩ | ⟨hsent, -⟩
    · exact .inr ⟨hnil, hgone (hmissing ▸ List.cons_ne_nil _ _)⟩
    · exact .inl ⟨first, hfirst, hsent⟩

/-- From the second list on, each shows the units one event after the list before. -/
theorem sent_gapless
    (hrun : (fresh className units stop metrics).run? moves = some h)
    (hs : h.sessions[i]? = some s) {k : Nat} {list list' : List AdvertisedUnit}
    (hlist : s.sent[k + 1]? = some list) (hlist' : s.sent[k + 2]? = some list') :
    ∃ n e, h.applied[n]? = some (i, e) ∧
      list = unitsAfter units ((h.applied.take n).map Prod.snd) ∧ list' = e.apply list := by
  have hmoved : s.phase ≠ .opened := by
    intro hphase
    have hrecites := recited_run? hrun i s hs
    simp only [Recites, hphase] at hrecites
    rw [hrecites.1] at hlist
    cases hlist
  obtain ⟨first, missing, -, hsent, -⟩ := exists_missing hrun hs hmoved
  have hdue : ∀ {k : Nat} {list : List AdvertisedUnit}, s.sent[k + 1]? = some list →
      (echoes i units h.applied)[k]? = some list := by
    intro k list hlist
    rw [← List.getElem?_cons_succ (a := first), ← hsent,
      List.getElem?_append_left (List.getElem?_eq_some_iff.1 hlist).1, hlist]
  obtain ⟨start, hgapless⟩ := (oneTurn_run? hrun i).echoes_getElem? units
  obtain ⟨e, he, hshown⟩ := hgapless k list (hdue hlist)
  obtain ⟨e', he', hshown'⟩ := hgapless (k + 1) list' (hdue hlist')
  have hnext : unitsAfter units ((h.applied.take (start + (k + 1))).map Prod.snd) = list := by
    rw [← Nat.add_assoc, List.take_add_one, he, Option.toList_some, List.map_append,
      List.map_singleton, unitsAfter_concat, hshown]
  exact ⟨start + (k + 1), e', he', hnext.symm, by rw [hshown', hnext]⟩

/-- **What the client of session `i`**, which is `s`, **is told** after a run. -/
structure Told (start : Hub) (moves : List HubMove) (h : Hub) (i : Nat) (s : Session) : Prop where
  /-- A session that has not moved has sent nothing and applied nothing. -/
  unmoved : s.phase = .opened → s.sent = [] ∧ ∀ e, (i, e) ∉ h.applied
  /-- One that has moved has sent the units of its first move and, for each event that it applied,
  the units right after it. Only the last list can be missing: if its client is gone or has four
  lists to read, or if the next move of the session sends it. -/
  moved : s.phase ≠ .opened → ∃ first missing, Greeting start moves i first ∧
    s.sent ++ missing = first :: echoes i start.units h.applied ∧ missing.length ≤ 1 ∧
    ∀ list ∈ missing, s.closed = true ∨ s.unread.length = Session.capacity ∨
      h.advance? i = some (h.update i fun s => (s.send list).enter .listening)
  /-- Its client reads the lists that were sent, one after the other. -/
  readable : s.closed = false → (h.read? i).map Prod.fst = s.sent[s.received]?
  /-- One that has never held the queue has sent its first list alone, or nothing to a client that
  was gone at once. -/
  unserved : s.phase ≠ .opened → ¬ HasHeld start moves i →
    (∃ first, Greeting start moves i first ∧ s.sent = [first]) ∨ s.sent = [] ∧ s.closed = true
  /-- From the second list on, each shows the units one event after the list before. -/
  gapless : ∀ (k : Nat) (list list' : List AdvertisedUnit), s.sent[k + 1]? = some list →
    s.sent[k + 2]? = some list' → ∃ n e, h.applied[n]? = some (i, e) ∧
      list = unitsAfter start.units ((h.applied.take n).map Prod.snd) ∧ list' = e.apply list

/-- **What the client of every session of every run is told.** -/
theorem told_run?
    (hrun : (fresh className units stop metrics).run? moves = some h)
    (hs : h.sessions[i]? = some s) : Told (fresh className units stop metrics) moves h i s where
  unmoved hphase := by
    have hrecites := recited_run? hrun i s hs
    simp only [Recites, hphase] at hrecites
    refine ⟨hrecites.1, fun e => (turns_run? hrun).not_mem (phases_of_session hs) ?_ e⟩
    rw [hphase]
    exact id
  moved hmoved := exists_missing hrun hs hmoved
  readable hthere := read?_list hs hthere
  unserved hmoved hnever := sent_of_not_hasHeld hrun hs hmoved hnever
  gapless _ _ _ hlist hlist' := sent_gapless hrun hs hlist hlist'

/-- A relay: two sessions greet their clients, the first serves one event and has the list of a
second in hand when its client goes away, and the other serves two more. -/
def relay : List HubMove :=
  [.renew, .connect 0, .connect 0, .advance 0, .advance 0, .advance 0, .advance 1, .advance 1,
    .offer ⟨"1", .unhealthy⟩, .advance 0, .advance 0, .advance 0,
    .offer ⟨"2", .unhealthy⟩, .advance 0, .advance 0, .disconnect 0, .advance 0, .advance 1,
    .offer ⟨"1", .healthy⟩, .advance 1, .advance 1, .advance 1,
    .offer ⟨"2", .healthy⟩, .advance 1, .advance 1, .advance 1]

/-- After the relay the client of the second session has been told of the last two events only, one
after the other. -/
theorem told_relay :
    let units : List AdvertisedUnit := [⟨"1", .healthy, none⟩, ⟨"2", .healthy, none⟩]
    ∃ h s, (fresh "pgpu" units {} {}).run? relay = some h ∧ h.sessions[1]? = some s ∧
      s.sent = [units, [⟨"1", .healthy, none⟩, ⟨"2", .unhealthy, none⟩], units] ∧
      Told (fresh "pgpu" units {} {}) relay h 1 s := by
  intro units
  have hrun : ∃ h s, (fresh "pgpu" units {} {}).run? relay = some h ∧ h.sessions[1]? = some s ∧
      s.sent = [units, [⟨"1", .healthy, none⟩, ⟨"2", .unhealthy, none⟩], units] :=
    ⟨_, _, rfl, rfl, rfl⟩
  obtain ⟨h, s, hrun, hs, hsent⟩ := hrun
  exact ⟨h, s, hrun, hs, hsent, told_run? hrun hs⟩

end GpuPassthrough.Hub
