import GpuPassthrough.Proofs.Session.Transcript

/-!
# One Session, Move by Move

What a move makes of one session. A session changes by its own moves and by those of its client,
who reads a list or goes away; everything else leaves it as it is. So an invariant of one session
is a case for each way in which it can change, and no session ever vanishes.

## Main results

* `becomes_of_move?`: how a move changes a session that is there.
* `connected_of_move?`, `opened_of_move?`: a session that was not there has just been opened.
* `unread_le_capacity`: after every run a stream holds no more lists than it has room for.
-/

namespace GpuPassthrough.Hub

/-- **What a move makes of session `i`**, which is `s`. -/
inductive Becomes (h : Hub) (m : HubMove) (h' : Hub) (i : Nat) (s : Session) : Session → Prop
  /-- Others move. -/
  | same (hothers : m ≠ .advance i) : Becomes h m h' i s s
  /-- It moves itself. -/
  | advanced {s' : Session} (hself : m = .advance i) (hadv : Advances h i s h') :
      Becomes h m h' i s s'
  /-- Its client reads the next list. -/
  | read (hread : m = .read i) (hleft : s.unread ≠ []) :
      Becomes h m h' i s { s with received := s.received + 1 }
  /-- Its client goes away. -/
  | left (hclose : m = .disconnect i) : Becomes h m h' i s { s with closed := true }

/-- A session that moves is still there. -/
theorem Advances.exists_session {h h' : Hub} {i : Nat} {s : Session}
    (hs : h.sessions[i]? = some s) (hadv : Advances h i s h') :
    ∃ s', h'.sessions[i]? = some s' := by
  cases hadv <;> exact ⟨_, sessions_update_self hs⟩

/-- A client reads the first of its unread lists, if it is there, and only its session changes. -/
theorem read?_eq_some_iff {h h' : Hub} {i : Nat} {list : List AdvertisedUnit} :
    h.read? i = some (list, h') ↔
      ∃ s, h.sessions[i]? = some s ∧ s.closed = false ∧ s.unread.head? = some list ∧
        (h.update i fun s => { s with received := s.received + 1 }) = h' := by
  rw [read?]
  cases hs : h.sessions[i]? with
  | none => simp
  | some s =>
    cases hclosed : s.closed with
    | true => simp [hclosed]
    | false => cases hlist : s.unread.head? <;> simp [hclosed, hlist]

/-- **How a move changes a session.** -/
theorem becomes_of_move? {h h' : Hub} {m : HubMove} (hmove : h.move? m = some h') {i : Nat}
    {s : Session} (hs : h.sessions[i]? = some s) :
    ∃ s', h'.sessions[i]? = some s' ∧ Becomes h m h' i s s' := by
  cases m with
  | advance j =>
    obtain ⟨t, ht, hadv⟩ := advances_of_advance? hmove
    by_cases hij : j = i
    · subst hij
      obtain rfl : s = t := Option.some.inj (hs.symm.trans ht)
      obtain ⟨s', hs'⟩ := hadv.exists_session hs
      exact ⟨s', hs', .advanced rfl hadv⟩
    · exact ⟨s, (hadv.others hij).trans hs, .same fun heq => hij (HubMove.advance.inj heq)⟩
  | connect generation =>
    simp only [move?] at hmove
    split at hmove
    · cases hmove
      have hi := (List.getElem?_eq_some_iff.1 hs).1
      exact ⟨s, (List.getElem?_append_left hi).trans hs, .same fun heq => by cases heq⟩
    · cases hmove
  | read j =>
    obtain ⟨⟨list, h''⟩, hread, rfl⟩ := Option.map_eq_some_iff.1 hmove
    obtain ⟨t, ht, -, hlist, rfl⟩ := read?_eq_some_iff.1 hread
    by_cases hij : j = i
    · subst hij
      obtain rfl : s = t := Option.some.inj (hs.symm.trans ht)
      refine ⟨_, sessions_update_self hs, .read rfl fun hnil => ?_⟩
      rw [hnil] at hlist
      cases hlist
    · exact ⟨s, (sessions_update_of_ne h hij).trans hs, .same fun heq => by cases heq⟩
  | disconnect j =>
    cases hmove
    by_cases hij : j = i
    · subst hij
      exact ⟨_, sessions_update_self hs, .left rfl⟩
    · exact ⟨s, (sessions_update_of_ne h hij).trans hs, .same fun heq => by cases heq⟩
  | offer e =>
    have hsessions : h'.sessions = h.sessions := by
      rw [move?, offer?] at hmove
      split at hmove <;> cases hmove
      rfl
    exact ⟨s, by rw [hsessions, hs], .same fun heq => by cases heq⟩
  | _ =>
    cases hmove
    exact ⟨s, hs, .same fun heq => by cases heq⟩

/-- Changing a session opens none. -/
theorem sessions_update_eq_none {f : Session → Session} {h : Hub} {j : Nat}
    (hnone : h.sessions[j]? = none) (i : Nat) : (h.update i f).sessions[j]? = none := by
  simp [update, List.getElem?_modify, hnone]

/-- A session that was not there has just been opened, with a generation that has begun. -/
theorem connected_of_move? {h h' : Hub} {m : HubMove} (hmove : h.move? m = some h') {i : Nat}
    {s' : Session} (hnone : h.sessions[i]? = none) (hs' : h'.sessions[i]? = some s') :
    ∃ generation < h.generations.length, s' = { generation } := by
  -- Every other move leaves no session where there was none.
  have hstays : h'.sessions[i]? = none →
      ∃ generation < h.generations.length, s' = { generation } := by
    intro hnone'
    rw [hnone'] at hs'
    cases hs'
  cases m with
  | advance j =>
    obtain ⟨t, ht, hadv⟩ := advances_of_advance? hmove
    have hji : j ≠ i := by
      rintro rfl
      rw [hnone] at ht
      cases ht
    exact hstays ((hadv.others hji).trans hnone)
  | connect generation =>
    simp only [move?] at hmove
    split at hmove
    · next hknown =>
      cases hmove
      simp only [connect, List.getElem?_append] at hs'
      split at hs'
      · rw [hnone] at hs'
        cases hs'
      · rw [List.getElem?_singleton] at hs'
        split at hs' <;> cases hs'
        exact ⟨generation, hknown, rfl⟩
    · cases hmove
  | read j =>
    obtain ⟨⟨list, h''⟩, hread, rfl⟩ := Option.map_eq_some_iff.1 hmove
    obtain ⟨t, -, -, -, rfl⟩ := read?_eq_some_iff.1 hread
    exact hstays (sessions_update_eq_none hnone j)
  | disconnect j =>
    cases hmove
    exact hstays (sessions_update_eq_none hnone j)
  | offer e =>
    rw [move?, offer?] at hmove
    split at hmove <;> cases hmove
    exact hstays hnone
  | _ =>
    cases hmove
    exact hstays hnone

/-- A session that was not there has just been opened and has sent nothing. -/
theorem opened_of_move? {h h' : Hub} {m : HubMove} (hmove : h.move? m = some h') {i : Nat}
    {s' : Session} (hnone : h.sessions[i]? = none) (hs' : h'.sessions[i]? = some s') :
    s'.phase = .opened ∧ s'.sent = [] := by
  obtain ⟨generation, -, rfl⟩ := connected_of_move? hmove hnone hs'
  exact ⟨rfl, rfl⟩

/-- What holds of every session that has just been opened, and is kept by every move, holds of every
session after every run. -/
theorem session_induction {h₀ : Hub} {P : List HubMove → Hub → Nat → Session → Prop}
    (hnone : h₀.sessions = [])
    (hopened : ∀ {moves h m h' i s'}, h₀.run? moves = some h → h.move? m = some h' →
      h.sessions[i]? = none → s'.phase = .opened → s'.sent = [] → P (moves ++ [m]) h' i s')
    (hstep : ∀ {moves h m h' i s s'}, h₀.run? moves = some h → h.move? m = some h' →
      h.sessions[i]? = some s → h'.sessions[i]? = some s' → Becomes h m h' i s s' →
      P moves h i s → P (moves ++ [m]) h' i s')
    {moves : List HubMove} {h : Hub} (hrun : h₀.run? moves = some h) {i : Nat} {s : Session}
    (hs : h.sessions[i]? = some s) : P moves h i s := by
  refine run?_induction (P := fun moves h => ∀ i s, h.sessions[i]? = some s → P moves h i s) ?_
    (fun {moves h m h'} hbefore hall hmove i s' hs' => ?_) hrun i s hs
  · intro i s hs
    rw [hnone] at hs
    cases hs
  · cases hs : h.sessions[i]? with
    | none =>
      obtain ⟨hphase, hsent⟩ := opened_of_move? hmove hs hs'
      exact hopened hbefore hmove hs hphase hsent
    | some s =>
      obtain ⟨s'', hs'', hbecomes⟩ := becomes_of_move? hmove hs
      obtain rfl : s'' = s' := Option.some.inj (hs''.symm.trans hs')
      exact hstep hbefore hmove hs hs' hbecomes (hall i s hs)

/-! ### Room on the stream -/

/-- A list more on a stream is one more to read. -/
theorem length_unread_send_le (s : Session) (list : List AdvertisedUnit) :
    (s.send list).unread.length ≤ s.unread.length + 1 := by
  simp only [Session.unread, Session.send, List.length_drop, List.length_append,
    List.length_singleton]
  omega

/-- **After every run a stream holds no more lists than it has room for.** -/
theorem unread_le_capacity {className : String} {units : List AdvertisedUnit} {stop : Signal}
    {metrics : Metrics} {moves : List HubMove} {h : Hub} {i : Nat} {s : Session}
    (hrun : (fresh className units stop metrics).run? moves = some h)
    (hs : h.sessions[i]? = some s) : s.unread.length ≤ Session.capacity := by
  refine session_induction (P := fun _ _ _ s => s.unread.length ≤ Session.capacity) rfl
    (fun _ _ _ _ hsent => ?_) (fun {_ _ _ _ _ s _} hbefore _ hs hs' hbecomes hroom => ?_) hrun hs
  · simp [Session.unread, hsent]
  · cases hbecomes with
    | same => exact hroom
    | left => exact hroom
    | read =>
      simp only [Session.unread, List.length_drop] at hroom ⊢
      omega
    | advanced hself hadv =>
      cases hadv with
      | greet hphase hopen =>
        -- It has sent nothing before, so its first list is the only one.
        have hrecites := recited_run? hbefore _ _ hs
        simp only [Recites, hphase] at hrecites
        obtain rfl := eq_of_update hs hs'
        simp only [Session.unread, Session.enter, Session.send, hrecites.1, List.length_drop,
          List.nil_append, List.length_singleton, Session.capacity]
        omega
      | deliver list hphase hopen hlt =>
        obtain rfl := eq_of_update hs hs'
        exact Nat.le_trans (length_unread_send_le s list) hlt
      | leave | lineUp | takeCharge | take | apply =>
        obtain rfl := eq_of_update hs hs'
        exact hroom

end GpuPassthrough.Hub
