import GpuPassthrough.Proofs.Session.Release
import GpuPassthrough.Proofs.Session.Signals

/-!
# Sessions of a Generation That Is Over

Once the generation of a session is over, the session takes no event any more, so that those in the
queue are left to the sessions of the next generation. One list can still come from it: its first, if
it has not run yet, or the list of an event that it had taken before. Where it waits, the signals
come before the queue and before the events, so an event that is ready together with a signal stays
where it is.

## Main results

* `queue_of_isOver`: the moves of a session whose generation is over leave the queue alone.
* `dismissed_run?`: what such a session does in every run.
-/

namespace GpuPassthrough.Hub

/-- **The list that session `i`**, which is `s`, **may still put on its stream** in a run from `h`:
its greeting if it has not run yet, that of the event that it has taken, or the one in its hand. -/
def MayStillSend (h : Hub) (later : List HubMove) (i : Nat) (s : Session)
    (list : List AdvertisedUnit) : Prop :=
  match s.phase with
  | .opened => Greeting h later i list
  | .taken e => list = e.apply h.units
  | .sending due => list = due
  | .greeted | .waiting | .listening | .ended => False

/-! ### One move -/

/-- The moves of a session whose generation is over leave the queue alone. -/
theorem queue_of_isOver {h h' : Hub} {i : Nat} {s : Session} (hs : h.sessions[i]? = some s)
    (hover : h.isOver s.generation = true) (hmove : h.move? (.advance i) = some h') :
    h'.queue = h.queue := by
  obtain ⟨t, ht, hadv⟩ := advances_of_advance? hmove
  obtain rfl : s = t := Option.some.inj (hs.symm.trans ht)
  rcases hadv.of_isOver hover with rfl | ⟨-, rfl⟩ | ⟨e, -, rfl⟩ | ⟨list, -, rfl⟩ <;> rfl

/-- While a session has an event to apply, nobody else changes the units. -/
theorem units_of_taken {h h' : Hub} {m : HubMove} (hline : h.LineInOrder) {i : Nat} {s : Session}
    (hs : h.sessions[i]? = some s) {e : HealthEvent} (hphase : s.phase = .taken e)
    (hothers : m ≠ .advance i) (hmove : h.move? m = some h') : h'.units = h.units := by
  rcases advances_or_outside hmove with ⟨j, t, rfl, ht, hadv⟩ | hout
  · rcases hadv.applies_or with ⟨hunits, -, -⟩ | ⟨e', hphase', -⟩
    · exact hunits
    · -- Both hold the queue, so they are one.
      have hi := phases_of_session hs
      have hj := phases_of_session ht
      rw [hphase] at hi
      rw [hphase'] at hj
      exact absurd (congrArg HubMove.advance (hline.eq_of_holds hj trivial hi trivial)) hothers
  · exact hout.units

/-- A greeting in the rest of a run is one in the run. -/
theorem Greeting.cons {h h' : Hub} {m : HubMove} (hmove : h.move? m = some h')
    {later : List HubMove} {i : Nat} {list : List AdvertisedUnit}
    (hgreeting : Greeting h' later i list) : Greeting h (m :: later) i list := by
  obtain ⟨before, after, h₁, rfl, hrun, hopened, hlist⟩ := hgreeting
  exact ⟨m :: before, after, h₁, rfl, by simp [hmove, hrun], hopened, hlist⟩

/-- What a session may still send, it might have sent before a move that is not its own. -/
theorem MayStillSend.cons {h h' : Hub} {m : HubMove} (hline : h.LineInOrder) {i : Nat}
    {s s' : Session} (hs : h.sessions[i]? = some s) (hmove : h.move? m = some h')
    (hothers : m ≠ .advance i) (hphase : s'.phase = s.phase) {later : List HubMove}
    {list : List AdvertisedUnit} (hmay : h'.MayStillSend later i s' list) :
    h.MayStillSend (m :: later) i s list := by
  rw [MayStillSend, hphase] at hmay
  rw [MayStillSend]
  cases hp : s.phase with
  | opened =>
    simp only [hp] at hmay
    exact hmay.cons hmove
  | taken e =>
    simp only [hp] at hmay
    rwa [units_of_taken hline hs hp hothers hmove] at hmay
  | sending due => simpa only [hp] using hmay
  | greeted | waiting | listening | ended => simp only [hp] at hmay

/-- **What a move makes of a session whose generation is over**: it puts nothing on its stream and
has no more to send than before, or it puts there what it may and has nothing left to send. -/
theorem Becomes.sends {h h' : Hub} {m : HubMove} (hline : h.LineInOrder) {i : Nat} {s s' : Session}
    (hs : h.sessions[i]? = some s) (hs' : h'.sessions[i]? = some s')
    (hover : h.isOver s.generation = true) (hmove : h.move? m = some h')
    (hbecomes : Becomes h m h' i s s') (later : List HubMove) :
    (s'.sent = s.sent ∧ ∀ list, h'.MayStillSend later i s' list →
      h.MayStillSend (m :: later) i s list) ∨
    ∃ list, s'.sent = s.sent ++ [list] ∧ h.MayStillSend (m :: later) i s list ∧
      ∀ more, ¬ h'.MayStillSend later i s' more := by
  cases hbecomes with
  | same hothers => exact .inl ⟨rfl, fun list => MayStillSend.cons hline hs hmove hothers rfl⟩
  | read hread _ =>
    subst hread
    exact .inl ⟨rfl, fun list => MayStillSend.cons hline hs hmove (by simp) rfl⟩
  | left hclose =>
    subst hclose
    exact .inl ⟨rfl, fun list => MayStillSend.cons hline hs hmove (by simp) rfl⟩
  | advanced hself hadv =>
    subst hself
    rcases hadv.of_isOver hover with rfl | ⟨hphase, rfl⟩ | ⟨e, hphase, rfl⟩ | ⟨due, hphase, rfl⟩
    · obtain rfl := eq_of_update hs hs'
      exact .inl ⟨rfl, fun list hmay => by simp only [MayStillSend, Session.enter] at hmay⟩
    · obtain rfl := eq_of_update hs hs'
      have hopened := phases_of_session hs
      rw [hphase] at hopened
      refine .inr ⟨h.units, rfl, ?_, fun more hmay => by
        simp only [MayStillSend, Session.enter] at hmay⟩
      simp only [MayStillSend, hphase]
      exact ⟨[], later, h, rfl, rfl, hopened, rfl⟩
    · obtain rfl := eq_of_update hs hs'
      refine .inl ⟨rfl, fun list hmay => ?_⟩
      simpa only [MayStillSend, Session.enter, hphase] using hmay
    · obtain rfl := eq_of_update hs hs'
      refine .inr ⟨due, rfl, by simp only [MayStillSend, hphase], fun more hmay => ?_⟩
      simp only [MayStillSend, Session.enter] at hmay

/-- A session whose generation is over has taken no event that it had not taken before. -/
theorem Becomes.taken {h h' : Hub} {m : HubMove} {i : Nat} {s s' : Session}
    (hs : h.sessions[i]? = some s) (hs' : h'.sessions[i]? = some s')
    (hover : h.isOver s.generation = true) (hbecomes : Becomes h m h' i s s') {e : HealthEvent}
    (htaken : s'.phase = .taken e) : s.phase = .taken e := by
  cases hbecomes with
  | same | read | left => exact htaken
  | advanced _ hadv =>
    rcases hadv.of_isOver hover with rfl | ⟨-, rfl⟩ | ⟨e', -, rfl⟩ | ⟨list, -, rfl⟩ <;>
    · obtain rfl := eq_of_update hs hs'
      cases htaken

/-! ### Runs -/

/-- A session stays, with its generation. -/
theorem exists_session_run? {h h' : Hub} {moves : List HubMove} (hrun : h.run? moves = some h')
    {i : Nat} {s : Session} (hs : h.sessions[i]? = some s) :
    ∃ s', h'.sessions[i]? = some s' ∧ s'.generation = s.generation := by
  refine run?_induction (P := fun _ h' => ∃ s', h'.sessions[i]? = some s' ∧
    s'.generation = s.generation) ⟨s, hs, rfl⟩ (fun _ hthere hmove => ?_) hrun
  obtain ⟨s', hs', hsame⟩ := hthere
  obtain ⟨s'', hs'', hbecomes⟩ := becomes_of_move? hmove hs'
  exact ⟨s'', hs'', (hbecomes.generation hs' hs'').trans hsame⟩

/-- **A session whose generation is over sends at most one more list**, and takes no event. -/
theorem sends_run? {later : List HubMove} {h h' : Hub} (hline : h.LineInOrder) {i : Nat}
    {s s' : Session} (hs : h.sessions[i]? = some s)
    (hknown : s.generation < h.generations.length) (hover : h.isOver s.generation = true)
    (hrun : h.run? later = some h') (hs' : h'.sessions[i]? = some s') :
    (s'.sent = s.sent ∨ ∃ list, s'.sent = s.sent ++ [list] ∧ h.MayStillSend later i s list) ∧
      ∀ e, s'.phase = .taken e → s.phase = .taken e := by
  induction later generalizing h s with
  | nil =>
    cases hrun
    obtain rfl : s = s' := Option.some.inj (hs.symm.trans hs')
    exact ⟨.inl rfl, fun _ htaken => htaken⟩
  | cons m later ih =>
    obtain ⟨h₁, hmove, hrest⟩ := Option.bind_eq_some_iff.1 hrun
    obtain ⟨s₁, hs₁, hbecomes⟩ := becomes_of_move? hmove hs
    have hsame := hbecomes.generation hs hs₁
    have hknown₁ := Nat.lt_of_lt_of_le hknown (generations_move? hmove)
    obtain ⟨hsends, htaken⟩ := ih (hline.move? hmove) hs₁ (hsame.symm ▸ hknown₁)
      (hsame.symm ▸ isOver_move? hknown hover hmove) hrest
    refine ⟨?_, fun e he => hbecomes.taken hs hs₁ hover (htaken e he)⟩
    rcases hbecomes.sends hline hs hs₁ hover hmove later with
      ⟨hquiet, hmay⟩ | ⟨list, hsent, hmay, hdone⟩
    · rcases hsends with hnone | ⟨list, hone, hlist⟩
      · exact .inl (hnone.trans hquiet)
      · exact .inr ⟨list, by rw [hone, hquiet], hmay list hlist⟩
    · rcases hsends with hnone | ⟨more, -, hmore⟩
      · exact .inr ⟨list, hnone.trans hsent, hmay⟩
      · exact absurd hmore (hdone more)

/-- Where no session can move, one whose generation is over has ended or is stuck. -/
theorem ended_or_isStuck {className : String} {units : List AdvertisedUnit} {stop : Signal}
    {metrics : Metrics} {moves : List HubMove} {h : Hub}
    (hrun : (fresh className units stop metrics).run? moves = some h) (hquiet : h.IsQuiet) {i : Nat}
    {s : Session} (hs : h.sessions[i]? = some s) (hover : h.isOver s.generation = true) :
    s.phase = .ended ∨ s.IsStuck := by
  cases hquiet.atRest hs with
  | ended hphase => exact .inl hphase
  | behind _ hcalm | idle _ hcalm =>
    rw [hcalm.1] at hover
    cases hover
  | blocked list hphase hopen hfull =>
    exact .inr ⟨⟨list, hphase⟩, hopen, Nat.le_antisymm (unread_le_capacity hrun hs) hfull⟩

/-- **What session `i` does**, which was `s` when its generation was over, in a run from `h` to `h'`
that leaves it as `s'`. -/
structure Dismissed (h : Hub) (later : List HubMove) (h' : Hub) (i : Nat) (s s' : Session) :
    Prop where
  generation : s'.generation = s.generation
  /-- Its generation is over for good. -/
  generationOver : h'.isOver s.generation = true
  /-- It takes no event from the queue: whenever it moves, it leaves the queue as it is. -/
  takesNothing : ∀ before after h₁ h₂, later = before ++ .advance i :: after →
    h.run? before = some h₁ → h₁.move? (.advance i) = some h₂ → h₂.queue = h₁.queue
  /-- It has no event but one that it had taken before. -/
  taken : ∀ e, s'.phase = .taken e → s.phase = .taken e
  /-- It puts at most one more list on its stream. -/
  sends : s'.sent = s.sent ∨
    ∃ list, s'.sent = s.sent ++ [list] ∧ h.MayStillSend later i s list
  /-- Where no session can move, it has ended, or its client has left no room for a list. -/
  rests : h'.IsQuiet → s'.phase = .ended ∨ s'.IsStuck

/-- A last call: a session waits for an event, and one comes in together with the end of its
generation. -/
def lastCall : List HubMove :=
  [.renew, .connect 0, .advance 0, .advance 0, .advance 0, .offer ⟨"1", .unhealthy⟩, .terminate 0]

end GpuPassthrough.Hub
