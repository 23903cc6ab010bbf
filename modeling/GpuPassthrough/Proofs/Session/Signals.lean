import GpuPassthrough.Proofs.Session.Client

/-!
# Signals Are Never Lowered

A signal that is up stays up, and the generations keep their numbers, whatever moves. So a session
whose generation is over stays without one: it can end, or do what it does without a look at the
signals, which is to send its first list, to apply the event that it has taken and to send the list
that it has in hand.

## Main results

* `isOver_move?`, `isOver_run?`: a generation that is over stays over.
* `known_run?`: after every run of a new hub every session belongs to a generation that has begun.
* `Advances.of_isOver`: the moves that are left to a session whose generation is over.
-/

namespace GpuPassthrough.Hub

/-! ### Generations that have ended -/

/-- Which generations have ended is told by their signals. -/
theorem isTerminated_congr {h h' : Hub} (h_eq : h'.generations = h.generations)
    (generation : Nat) : h'.isTerminated generation = h.isTerminated generation := by
  rw [isTerminated, isTerminated, h_eq]

/-- The start of a generation changes nothing about those before it. -/
theorem isTerminated_renew_of_lt {h : Hub} {generation : Nat}
    (hlt : generation < h.generations.length) :
    h.renew.isTerminated generation = h.isTerminated generation := by
  rw [isTerminated, isTerminated, renew, List.getElem?_append_left hlt]

/-- A generation that has just begun has not ended. -/
theorem isTerminated_renew_self (h : Hub) : h.renew.isTerminated h.generations.length = false := by
  simp [isTerminated, renew, Signal.isUp]

/-- The end of a generation. -/
theorem isTerminated_terminate_self (h : Hub) (generation : Nat) :
    (h.terminate generation).isTerminated generation = true := by
  cases hsignal : h.generations[generation]? with
  | none => simp [isTerminated, terminate, signal, hsignal]
  | some s => simp [isTerminated, terminate, signal, hsignal, Signal.isUp]

/-- A generation that has ended stays so when a signal changes that does not fall. -/
theorem isTerminated_signal {h : Hub} {generation : Nat}
    (hended : h.isTerminated generation = true) (other : Nat) {f : Signal → Signal}
    (hf : ∀ s : Signal, s.isUp = true → (f s).isUp = true) :
    (h.signal other f).isTerminated generation = true := by
  simp only [isTerminated, signal, List.getElem?_modify] at hended ⊢
  cases hsignal : h.generations[generation]? with
  | none => rfl
  | some s =>
    rw [hsignal] at hended
    simp only [Option.map_some, Option.getD_some] at hended ⊢
    split
    · exact hf s hended
    · exact hended

/-- A generation that has ended stays so when another one ends. -/
theorem isTerminated_terminate {h : Hub} {generation : Nat}
    (hended : h.isTerminated generation = true) (other : Nat) :
    (h.terminate other).isTerminated generation = true :=
  isTerminated_signal hended other fun _ _ => rfl

/-- A generation that has ended stays so when the signal of another one loses its owner. -/
theorem isTerminated_abandon {h : Hub} {generation : Nat}
    (hended : h.isTerminated generation = true) (other : Nat) :
    (h.abandon other).isTerminated generation = true :=
  isTerminated_signal hended other fun _ _ => Bool.or_true _

/-! ### Signals of a run -/

/-- What a move does to the signals: nothing, or what it is for. -/
inductive Signals (h h' : Hub) : Prop
  | kept (hstop : h'.stop = h.stop) (hgenerations : h'.generations = h.generations)
  | renew (hrenew : h' = h.renew)
  | terminate (generation : Nat) (hterminate : h' = h.terminate generation)
  | abandon (generation : Nat) (habandon : h' = h.abandon generation)
  | stop (hstop : h'.stop.isUp = true) (hgenerations : h'.generations = h.generations)

/-- Every move follows one of the ways in which signals change. -/
theorem signals_of_move? {h h' : Hub} {m : HubMove} (hmove : h.move? m = some h') :
    Signals h h' := by
  cases m with
  | advance i =>
    obtain ⟨s, -, hadv⟩ := advances_of_advance? hmove
    exact .kept hadv.signals.1 hadv.signals.2
  | connect generation =>
    simp only [move?] at hmove
    split at hmove <;> cases hmove
    exact .kept rfl rfl
  | read i =>
    obtain ⟨⟨list, h''⟩, hread, rfl⟩ := Option.map_eq_some_iff.1 hmove
    obtain ⟨s, -, -, -, rfl⟩ := read?_eq_some_iff.1 hread
    exact .kept rfl rfl
  | offer e =>
    rw [move?, offer?] at hmove
    split at hmove <;> cases hmove
    exact .kept rfl rfl
  | renew => exact .renew (Option.some.inj hmove).symm
  | terminate generation => exact .terminate generation (Option.some.inj hmove).symm
  | abandon generation => exact .abandon generation (Option.some.inj hmove).symm
  | halt => cases hmove; exact .stop rfl rfl
  | abandonStop => cases hmove; exact .stop (Bool.or_true _) rfl
  | disconnect i | allocate granted | consult => cases hmove; exact .kept rfl rfl

/-- Generations keep their numbers. -/
theorem generations_move? {h h' : Hub} {m : HubMove} (hmove : h.move? m = some h') :
    h.generations.length ≤ h'.generations.length := by
  cases signals_of_move? hmove with
  | kept _ hgenerations | stop _ hgenerations => exact Nat.le_of_eq (by rw [hgenerations])
  | renew hrenew => simp [hrenew, Hub.renew]
  | terminate generation hterminate => simp [hterminate, Hub.terminate, signal]
  | abandon generation habandon => simp [habandon, Hub.abandon, signal]

/-- **A generation that is over stays over** with every move. -/
theorem isOver_move? {h h' : Hub} {m : HubMove} {generation : Nat}
    (hknown : generation < h.generations.length) (hover : h.isOver generation = true)
    (hmove : h.move? m = some h') : h'.isOver generation = true := by
  rw [isOver, Bool.or_eq_true] at hover ⊢
  cases signals_of_move? hmove with
  | kept hstop hgenerations => rwa [hstop, isTerminated_congr hgenerations]
  | renew hrenew =>
    subst hrenew
    exact hover.imp id fun hended => (isTerminated_renew_of_lt hknown).trans hended
  | terminate other hterminate =>
    subst hterminate
    exact hover.imp id fun hended => isTerminated_terminate hended other
  | abandon other habandon =>
    subst habandon
    exact hover.imp id fun hended => isTerminated_abandon hended other
  | stop hstop _ => exact .inl hstop

/-- **A generation that is over stays over** in every run. -/
theorem isOver_run? {h h' : Hub} {moves : List HubMove} {generation : Nat}
    (hknown : generation < h.generations.length) (hover : h.isOver generation = true)
    (hrun : h.run? moves = some h') : h'.isOver generation = true := by
  refine (run?_induction (P := fun _ h' => generation < h'.generations.length ∧
    h'.isOver generation = true) ⟨hknown, hover⟩ (fun _ hboth hmove => ?_) hrun).2
  exact ⟨Nat.lt_of_lt_of_le hboth.1 (generations_move? hmove), isOver_move? hboth.1 hboth.2 hmove⟩

/-! ### Generations of sessions -/

/-- A session keeps its generation. -/
theorem Becomes.generation {h h' : Hub} {m : HubMove} {i : Nat} {s s' : Session}
    (hbecomes : Becomes h m h' i s s') (hs : h.sessions[i]? = some s)
    (hs' : h'.sessions[i]? = some s') : s'.generation = s.generation := by
  cases hbecomes with
  | advanced _ hadv => cases hadv <;> (obtain rfl := eq_of_update hs hs'; rfl)
  | same | read | left => rfl

/-- **After every run of a new hub every session belongs to a generation that has begun.** -/
theorem known_run? {className : String} {units : List AdvertisedUnit} {stop : Signal}
    {metrics : Metrics} {moves : List HubMove} {h : Hub}
    (hrun : (fresh className units stop metrics).run? moves = some h) {i : Nat} {s : Session}
    (hs : h.sessions[i]? = some s) : s.generation < h.generations.length := by
  refine run?_induction (P := fun _ h => ∀ (i : Nat) (s : Session), h.sessions[i]? = some s →
    s.generation < h.generations.length) (fun i s hs => ?_)
    (fun {_ h m h'} _ hall hmove i s' hs' => ?_) hrun i s hs
  · simp [fresh] at hs
  · cases hs : h.sessions[i]? with
    | none =>
      obtain ⟨generation, hknown, rfl⟩ := connected_of_move? hmove hs hs'
      exact Nat.lt_of_lt_of_le hknown (generations_move? hmove)
    | some s =>
      obtain ⟨s'', hs'', hbecomes⟩ := becomes_of_move? hmove hs
      obtain rfl : s'' = s' := Option.some.inj (hs''.symm.trans hs')
      rw [hbecomes.generation hs hs']
      exact Nat.lt_of_lt_of_le (hall i s hs) (generations_move? hmove)

/-! ### What is left to a session -/

/-- **The moves that are left to a session whose generation is over**: it ends, sends its first list,
applies the event that it has taken, or sends the list that it has in hand. -/
theorem Advances.of_isOver {h h' : Hub} {i : Nat} {s : Session} (hadv : Advances h i s h')
    (hover : h.isOver s.generation = true) :
    h' = h.finish i ∨
      (s.phase = .opened ∧ h' = h.update i fun s => (s.send h.units).enter .greeted) ∨
      (∃ e, s.phase = .taken e ∧
        h' = (h.applyEvent i e).update i fun s => s.enter (.sending (e.apply h.units))) ∨
      ∃ list, s.phase = .sending list ∧ h' = h.update i fun s => (s.send list).enter .listening := by
  have hbusy : ¬ h.IsUndisturbed s := fun hcalm => by
    rw [hcalm.1] at hover
    cases hover
  cases hadv with
  | leave hend => exact .inl rfl
  | greet hphase _ => exact .inr (.inl ⟨hphase, rfl⟩)
  | apply e hphase => exact .inr (.inr (.inl ⟨e, hphase, rfl⟩))
  | deliver list hphase _ _ => exact .inr (.inr (.inr ⟨list, hphase, rfl⟩))
  | lineUp _ hcalm | takeCharge _ hcalm _ | take _ _ hcalm _ => exact absurd hcalm hbusy

end GpuPassthrough.Hub
