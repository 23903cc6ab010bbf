import GpuPassthrough.Proofs.Session.Step

/-!
# The Line for the Queue

At most one session holds the queue of events, whatever the order of moves: a session that listens,
has taken an event or has a list to send is the first in the line, and the line has one first. The
invariant is about the line and where the sessions stand, so a move of others, which leaves both
alone or opens a session, keeps it at once.

## Main results

* `lineInOrder_run?`: after every run of a new hub the line is in order.
* `eq_of_holds`: two sessions that hold the queue are one.
-/

namespace GpuPassthrough

/-- Whether a session in this phase stands in the line for the queue. -/
def SessionPhase.IsLined : SessionPhase → Prop
  | waiting | listening | taken _ | sending _ => True
  | opened | greeted | ended => False

/-- Whether a session in this phase holds the queue. -/
def SessionPhase.Holds : SessionPhase → Prop
  | listening | taken _ | sending _ => True
  | opened | greeted | waiting | ended => False

/-- Whoever holds the queue stands in the line. -/
theorem SessionPhase.isLined_of_holds {p : SessionPhase} (hholds : p.Holds) : p.IsLined := by
  cases p <;> first | exact hholds.elim | trivial

namespace Hub

/-- **The line is in order**: it holds the sessions that stand in it, and whoever holds the queue is
its first. -/
structure LineInOrder (h : Hub) : Prop where
  mem_iff : ∀ i, i ∈ h.line ↔ ∃ p, h.phases[i]? = some p ∧ p.IsLined
  first_of_holds : ∀ {i p}, h.phases[i]? = some p → p.Holds → h.line.head? = some i

/-- Nobody stands in the line of a new hub. -/
theorem lineInOrder_fresh (className : String) (units : List AdvertisedUnit) (stop : Signal)
    (metrics : Metrics) : (fresh className units stop metrics).LineInOrder where
  mem_iff i := by simp [fresh, phases]
  first_of_holds hp := by simp [fresh, phases] at hp

/-- Two sessions that hold the queue are one. -/
theorem LineInOrder.eq_of_holds {h : Hub} (hline : h.LineInOrder) {i j : Nat} {p q : SessionPhase}
    (hi : h.phases[i]? = some p) (hp : p.Holds) (hj : h.phases[j]? = some q) (hq : q.Holds) :
    i = j :=
  Option.some.inj ((hline.first_of_holds hi hp).symm.trans (hline.first_of_holds hj hq))

/-- The phases of the other sessions after one session has moved. -/
theorem phases_set_of_ne {h : Hub} {i j : Nat} (hij : i ≠ j) (p : SessionPhase) :
    (h.phases.set i p)[j]? = h.phases[j]? :=
  List.getElem?_set_ne hij

/-- The phase of the session that has moved. -/
theorem phases_set_self {h : Hub} {i : Nat} {p : SessionPhase} (hp : h.phases[i]? = some p)
    (p' : SessionPhase) : (h.phases.set i p')[i]? = some p' := by
  rw [List.getElem?_set_self (List.getElem?_eq_some_iff.1 hp).1]

/-- After one session has moved, a session stands where it moved to or where it stood. -/
theorem phases_set_cases {h : Hub} {i j : Nat} {p q : SessionPhase}
    (hq : (h.phases.set i p)[j]? = some q) : i = j ∧ p = q ∨ i ≠ j ∧ h.phases[j]? = some q := by
  rw [List.getElem?_set] at hq
  split at hq
  · next hij =>
    split at hq
    · exact .inl ⟨hij, Option.some.inj hq⟩
    · cases hq
  · next hij => exact .inr ⟨hij, hq⟩

/-- A session that moves on in the line, or outside it, and takes charge only as the first, keeps
the line in order. -/
theorem LineInOrder.set_phase {h h' : Hub} (hline : h.LineInOrder) {i : Nat} {p p' : SessionPhase}
    (hp : h.phases[i]? = some p) (hphases : h'.phases = h.phases.set i p')
    (hsame : h'.line = h.line) (hlined : p'.IsLined ↔ p.IsLined)
    (hfirst : p'.Holds → h.line.head? = some i) : h'.LineInOrder where
  mem_iff j := by
    rw [hphases, hsame, hline.mem_iff]
    by_cases hij : i = j
    · subst hij
      rw [phases_set_self hp, hp]
      simp [hlined]
    · rw [phases_set_of_ne hij]
  first_of_holds {j q} hq hholds := by
    rw [hphases] at hq
    rw [hsame]
    rcases phases_set_cases hq with ⟨rfl, rfl⟩ | ⟨-, hbefore⟩
    · exact hfirst hholds
    · exact hline.first_of_holds hbefore hholds

/-- A session that ends leaves the line in order. -/
theorem LineInOrder.finish {h : Hub} (hline : h.LineInOrder) {i : Nat} {p : SessionPhase}
    (hp : h.phases[i]? = some p) : (h.finish i).LineInOrder := by
  have hphases : (h.finish i).phases = h.phases.set i .ended := phases_enter h i .ended
  refine ⟨fun j => ?_, fun {j q} hq hholds => ?_⟩
  · rw [hphases]
    simp only [Hub.finish, List.mem_filter, hline.mem_iff, decide_eq_true_eq]
    by_cases hij : i = j
    · subst hij
      rw [phases_set_self hp]
      simp [SessionPhase.IsLined]
    · rw [phases_set_of_ne hij]
      exact ⟨And.left, fun hq => ⟨hq, Ne.symm hij⟩⟩
  · rw [hphases] at hq
    rcases phases_set_cases hq with ⟨-, rfl⟩ | ⟨hij, hbefore⟩
    · exact hholds.elim
    · -- The first in the line is another session, so it stays the first.
      obtain ⟨rest, hrest⟩ := List.head?_eq_some_iff.1 (hline.first_of_holds hbefore hholds)
      simp [Hub.finish, hrest, Ne.symm hij]

/-- A session that steps into the line comes last. -/
theorem LineInOrder.lineUp {h h' : Hub} (hline : h.LineInOrder) {i : Nat}
    (hp : h.phases[i]? = some .greeted) (hphases : h'.phases = h.phases.set i .waiting)
    (hlast : h'.line = h.line ++ [i]) : h'.LineInOrder where
  mem_iff j := by
    rw [hphases, hlast, List.mem_append, List.mem_singleton, hline.mem_iff]
    by_cases hij : i = j
    · subst hij
      rw [phases_set_self hp]
      simp [SessionPhase.IsLined]
    · rw [phases_set_of_ne hij]
      simp [Ne.symm hij]
  first_of_holds {j q} hq hholds := by
    rw [hphases] at hq
    rcases phases_set_cases hq with ⟨-, rfl⟩ | ⟨-, hbefore⟩
    · exact hholds.elim
    · rw [hlast, List.head?_append, hline.first_of_holds hbefore hholds]
      rfl

/-- A move of a session keeps the line in order. -/
theorem LineInOrder.advances {h h' : Hub} (hline : h.LineInOrder) {i : Nat} {s : Session}
    (hs : h.sessions[i]? = some s) (hadv : Advances h i s h') : h'.LineInOrder := by
  have hp := phases_of_session hs
  cases hadv with
  | leave hend => exact hline.finish hp
  | greet hphase hopen =>
    rw [hphase] at hp
    exact hline.set_phase hp (phases_send_enter h i h.units .greeted) rfl Iff.rfl False.elim
  | lineUp hphase hcalm =>
    rw [hphase] at hp
    exact hline.lineUp hp (phases_enter h i .waiting) rfl
  | takeCharge hphase hcalm hfirst =>
    rw [hphase] at hp
    exact hline.set_phase hp (phases_enter h i .listening) rfl Iff.rfl fun _ => hfirst
  | take e hphase hcalm hqueue =>
    rw [hphase] at hp
    exact hline.set_phase hp (phases_enter h i (.taken e)) rfl Iff.rfl
      fun _ => hline.first_of_holds hp trivial
  | apply e hphase =>
    rw [hphase] at hp
    exact hline.set_phase hp (phases_enter (h.applyEvent i e) i _) rfl Iff.rfl
      fun _ => hline.first_of_holds hp trivial
  | deliver list hphase hopen hroom =>
    rw [hphase] at hp
    exact hline.set_phase hp (phases_send_enter h i list .listening) rfl Iff.rfl
      fun _ => hline.first_of_holds hp trivial

/-- A move of others keeps the line in order. -/
theorem LineInOrder.outside {h h' : Hub} {m : HubMove} (hline : h.LineInOrder)
    (hout : Outside h m h') : h'.LineInOrder := by
  -- A session that has just been opened neither stands in the line nor holds the queue.
  have hold : ∀ {j : Nat} {q : SessionPhase}, h'.phases[j]? = some q → q.IsLined →
      h.phases[j]? = some q := by
    intro j q hq hlined
    rcases hout.phases_or_opened hq with hbefore | rfl
    · exact hbefore
    · exact hlined.elim
  refine ⟨fun j => ?_, fun {j q} hq hholds => ?_⟩
  · rw [hout.line, hline.mem_iff]
    exact ⟨fun ⟨q, hq, hlined⟩ => ⟨q, hout.phases_kept hq, hlined⟩,
      fun ⟨q, hq, hlined⟩ => ⟨q, hold hq hlined, hlined⟩⟩
  · rw [hout.line]
    exact hline.first_of_holds (hold hq (SessionPhase.isLined_of_holds hholds)) hholds

/-- Every move keeps the line in order. -/
theorem LineInOrder.move? {h h' : Hub} {m : HubMove} (hline : h.LineInOrder)
    (hmove : h.move? m = some h') : h'.LineInOrder := by
  rcases advances_or_outside hmove with ⟨i, s, -, hs, hadv⟩ | hout
  · exact hline.advances hs hadv
  · exact hline.outside hout

/-- A run keeps the line in order. -/
theorem LineInOrder.run? {h h' : Hub} {moves : List HubMove} (hline : h.LineInOrder)
    (hrun : h.run? moves = some h') : h'.LineInOrder :=
  run?_induction (P := fun _ h => h.LineInOrder) hline (fun _ hline hmove => hline.move? hmove) hrun

/-- **After every run of a new hub the line is in order.** -/
theorem lineInOrder_run? {className : String} {units : List AdvertisedUnit} {stop : Signal}
    {metrics : Metrics} {moves : List HubMove} {h : Hub}
    (hrun : (fresh className units stop metrics).run? moves = some h) : h.LineInOrder :=
  (lineInOrder_fresh className units stop metrics).run? hrun

end Hub

end GpuPassthrough
