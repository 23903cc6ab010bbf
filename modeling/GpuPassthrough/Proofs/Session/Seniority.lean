import GpuPassthrough.Proofs.Session.Rest
import GpuPassthrough.Proofs.Session.Settling

/-!
# Who Is Served First

One session holds the queue at a time, and the sessions get it in the order in which they asked for
it: the line is what is left of those that have asked once those that have ended are struck out. A
session asks when it has sent its first list.

Sessions are tasks of their own, and on its way to the line one may be overtaken by another that was
opened after it. Where that does not happen they ask in the order in which they were opened, and the
queue is always with the oldest session that there is; where it does, it need not be.

## Main results

* `line_eq_filter_asked`: the line holds the sessions that have asked and not ended, in that order.
* `servedInOrder_run?`: one session at a time is served, the one that asked first.
* `not_servesOldest_overtaking`: it is not always the one that was opened first.
* `exists_run?_settle`: sessions that settle come to rest, and none overtakes another.
-/

namespace GpuPassthrough

/-- Whether a session in this phase is still on its way to the line. -/
def SessionPhase.IsOnItsWay : SessionPhase → Prop
  | opened | greeted => True
  | waiting | listening | taken _ | sending _ | ended => False

namespace Hub

/-! ### The order of asking -/

/-- Whether a session has not ended. -/
def isLive (h : Hub) (i : Nat) : Bool := h.phases[i]? ≠ some .ended

/-- The sessions that a move brings into the line. -/
def newcomers (h h' : Hub) : List Nat := h'.line.filter fun i => i ∉ h.line

/-- **The sessions that have asked for the queue** in a run, in the order in which they did. -/
def asked : Hub → List HubMove → List Nat
  | _, [] => []
  | h, m :: moves =>
    match h.move? m with
    | none => []
    | some h' => h.newcomers h' ++ asked h' moves

/-- A move adds its newcomers to those that have asked. -/
theorem asked_concat {start h h' : Hub} {moves : List HubMove} {m : HubMove}
    (hrun : start.run? moves = some h) (hmove : h.move? m = some h') :
    asked start (moves ++ [m]) = asked start moves ++ h.newcomers h' := by
  induction moves generalizing start with
  | nil =>
    cases hrun
    simp [asked, hmove]
  | cons first moves ih =>
    obtain ⟨next, hfirst, hrest⟩ := Option.bind_eq_some_iff.1 hrun
    simp only [List.cons_append, asked, hfirst, ih hrest, List.append_assoc]

/-- Nobody is new where nobody has joined the line. -/
theorem newcomers_eq_nil {h h' : Hub} (hsub : ∀ i ∈ h'.line, i ∈ h.line) :
    h.newcomers h' = [] := by
  simpa [newcomers, List.filter_eq_nil_iff] using hsub

/-- A session that goes on without ending changes nothing about who has ended. -/
theorem isLive_set {h h' : Hub} {i : Nat} {p p' : SessionPhase} (hp : h.phases[i]? = some p)
    (hphases : h'.phases = h.phases.set i p') (hlive : p ≠ .ended) (hlive' : p' ≠ .ended) :
    h'.isLive = h.isLive := by
  funext j
  simp only [isLive, hphases]
  by_cases hij : i = j
  · subst hij
    simp [phases_set_self hp, hp, hlive, hlive']
  · rw [phases_set_of_ne hij]

/-- A session that ends is struck out. -/
theorem isLive_finish {h : Hub} {i : Nat} {p : SessionPhase} (hp : h.phases[i]? = some p)
    (j : Nat) : (h.finish i).isLive j = (h.isLive j && decide (j ≠ i)) := by
  have hphases : (h.finish i).phases = h.phases.set i .ended := phases_enter h i .ended
  simp only [isLive, hphases]
  by_cases hij : i = j
  · subst hij
    simp [phases_set_self hp]
  · simp [phases_set_of_ne hij, Ne.symm hij]

/-- A move of others changes nothing about who has ended. -/
theorem Outside.isLive {h h' : Hub} {m : HubMove} (hout : Outside h m h') :
    h'.isLive = h.isLive := by
  funext j
  simp only [Hub.isLive]
  refine decide_eq_decide.2 (not_congr ⟨fun hended => ?_, hout.phases_kept⟩)
  exact (hout.phases_or_opened hended).resolve_right (by simp)

/-- A move keeps the line what it is: those that have asked and not ended. -/
theorem line_eq_filter_of_move? {h h' : Hub} {m : HubMove} (hline : h.LineInOrder)
    {before : List Nat} (hsame : h.line = before.filter h.isLive) (hmove : h.move? m = some h') :
    h'.line = (before ++ h.newcomers h').filter h'.isLive := by
  -- Where the line and who has ended stay the same, there is nothing to do.
  have hkept : h'.line = h.line → h'.isLive = h.isLive →
      h'.line = (before ++ h.newcomers h').filter h'.isLive := by
    intro hline' hlive
    rw [newcomers_eq_nil (fun i hi => hline' ▸ hi), List.append_nil, hlive, hline', hsame]
  rcases advances_or_outside hmove with ⟨i, s, -, hs, hadv⟩ | hout
  · have hp := phases_of_session hs
    cases hadv with
    | leave hend =>
      have hsub : ∀ j ∈ (h.finish i).line, j ∈ h.line := fun j hj => (List.mem_filter.1 hj).1
      rw [newcomers_eq_nil hsub, List.append_nil]
      show h.line.filter _ = _
      rw [hsame, List.filter_filter]
      refine List.filter_congr fun j _ => ?_
      rw [isLive_finish hp, Bool.and_comm]
    | lineUp hphase hcalm =>
      rw [hphase] at hp
      have hphases := phases_enter h i .waiting
      have hnew : i ∉ h.line := by
        rw [hline.mem_iff, hp]
        rintro ⟨q, ⟨⟩, hlined⟩
        exact hlined
      have hlive : isLive { h.update i fun s => s.enter .waiting with line := h.line ++ [i] } =
          h.isLive := isLive_set hp hphases (by simp) (by simp)
      have hjoins : h.newcomers { h.update i fun s => s.enter .waiting with
          line := h.line ++ [i] } = [i] := by
        have hold : (h.line.filter fun j => j ∉ h.line) = [] :=
          List.filter_eq_nil_iff.2 fun j hj => by simpa using hj
        rw [newcomers, List.filter_append, hold]
        simp [hnew]
      rw [hlive, hjoins, List.filter_append, ← hsame]
      simp [isLive, hp]
    | greet hphase _ =>
      rw [hphase] at hp
      exact hkept rfl (isLive_set hp (phases_send_enter h i h.units .greeted) (by simp) (by simp))
    | takeCharge hphase _ _ =>
      rw [hphase] at hp
      exact hkept rfl (isLive_set hp (phases_enter h i .listening) (by simp) (by simp))
    | take e hphase _ _ =>
      rw [hphase] at hp
      exact hkept rfl (isLive_set hp (phases_enter h i (.taken e)) (by simp) (by simp))
    | apply e hphase =>
      rw [hphase] at hp
      exact hkept rfl (isLive_set hp (phases_enter (h.applyEvent i e) i _) (by simp) (by simp))
    | deliver list hphase _ _ =>
      rw [hphase] at hp
      exact hkept rfl (isLive_set hp (phases_send_enter h i list .listening) (by simp) (by simp))
  · exact hkept hout.line hout.isLive

/-- **The line holds the sessions that have asked and not ended**, in the order of asking. -/
theorem line_eq_filter_asked {className : String} {units : List AdvertisedUnit} {stop : Signal}
    {metrics : Metrics} {moves : List HubMove} {h : Hub}
    (hrun : (fresh className units stop metrics).run? moves = some h) :
    h.line = (asked (fresh className units stop metrics) moves).filter h.isLive := by
  refine run?_induction (P := fun moves h =>
    h.line = (asked (fresh className units stop metrics) moves).filter h.isLive) rfl
    (fun hbefore hsame hmove => ?_) hrun
  rw [asked_concat hbefore hmove]
  exact line_eq_filter_of_move? (lineInOrder_run? hbefore) hsame hmove

/-! ### The order of opening -/

/-- Whether a session in this phase is on its way can be told by looking at it. -/
instance SessionPhase.decidableIsOnItsWay : DecidablePred SessionPhase.IsOnItsWay
  | .opened | .greeted => isTrue trivial
  | .waiting | .listening | .taken _ | .sending _ | .ended => isFalse id

/-- **A move overtakes nobody** if it takes no session towards the line that was opened after another
one that is still on its way there. -/
def OvertakesNobody (h : Hub) : HubMove → Prop
  | .advance i => ∀ p ∈ h.phases[i]?, p.IsOnItsWay → ∀ j < i, ∀ q ∈ h.phases[j]?, ¬ q.IsOnItsWay
  | _ => True

instance decidableOvertakesNobody (h : Hub) : DecidablePred h.OvertakesNobody
  | .advance i =>
    inferInstanceAs (Decidable
      (∀ p ∈ h.phases[i]?, p.IsOnItsWay → ∀ j < i, ∀ q ∈ h.phases[j]?, ¬ q.IsOnItsWay))
  | .connect _ | .read _ | .disconnect _ | .offer _ | .allocate _ | .consult | .renew
  | .terminate _ | .abandon _ | .halt | .abandonStop => isTrue trivial

/-- **Sessions start in the order in which they were opened** in a run, if none of its moves
overtakes anybody. -/
def StartsInOrder : Hub → List HubMove → Prop
  | _, [] => True
  | h, m :: moves => h.OvertakesNobody m ∧ ∀ h' ∈ h.move? m, StartsInOrder h' moves

instance decidableStartsInOrder : (start : Hub) → DecidablePred (StartsInOrder start)
  | _, [] => isTrue trivial
  | h, m :: moves =>
    have (h' : Hub) : Decidable (StartsInOrder h' moves) := decidableStartsInOrder h' moves
    inferInstanceAs (Decidable (h.OvertakesNobody m ∧ ∀ h' ∈ h.move? m, StartsInOrder h' moves))

/-- Sessions that start in order do so up to the last move, which overtakes nobody either. -/
theorem StartsInOrder.of_concat {start h : Hub} {moves : List HubMove} {m : HubMove}
    (hstarts : StartsInOrder start (moves ++ [m])) (hrun : start.run? moves = some h) :
    StartsInOrder start moves ∧ h.OvertakesNobody m := by
  induction moves generalizing start with
  | nil =>
    cases hrun
    exact ⟨trivial, hstarts.1⟩
  | cons first moves ih =>
    obtain ⟨next, hfirst, hrest⟩ := Option.bind_eq_some_iff.1 hrun
    obtain ⟨hbefore, hlast⟩ := ih (hstarts.2 next hfirst) hrest
    refine ⟨⟨hstarts.1, fun h' hh' => ?_⟩, hlast⟩
    obtain rfl : next = h' := Option.some.inj (hfirst.symm.trans hh')
    exact hbefore

/-- A session on its way to the line can move. -/
theorem advance?_ne_none_of_isOnItsWay {h : Hub} {i : Nat} {p : SessionPhase}
    (hp : h.phases[i]? = some p) (hway : p.IsOnItsWay) : h.advance? i ≠ none := by
  intro hnone
  rw [phases_getElem?] at hp
  obtain ⟨s, hs, rfl⟩ := Option.map_eq_some_iff.1 hp
  cases (advance?_eq_none_iff hs).1 hnone with
  | ended hphase | behind hphase | idle hphase | blocked _ hphase =>
    rw [hphase] at hway
    exact hway

/-- The session that is next is the first that can move. -/
theorem exists_advance?_of_next? {h h' : Hub} (hnext : h.next? = some h') :
    ∃ i, h.advance? i = some h' ∧ ∀ j < i, h.advance? j = none := by
  obtain ⟨front, i, back, hrange, hadv, hnone⟩ := List.findSome?_eq_some_iff.1 hnext
  refine ⟨i, hadv, fun j hj => hnone j ?_⟩
  have hasc : (front ++ i :: back).Pairwise (· < ·) := hrange ▸ List.pairwise_lt_range
  have hi : i ∈ List.range h.sessions.length := by rw [hrange]; simp
  have hmem : j ∈ front ++ i :: back := by
    rw [← hrange, List.mem_range]
    exact Nat.lt_trans hj (List.mem_range.1 hi)
  -- What stands after the first that can move is larger than it.
  refine (List.mem_append.1 hmem).resolve_right fun hback => ?_
  obtain ⟨-, hasc, -⟩ := List.pairwise_append.1 hasc
  rcases List.mem_cons.1 hback with rfl | hlater
  · exact Nat.lt_irrefl j hj
  · exact Nat.lt_asymm hj (List.rel_of_pairwise_cons hasc hlater)

/-- Settling within some moves is a run of the sessions, which start in the order in which they were
opened. -/
theorem exists_run?_settleWithin (n : Nat) (h : Hub) :
    ∃ sessions : List Nat, h.run? (sessions.map HubMove.advance) = some (settleWithin n h) ∧
      StartsInOrder h (sessions.map HubMove.advance) := by
  induction n generalizing h with
  | zero => exact ⟨[], rfl, trivial⟩
  | succ n ih =>
    rw [settleWithin]
    split
    · exact ⟨[], rfl, trivial⟩
    · next h' hnext =>
      obtain ⟨i, hadv, hnone⟩ := exists_advance?_of_next? hnext
      obtain ⟨sessions, hrun, hstarts⟩ := ih h'
      have hmove : h.move? (.advance i) = some h' := hadv
      refine ⟨i :: sessions, by simp [hmove, hrun], fun p _ _ j hj q hq hway => ?_, ?_⟩
      · exact advance?_ne_none_of_isOnItsWay hq hway (hnone j hj)
      · intro next hnext'
        obtain rfl : h' = next := Option.some.inj (hmove.symm.trans hnext')
        exact hstarts

/-- **Sessions left to themselves come to rest**, and start in the order in which they were opened:
one after the other, as on one thread, none overtakes another. -/
theorem exists_run?_settle (h : Hub) :
    ∃ sessions : List Nat, h.run? (sessions.map HubMove.advance) = some h.settle ∧
      StartsInOrder h (sessions.map HubMove.advance) ∧ h.settle.IsQuiet := by
  obtain ⟨sessions, hrun, hstarts⟩ := exists_run?_settleWithin h.potential h
  exact ⟨sessions, hrun, hstarts, isQuiet_settle h⟩

/-- **The line ascends**, and those on their way to it come after those that stand in it. -/
structure LineAscends (h : Hub) : Prop where
  line : h.line.Pairwise (· < ·)
  coming : ∀ i ∈ h.line, ∀ j p, h.phases[j]? = some p → p.IsOnItsWay → i < j

/-- A session goes on, and those that leave the line leave it ascending. -/
theorem LineAscends.set_phase {h h' : Hub} (hasc : h.LineAscends) {i : Nat} {p p' : SessionPhase}
    (hp : h.phases[i]? = some p) (hphases : h'.phases = h.phases.set i p')
    (hsub : h'.line.Sublist h.line) (hway : p'.IsOnItsWay → p.IsOnItsWay) : h'.LineAscends where
  line := hasc.line.sublist hsub
  coming k hk j q hq hcoming := by
    rw [hphases] at hq
    rcases phases_set_cases hq with ⟨rfl, rfl⟩ | ⟨-, hbefore⟩
    · exact hasc.coming k (hsub.subset hk) i p hp (hway hcoming)
    · exact hasc.coming k (hsub.subset hk) j q hbefore hcoming

/-- A move keeps the line ascending, if it is not one of a session that overtakes another. -/
theorem LineAscends.move? {h h' : Hub} {m : HubMove} (hasc : h.LineAscends) (hline : h.LineInOrder)
    (hstarts : h.OvertakesNobody m) (hmove : h.move? m = some h') : h'.LineAscends := by
  rcases advances_or_outside hmove with ⟨i, s, rfl, hs, hadv⟩ | hout
  · have hp := phases_of_session hs
    cases hadv with
    | leave hend =>
      exact hasc.set_phase hp (phases_enter h i .ended) List.filter_sublist False.elim
    | greet hphase _ =>
      rw [hphase] at hp
      exact hasc.set_phase hp (phases_send_enter h i h.units .greeted) (.refl _) fun _ => trivial
    | lineUp hphase _ =>
      rw [hphase] at hp
      have hphases := phases_enter h i .waiting
      have hlast : ∀ k ∈ h.line, k < i := fun k hk => hasc.coming k hk i _ hp trivial
      refine ⟨?_, fun k hk j q hq hcoming => ?_⟩
      · refine List.pairwise_append.2 ⟨hasc.line, List.pairwise_singleton _ _, ?_⟩
        rintro k hk j hj
        rw [List.mem_singleton.1 hj]
        exact hlast k hk
      · have hq : (h.phases.set i .waiting)[j]? = some q := hphases ▸ hq
        rcases phases_set_cases hq with ⟨-, rfl⟩ | ⟨hij, hbefore⟩
        · exact hcoming.elim
        · rcases List.mem_append.1 hk with hold | hself
          · exact hasc.coming k hold j q hbefore hcoming
          · rw [List.mem_singleton.1 hself]
            -- Nobody opened before it is on its way, so the other was opened after it.
            refine Nat.lt_of_le_of_ne (Nat.le_of_not_lt fun hlt => ?_) hij
            exact hstarts _ hp trivial j hlt q hbefore hcoming
    | takeCharge hphase _ _ =>
      exact hasc.set_phase hp (phases_enter h i .listening) (.refl _) False.elim
    | take e hphase _ _ =>
      exact hasc.set_phase hp (phases_enter h i (.taken e)) (.refl _) False.elim
    | apply e hphase =>
      exact hasc.set_phase hp (phases_enter (h.applyEvent i e) i _) (.refl _) False.elim
    | deliver list hphase _ _ =>
      exact hasc.set_phase hp (phases_send_enter h i list .listening) (.refl _) False.elim
  · refine ⟨hout.line ▸ hasc.line, fun k hk j q hq hcoming => ?_⟩
    rw [hout.line] at hk
    rcases hout.phases with hsame | hopened
    · exact hasc.coming k hk j q (hsame ▸ hq) hcoming
    · rw [hopened, List.getElem?_append] at hq
      split at hq
      · exact hasc.coming k hk j q hq hcoming
      · -- A session that was just opened comes after all.
        next hj =>
        obtain ⟨p, hp, -⟩ := (hline.mem_iff k).1 hk
        exact Nat.lt_of_lt_of_le (List.getElem?_eq_some_iff.1 hp).1 (Nat.le_of_not_lt hj)

/-- Where sessions start in order, the line ascends. -/
theorem lineAscends_run? {className : String} {units : List AdvertisedUnit} {stop : Signal}
    {metrics : Metrics} {moves : List HubMove} {h : Hub}
    (hrun : (fresh className units stop metrics).run? moves = some h)
    (hstarts : StartsInOrder (fresh className units stop metrics) moves) : h.LineAscends := by
  refine run?_induction (P := fun moves h =>
    StartsInOrder (fresh className units stop metrics) moves → h.LineAscends)
    (fun _ => ⟨.nil, fun i hi => by simp [fresh] at hi⟩)
    (fun {moves h m h'} hbefore hasc hmove hstarts => ?_)
    hrun hstarts
  obtain ⟨hearlier, hlast⟩ := hstarts.of_concat hbefore
  exact (hasc hearlier).move? (lineInOrder_run? hbefore) hlast hmove

/-! ### Service -/

/-- Whether a session holds the queue. -/
def IsHolder (h : Hub) (i : Nat) : Prop := ∃ p, h.phases[i]? = some p ∧ p.Holds

/-- In a quiet hub a session that has not ended stands in the line. -/
theorem IsQuiet.mem_line {h : Hub} (hquiet : h.IsQuiet) (hline : h.LineInOrder) {i : Nat}
    {s : Session} (hs : h.sessions[i]? = some s) (hlive : s.phase ≠ .ended) : i ∈ h.line := by
  refine (hline.mem_iff i).2 ⟨s.phase, phases_of_session hs, ?_⟩
  cases hquiet.atRest hs with
  | ended hphase => exact absurd hphase hlive
  | behind hphase | idle hphase | blocked _ hphase => rw [hphase]; trivial

/-- In a quiet hub the first in the line holds the queue, if a session has not ended. -/
theorem IsQuiet.exists_holder_first {h : Hub} (hquiet : h.IsQuiet) (hline : h.LineInOrder)
    (hsome : ∃ (j : Nat) (t : Session), h.sessions[j]? = some t ∧ t.phase ≠ .ended) :
    ∃ i rest, h.line = i :: rest ∧ h.IsHolder i := by
  obtain ⟨j, t, ht, hlive⟩ := hsome
  obtain ⟨i, rest, hfirst⟩ := List.exists_cons_of_ne_nil
    (List.ne_nil_of_mem (hquiet.mem_line hline ht hlive))
  have hhead : h.line.head? = some i := by rw [hfirst, List.head?_cons]
  obtain ⟨s, hs, hholds⟩ := hquiet.holds_of_first hline hhead
  exact ⟨i, rest, hfirst, s.phase, phases_of_session hs, hholds⟩

/-- **The oldest session is served** wherever no session can move and one has not ended: exactly one
holds the queue, and none that has not ended was opened before it. -/
def ServesOldest (h : Hub) : Prop :=
  h.IsQuiet → (∃ (j : Nat) (t : Session), h.sessions[j]? = some t ∧ t.phase ≠ .ended) →
    ∃ i, h.IsHolder i ∧ (∀ k, h.IsHolder k → k = i) ∧
      ∀ (j : Nat) (t : Session), h.sessions[j]? = some t → t.phase ≠ .ended → i ≤ j

/-- **One session at a time is served, in the order of asking**, after a run that leads to `h`. -/
structure ServedInOrder (start : Hub) (moves : List HubMove) (h : Hub) : Prop where
  /-- Two sessions that hold the queue are one. -/
  alone : ∀ i j, h.IsHolder i → h.IsHolder j → i = j
  /-- Where no session can move and one has not ended, exactly one holds the queue: of those that
  have not ended the first to have asked. -/
  served : h.IsQuiet → (∃ (j : Nat) (t : Session), h.sessions[j]? = some t ∧ t.phase ≠ .ended) →
    ∃ i, h.IsHolder i ∧ (∀ k, h.IsHolder k → k = i) ∧ (asked start moves).find? h.isLive = some i
  /-- In a run in which no session overtakes another on its way to the line, the first to have asked
  is the first to have been opened. -/
  oldest : StartsInOrder start moves → h.ServesOldest
  /-- Where no session can move, one whose client has gone away has ended. -/
  closed : h.IsQuiet → ∀ (i : Nat) (s : Session), h.sessions[i]? = some s → s.closed = true →
    s.phase = .ended

/-- **The queue is with one session at a time**, and wherever no session can move with the first to
have asked of those that have not ended, across generations and whatever happened to the others. -/
theorem servedInOrder_run? {className : String} {units : List AdvertisedUnit} {stop : Signal}
    {metrics : Metrics} {moves : List HubMove} {h : Hub}
    (hrun : (fresh className units stop metrics).run? moves = some h) :
    ServedInOrder (fresh className units stop metrics) moves h := by
  have hline : h.LineInOrder := lineInOrder_run? hrun
  have halone : ∀ i j, h.IsHolder i → h.IsHolder j → i = j := by
    rintro i j ⟨p, hp, hholds⟩ ⟨q, hq, hholds'⟩
    exact hline.eq_of_holds hp hholds hq hholds'
  refine ⟨halone, fun hquiet hsome => ?_, fun hstarts hquiet hsome => ?_,
    fun hquiet i s hs hgone => ?_⟩
  · obtain ⟨i, rest, hfirst, hholder⟩ := hquiet.exists_holder_first hline hsome
    refine ⟨i, hholder, fun k hk => halone k i hk hholder, ?_⟩
    rw [← List.head?_filter, ← line_eq_filter_asked hrun, hfirst, List.head?_cons]
  · obtain ⟨i, rest, hfirst, hholder⟩ := hquiet.exists_holder_first hline hsome
    refine ⟨i, hholder, fun k hk => halone k i hk hholder, fun j t ht hlive => ?_⟩
    have hmem := hquiet.mem_line hline ht hlive
    have hasc := (lineAscends_run? hrun hstarts).line
    rw [hfirst] at hmem hasc
    rcases List.mem_cons.1 hmem with rfl | hlater
    · exact Nat.le_refl j
    · exact Nat.le_of_lt (List.rel_of_pairwise_cons hasc hlater)
  · cases hquiet.atRest hs with
    | ended hphase => exact hphase
    | behind _ hcalm | idle _ hcalm =>
      rw [hcalm.2] at hgone
      cases hgone
    | blocked _ _ hopen =>
      rw [hopen] at hgone
      cases hgone

/-- A succession: of five sessions of two generations the first is in charge when its generation
ends, the second waits for it then, the client of the fourth goes away while it waits, and the third,
which is in charge in the end, has a list to send for which its client leaves no room. -/
def succession : List HubMove :=
  let join (generation i : Nat) : List HubMove := [.connect generation, .advance i, .advance i]
  let event (health : Health) : List HubMove := [.offer ⟨"1", health⟩, .advance 2, .advance 2]
  [.renew] ++ join 0 0 ++ [.advance 0] ++ join 0 1 ++ [.renew] ++ join 1 2 ++ join 1 3 ++
    join 1 4 ++ [.terminate 0, .disconnect 3, .advance 3, .advance 1, .advance 0, .advance 2] ++
    event .unhealthy ++ [.advance 2] ++ event .healthy ++ [.advance 2] ++ event .unhealthy ++
    [.advance 2] ++ event .healthy

/-- After the succession, in which nobody was overtaken, the third session holds the queue, and the
fifth waits behind it. -/
theorem servedInOrder_succession :
    ∃ h, (fresh "pgpu" [⟨"1", .healthy, none⟩] {} {}).run? succession = some h ∧ h.IsQuiet ∧
      h.IsHolder 2 ∧ h.phases[4]? = some .waiting ∧
      StartsInOrder (fresh "pgpu" [⟨"1", .healthy, none⟩] {} {}) succession ∧
      ServedInOrder (fresh "pgpu" [⟨"1", .healthy, none⟩] {} {}) succession h := by
  let start := fresh "pgpu" [⟨"1", .healthy, none⟩] {} {}
  obtain ⟨h, hrun⟩ : ∃ h, start.run? succession = some h := ⟨_, rfl⟩
  obtain ⟨hquiet, hholder, hwaits⟩ :
      h.IsQuiet ∧ h.IsHolder 2 ∧ h.phases[4]? = some .waiting := by
    cases hrun
    exact ⟨isQuiet_of_next?_eq_none rfl, ⟨_, rfl, trivial⟩, rfl⟩
  have hstarts : StartsInOrder start succession := by decide +kernel
  exact ⟨h, hrun, hquiet, hholder, hwaits, hstarts, servedInOrder_run? hrun⟩

/-- An overtaking: of two sessions that are opened the second is the first to go on, and takes the
queue before the first has asked for it. -/
def overtaking : List HubMove :=
  [.renew, .connect 0, .connect 0, .advance 1, .advance 1, .advance 1, .advance 0, .advance 0]

/-- **The oldest session is not always served**: one that was overtaken on its way to the line waits,
and the session that was opened after it holds the queue. -/
theorem not_servesOldest_overtaking :
    ∃ h, (fresh "pgpu" [⟨"1", .healthy, none⟩] {} {}).run? overtaking = some h ∧ h.IsQuiet ∧
      h.phases[0]? = some .waiting ∧ h.IsHolder 1 ∧ ¬ h.ServesOldest := by
  let start := fresh "pgpu" [⟨"1", .healthy, none⟩] {} {}
  obtain ⟨h, hrun⟩ : ∃ h, start.run? overtaking = some h := ⟨_, rfl⟩
  obtain ⟨hquiet, hwaits, hholder, hfirst⟩ :
      h.IsQuiet ∧ h.phases[0]? = some .waiting ∧ h.IsHolder 1 ∧
        ∃ t : Session, h.sessions[0]? = some t ∧ t.phase ≠ .ended := by
    cases hrun
    exact ⟨isQuiet_of_next?_eq_none rfl, rfl, ⟨_, rfl, trivial⟩, _, rfl, fun h => by cases h⟩
  refine ⟨h, hrun, hquiet, hwaits, hholder, fun hserves => ?_⟩
  obtain ⟨t, ht, hlive⟩ := hfirst
  obtain ⟨i, -, honly, hleast⟩ := hserves hquiet ⟨0, t, ht, hlive⟩
  -- The one that holds the queue is the second, and the first has not ended.
  have hholds : 1 = i := honly 1 hholder
  have hoverdue : i ≤ 0 := hleast 0 t ht hlive
  omega

end Hub

end GpuPassthrough
