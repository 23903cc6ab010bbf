import GpuPassthrough.Proofs.Session.Line

/-!
# Every Event Once, and in Order

What becomes of the health events that the queue has accepted. They are applied in the order in
which they were accepted, and an accepted event that is not yet applied is in one of two places: in
the queue, or with the session that has just taken it. So no event is lost, applied twice or
overtaken, however sessions of several generations hand the queue over to each other, and whatever
the signals and the clients do meanwhile.

## Main results

* `conserved_run?`: the accepted events are the applied ones, the taken one and the queued one.
* `queued_or_taken`: an event leaves the queue only with the session in charge.
* `accounted_run?`: what every run has done with the events, the units and the counter.
-/

namespace GpuPassthrough

/-- The event of a session that has taken one. -/
def SessionPhase.event? : SessionPhase → Option HealthEvent
  | taken e => some e
  | _ => none

/-- The one member of a list that gives a value. -/
theorem filterMap_eq_toList {α β : Type} {f : α → Option β} {xs : List α} {i : Nat} {x : α}
    (hx : xs[i]? = some x) (hother : ∀ j y, j ≠ i → xs[j]? = some y → f y = none) :
    xs.filterMap f = (f x).toList := by
  induction xs generalizing i with
  | nil => simp at hx
  | cons y ys ih =>
    cases i with
    | zero =>
      obtain rfl : y = x := by simpa using hx
      have hrest : ys.filterMap f = [] := by
        rw [List.filterMap_eq_nil_iff]
        intro z hz
        obtain ⟨j, hj⟩ := List.getElem?_of_mem hz
        exact hother (j + 1) z (by omega) (by simpa using hj)
      cases hy : f y <;> simp [hy, hrest]
    | succ i =>
      have hy : f y = none := hother 0 y (by omega) rfl
      rw [List.filterMap_cons_none hy]
      exact ih (by simpa using hx) fun j z hj hz => hother (j + 1) z (by omega) (by simpa using hz)

/-- Changing a member but not the value that it gives. -/
theorem filterMap_set_of_eq {α β : Type} {f : α → Option β} {xs : List α} {i : Nat} {x y : α}
    (hx : xs[i]? = some x) (hy : f y = f x) : (xs.set i y).filterMap f = xs.filterMap f := by
  induction xs generalizing i with
  | nil => rfl
  | cons z zs ih =>
    cases i with
    | zero =>
      obtain rfl : z = x := by simpa using hx
      simp only [List.set_cons_zero, List.filterMap_cons, hy]
    | succ i =>
      simp only [List.set_cons_succ, List.filterMap_cons, ih (by simpa using hx)]

namespace Hub

/-- The events that sessions have taken and not yet applied. -/
def taken (h : Hub) : List HealthEvent := h.phases.filterMap SessionPhase.event?

/-- Only a session that holds the queue has taken an event. -/
theorem holds_of_event? {p : SessionPhase} {e : HealthEvent} (he : p.event? = some e) :
    p = .taken e ∧ p.Holds := by
  cases p <;> simp_all [SessionPhase.event?, SessionPhase.Holds]

/-- What is taken is what the session in charge has taken. -/
theorem taken_eq_of_holds {h : Hub} (hline : h.LineInOrder) {i : Nat} {p : SessionPhase}
    (hp : h.phases[i]? = some p) (hholds : p.Holds) : h.taken = p.event?.toList := by
  refine filterMap_eq_toList hp fun j q hji hq => ?_
  cases he : q.event? with
  | none => rfl
  | some e => exact absurd (hline.eq_of_holds hq (holds_of_event? he).2 hp hholds) hji

/-- No two events are taken at once. -/
theorem length_taken_le_one {h : Hub} (hline : h.LineInOrder) : h.taken.length ≤ 1 := by
  by_cases hnil : h.taken = []
  · simp [hnil]
  · obtain ⟨e, he⟩ := List.exists_mem_of_ne_nil _ hnil
    obtain ⟨p, hmem, hpe⟩ := List.mem_filterMap.1 he
    obtain ⟨i, hi⟩ := List.getElem?_of_mem hmem
    rw [taken_eq_of_holds hline hi (holds_of_event? hpe).2]
    cases p.event? <;> simp

/-- A session that moves on without taking or applying an event leaves the taken ones alone. -/
theorem taken_of_set {h h' : Hub} {i : Nat} {s : Session} (hs : h.sessions[i]? = some s)
    {p' : SessionPhase} (hphases : h'.phases = h.phases.set i p')
    (hevent : p'.event? = s.phase.event?) : h'.taken = h.taken := by
  rw [taken, taken, hphases]
  exact filterMap_set_of_eq (phases_of_session hs) hevent

/-! ### Conservation -/

/-- **The accepted events are the applied ones, the taken one and the queued one**, in this
order. -/
def Conserved (h : Hub) : Prop :=
  h.accepted = h.applied.map Prod.snd ++ h.taken ++ h.queue.toList

/-- Nothing changes for the events. -/
theorem Conserved.of_eq {h h' : Hub} (hcons : h.Conserved) (haccepted : h'.accepted = h.accepted)
    (happlied : h'.applied = h.applied) (hqueue : h'.queue = h.queue)
    (htaken : h'.taken = h.taken) : h'.Conserved := by
  rw [Conserved, haccepted, happlied, hqueue, htaken]
  exact hcons

/-- The session in charge takes the event from the queue. -/
theorem Conserved.take {h h' : Hub} (hcons : h.Conserved) (hline : h.LineInOrder)
    (hline' : h'.LineInOrder) {i : Nat} {e : HealthEvent} (hp : h.phases[i]? = some .listening)
    (hphases : h'.phases = h.phases.set i (.taken e)) (hqueue : h.queue = some e)
    (hempty : h'.queue = none) (haccepted : h'.accepted = h.accepted)
    (happlied : h'.applied = h.applied) : h'.Conserved := by
  have hp' : h'.phases[i]? = some (.taken e) := by rw [hphases, phases_set_self hp]
  have hbefore : h.taken = [] := taken_eq_of_holds hline hp trivial
  have hafter : h'.taken = [e] := taken_eq_of_holds hline' hp' trivial
  rw [Conserved, hbefore, hqueue] at hcons
  rw [Conserved, haccepted, happlied, hafter, hempty, hcons]
  simp

/-- The session in charge applies the event that it has taken. -/
theorem Conserved.apply {h h' : Hub} (hcons : h.Conserved) (hline : h.LineInOrder)
    (hline' : h'.LineInOrder) {i : Nat} {e : HealthEvent} {list : List AdvertisedUnit}
    (hp : h.phases[i]? = some (.taken e)) (hphases : h'.phases = h.phases.set i (.sending list))
    (hqueue : h'.queue = h.queue) (haccepted : h'.accepted = h.accepted)
    (happlied : h'.applied = h.applied ++ [(i, e)]) : h'.Conserved := by
  have hp' : h'.phases[i]? = some (.sending list) := by rw [hphases, phases_set_self hp]
  have hbefore : h.taken = [e] := taken_eq_of_holds hline hp trivial
  have hafter : h'.taken = [] := taken_eq_of_holds hline' hp' trivial
  rw [Conserved, hbefore] at hcons
  rw [Conserved, haccepted, happlied, hafter, hqueue, hcons]
  simp

/-- A move of a session neither loses, doubles nor reorders an event. -/
theorem Conserved.advances {h h' : Hub} (hcons : h.Conserved) (hline : h.LineInOrder) {i : Nat}
    {s : Session} (hs : h.sessions[i]? = some s) (hadv : Advances h i s h') : h'.Conserved := by
  have hp := phases_of_session hs
  have hline' : h'.LineInOrder := hline.advances hs hadv
  cases hadv with
  | leave hend =>
    -- A session that has taken an event may not end, so the event cannot get lost here.
    have hnone : s.phase.event? = none := by
      cases hphase : s.phase <;> first | rfl | simp [MayEnd, hphase] at hend
    exact hcons.of_eq rfl rfl rfl (taken_of_set hs (phases_enter h i .ended) hnone.symm)
  | greet hphase hopen =>
    exact hcons.of_eq rfl rfl rfl
      (taken_of_set hs (phases_send_enter h i h.units .greeted) (by rw [hphase]; rfl))
  | lineUp hphase hcalm =>
    exact hcons.of_eq rfl rfl rfl
      (taken_of_set hs (phases_enter h i .waiting) (by rw [hphase]; rfl))
  | takeCharge hphase hcalm hfirst =>
    exact hcons.of_eq rfl rfl rfl
      (taken_of_set hs (phases_enter h i .listening) (by rw [hphase]; rfl))
  | take e hphase hcalm hqueue =>
    rw [hphase] at hp
    exact hcons.take hline hline' hp (phases_enter h i (.taken e)) hqueue rfl rfl rfl
  | apply e hphase =>
    rw [hphase] at hp
    exact hcons.apply hline hline' hp (phases_enter (h.applyEvent i e) i _) rfl rfl rfl
  | deliver list hphase hopen hroom =>
    exact hcons.of_eq rfl rfl rfl
      (taken_of_set hs (phases_send_enter h i list .listening) (by rw [hphase]; rfl))

/-- A move of others leaves the taken events alone. -/
theorem Outside.taken_eq {h h' : Hub} {m : HubMove} (hout : Outside h m h') :
    h'.taken = h.taken := by
  rw [taken, taken]
  rcases hout.phases with hsame | hopened
  · rw [hsame]
  · simp [hopened, SessionPhase.event?]

/-- A move of others adds to the queue what it adds to the accepted events. -/
theorem Conserved.outside {h h' : Hub} {m : HubMove} (hcons : h.Conserved)
    (hout : Outside h m h') : h'.Conserved := by
  rw [Conserved, hout.accepted, hout.applied, hout.taken_eq, hout.queue, hcons]
  simp only [List.append_assoc]

/-- After every run of a new hub the accepted events are the applied, the taken and the queued. -/
theorem conserved_run? {className : String} {units : List AdvertisedUnit} {stop : Signal}
    {metrics : Metrics} {moves : List HubMove} {h : Hub}
    (hrun : (fresh className units stop metrics).run? moves = some h) : h.Conserved := by
  have hstart : (fresh className units stop metrics).Conserved := rfl
  refine run?_induction (P := fun _ h => h.Conserved) hstart (fun hbefore hcons hmove => ?_) hrun
  rcases advances_or_outside hmove with ⟨i, s, -, hs, hadv⟩ | hout
  · exact hcons.advances (lineInOrder_run? hbefore) hs hadv
  · exact hcons.outside hout

/-- **An event stays in the queue** until the session in charge takes it, whatever else moves. -/
theorem queued_or_taken {h h' : Hub} (hline : h.LineInOrder) {m : HubMove} {e : HealthEvent}
    (hqueue : h.queue = some e) (hmove : h.move? m = some h') :
    h'.queue = some e ∨ ∃ i, m = .advance i ∧ h.line.head? = some i ∧ h'.queue = none ∧
      h'.phases[i]? = some (.taken e) := by
  rcases advances_or_outside hmove with ⟨i, s, rfl, hs, hadv⟩ | hout
  · have hp := phases_of_session hs
    cases hadv with
    | take e' hphase hcalm hqueue' =>
      obtain rfl : e' = e := Option.some.inj (hqueue'.symm.trans hqueue)
      rw [hphase] at hp
      have hp' := phases_set_self hp (.taken e')
      rw [← phases_enter h i (.taken e')] at hp'
      exact .inr ⟨i, rfl, hline.first_of_holds hp trivial, rfl, hp'⟩
    | _ => exact .inl hqueue
  · have hroom := hout.queue
    rw [hqueue] at hroom
    cases hafter : h'.queue with
    | none => simp [hafter] at hroom
    | some e' =>
      rw [hafter] at hroom
      simp only [Option.toList_some, List.cons_append, List.nil_append, List.cons.injEq] at hroom
      exact .inl (by rw [hroom.1])

/-! ### Units and counters -/

/-- The counter of health transitions after an event was applied. -/
theorem value_applyEvent (h : Hub) (i : Nat) (e : HealthEvent) (health : Health) :
    (h.applyEvent i e).metrics.value (.healthTransitions h.className health.text) =
      h.metrics.value (.healthTransitions h.className health.text) +
        if e.health = health ∧ e.concerns h.units then 1 else 0 := by
  simp only [applyEvent]
  by_cases hconcerns : e.concerns h.units = true
  · by_cases hhealth : e.health = health
    · subst hhealth
      simp [hconcerns]
    · have hseries : Series.healthTransitions h.className health.text ≠
          .healthTransitions h.className e.health.text := by
        intro heq
        have htext : health.text = e.health.text := (Series.healthTransitions.inj heq).2
        revert hhealth htext
        cases e.health <;> cases health <;> decide
      rw [if_pos hconcerns, Metrics.value_increment_of_ne _ hseries]
      simp [hhealth]
  · simp [hconcerns]

/-- What the units of a hub and its counter of health transitions owe to the events that were
applied since the hub was new. -/
structure Reflected (className : String) (units : List AdvertisedUnit) (metrics : Metrics)
    (h : Hub) : Prop where
  sameClass : h.className = className
  inUnits : h.units = unitsAfter units (h.applied.map Prod.snd)
  counted : ∀ health : Health,
    h.metrics.value (.healthTransitions className health.text) =
      metrics.value (.healthTransitions className health.text) +
        (h.applied.map Prod.snd).countP fun e => e.health = health ∧ e.concerns units

/-- One more event is applied. -/
theorem Reflected.apply {className : String} {units : List AdvertisedUnit} {metrics : Metrics}
    {h : Hub} (href : Reflected className units metrics h) (i : Nat) (e : HealthEvent) :
    Reflected className units metrics (h.applyEvent i e) where
  sameClass := href.sameClass
  inUnits := by
    simp only [applyEvent, List.map_append, List.map_cons, List.map_nil]
    rw [unitsAfter_concat, href.inUnits]
  counted health := by
    have hconcerns : e.concerns h.units = e.concerns units := by
      rw [href.inUnits, e.concerns_unitsAfter]
    have hvalue := value_applyEvent h i e health
    rw [href.sameClass, href.counted, hconcerns] at hvalue
    simp only [applyEvent, List.map_append, List.map_cons, List.map_nil, List.countP_append,
      List.countP_singleton, decide_eq_true_eq] at hvalue ⊢
    rw [hvalue, Nat.add_assoc]

/-- After every run the units and the counter are what the applied events made of them. -/
theorem reflected_run? {className : String} {units : List AdvertisedUnit} {stop : Signal}
    {metrics : Metrics} {moves : List HubMove} {h : Hub}
    (hrun : (fresh className units stop metrics).run? moves = some h) :
    Reflected className units metrics h := by
  have hstart : Reflected className units metrics (fresh className units stop metrics) :=
    ⟨rfl, rfl, fun _ => rfl⟩
  refine run?_induction (P := fun _ h => Reflected className units metrics h) hstart
    (fun {_ h m h'} _ href hmove => ?_) hrun
  rcases advances_or_outside hmove with ⟨i, s, -, hs, hadv⟩ | hout
  · rcases hadv.applies_or with ⟨hunits, happlied, hmetrics⟩ | ⟨e, -, rfl⟩
    · refine ⟨hadv.kept.1.trans href.sameClass, ?_, fun health => ?_⟩
      · rw [hunits, happlied, href.inUnits]
      · rw [hmetrics, happlied, href.counted]
    · exact ⟨href.sameClass, (href.apply i e).inUnits, (href.apply i e).counted⟩
  · refine ⟨hout.className.trans href.sameClass, ?_, fun health => ?_⟩
    · rw [hout.units, hout.applied, href.inUnits]
    · rw [hout.transitions, hout.applied, href.counted]

/-- After every run the accepted events are the offered ones, in the order of the moves. -/
theorem accepted_run? {className : String} {units : List AdvertisedUnit} {stop : Signal}
    {metrics : Metrics} {moves : List HubMove} {h : Hub}
    (hrun : (fresh className units stop metrics).run? moves = some h) :
    h.accepted = moves.flatMap HubMove.offered := by
  have hstart : (fresh className units stop metrics).accepted = [].flatMap HubMove.offered := rfl
  refine run?_induction (P := fun moves h => h.accepted = moves.flatMap HubMove.offered) hstart
    (fun {moves h m h'} _ haccepted hmove => ?_) hrun
  rw [List.flatMap_append, List.flatMap_singleton, ← haccepted]
  rcases advances_or_outside hmove with ⟨i, s, rfl, hs, hadv⟩ | hout
  · rw [hadv.kept.2]
    simp [HubMove.offered]
  · exact hout.accepted

/-! ### The account of a run -/

/-- **The account of a run** of a new plugin: where the events went that the run put into the queue,
and what they did to the units and to the counter of health transitions. -/
structure Accounted (className : String) (units : List AdvertisedUnit) (metrics : Metrics)
    (moves : List HubMove) (h : Hub) : Prop where
  /-- The accepted events are the offered ones, in the order of the moves. -/
  offered : h.accepted = moves.flatMap HubMove.offered
  /-- They are applied in this order, each at most once; those that are not are the one that a
  session has taken and the one in the queue. -/
  inOrder : h.accepted = h.applied.map Prod.snd ++ h.taken ++ h.queue.toList
  /-- At most one event is taken and not yet applied. -/
  oneTaken : h.taken.length ≤ 1
  /-- Whatever moves next, an event in the queue stays there until the session in charge takes
  it. -/
  staysQueued : ∀ m h' e, h.queue = some e → h.move? m = some h' →
    h'.queue = some e ∨ ∃ i, m = .advance i ∧ h.line.head? = some i ∧ h'.queue = none ∧
      h'.phases[i]? = some (.taken e)
  /-- The units are the first ones with each applied event, in order, setting the health of the
  first unit of its key. -/
  inUnits : h.units = unitsAfter units (h.applied.map Prod.snd)
  /-- Keys, their order and the topology never change. -/
  places : h.units.map AdvertisedUnit.place = units.map AdvertisedUnit.place
  /-- The counter of the class has grown by the applied events that name a unit. -/
  counted : ∀ health : Health,
    h.metrics.value (.healthTransitions className health.text) =
      metrics.value (.healthTransitions className health.text) +
        (h.applied.map Prod.snd).countP fun e =>
          e.health = health ∧ e.unit ∈ units.map AdvertisedUnit.key

/-- **Every event once, and in order**: whatever happens to a new plugin, and in whatever order, its
events, its units and its counter are accounted for. -/
theorem accounted_run? {className : String} {units : List AdvertisedUnit} {stop : Signal}
    {metrics : Metrics} {moves : List HubMove} {h : Hub}
    (hrun : (fresh className units stop metrics).run? moves = some h) :
    Accounted className units metrics moves h where
  offered := accepted_run? hrun
  inOrder := conserved_run? hrun
  oneTaken := length_taken_le_one (lineInOrder_run? hrun)
  staysQueued _ _ _ hqueue hmove := queued_or_taken (lineInOrder_run? hrun) hqueue hmove
  inUnits := (reflected_run? hrun).inUnits
  places := by rw [(reflected_run? hrun).inUnits, map_place_unitsAfter]
  counted health := by
    rw [(reflected_run? hrun).counted]
    simp only [HealthEvent.concerns_iff]

/-- The first session is told to end when an event has just come in; the event waits for the session
of the next generation, which takes it while another one comes in. -/
theorem accounted_handover :
    let units : List AdvertisedUnit := [⟨"1", .healthy, none⟩]
    let moves : List HubMove :=
      [.renew, .connect 0, .advance 0, .advance 0, .advance 0, .offer ⟨"1", .unhealthy⟩,
        .terminate 0, .advance 0, .renew, .connect 1, .advance 1, .advance 1, .advance 1,
        .advance 1, .offer ⟨"2", .healthy⟩, .advance 1]
    ∃ h, (fresh "pgpu" units {} {}).run? moves = some h ∧ h.queue = some ⟨"2", .healthy⟩ ∧
      h.applied = [(1, ⟨"1", .unhealthy⟩)] ∧ Accounted "pgpu" units {} moves h := by
  intro units moves
  exact ⟨_, rfl, rfl, rfl, @accounted_run? "pgpu" units {} {} moves _ rfl⟩

end Hub

end GpuPassthrough
