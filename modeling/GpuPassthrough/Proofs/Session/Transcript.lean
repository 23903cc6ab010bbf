import GpuPassthrough.Proofs.Session.Delivery

/-!
# What a Session Sends

A session sends the units as they are when it starts and, for each event that it applies, the units
right after that event. `echoes` reads these later lists off the history of a hub. A session that
has applied an event and not yet sent its list has the list in hand, and one that ended may have
lost it, so the lists on the stream are the due ones up to the last.

## Main results

* `recited_run?`: what every session of a run has put on its stream.
* `turns_run?`: only a session that has taken charge has applied events, and while a session is in
  charge nobody applies one after it.
* `echoes_getLast?`: the list of the last event shows the units as they are.
-/

namespace GpuPassthrough

/-- The lists that session `i` owes its client for the events that it applied: the units right after
each of them, in a history that started with some units. -/
def echoes (i : Nat) : List AdvertisedUnit → List (Nat × HealthEvent) → List (List AdvertisedUnit)
  | _, [] => []
  | units, (j, e) :: rest =>
    let after := e.apply units
    if j = i then after :: echoes i after rest else echoes i after rest

/-- The lists owed for two histories in a row. -/
theorem echoes_append (i : Nat) (units : List AdvertisedUnit)
    (first second : List (Nat × HealthEvent)) :
    echoes i units (first ++ second) =
      echoes i units first ++ echoes i (unitsAfter units (first.map Prod.snd)) second := by
  induction first generalizing units with
  | nil => rfl
  | cons entry rest ih =>
    obtain ⟨j, e⟩ := entry
    simp only [List.cons_append, echoes, List.map_cons, unitsAfter_cons, ih]
    split <;> rfl

/-- One more event is applied, by the session itself or by another. -/
theorem echoes_concat (i j : Nat) (e : HealthEvent) (units : List AdvertisedUnit)
    (applied : List (Nat × HealthEvent)) :
    echoes i units (applied ++ [(j, e)]) =
      echoes i units applied ++
        if j = i then [e.apply (unitsAfter units (applied.map Prod.snd))] else [] := by
  rw [echoes_append]
  rfl

/-- A session that applied nothing owes nothing. -/
theorem echoes_eq_nil {i : Nat} {applied : List (Nat × HealthEvent)}
    (hnone : ∀ e, (i, e) ∉ applied) (units : List AdvertisedUnit) :
    echoes i units applied = [] := by
  induction applied generalizing units with
  | nil => rfl
  | cons entry rest ih =>
    obtain ⟨j, e⟩ := entry
    have hji : j ≠ i := fun hji => hnone e (hji ▸ List.mem_cons_self)
    rw [echoes, if_neg hji]
    exact ih (fun e' he' => hnone e' (List.mem_cons_of_mem _ he')) _

/-- **The list of the last event shows the units as they are**, if the session applied it. -/
theorem echoes_getLast? {i : Nat} {e : HealthEvent} {applied : List (Nat × HealthEvent)}
    (hlast : applied.getLast? = some (i, e)) (units : List AdvertisedUnit) :
    (echoes i units applied).getLast? = some (unitsAfter units (applied.map Prod.snd)) := by
  obtain ⟨before, rfl⟩ := List.getLast?_eq_some_iff.1 hlast
  rw [echoes_concat, if_pos rfl, List.getLast?_concat, List.map_append, List.map_singleton,
    unitsAfter_concat]

/-- Whether a session in this phase has been in charge of the queue, or can have been. -/
def SessionPhase.HasServed : SessionPhase → Prop
  | listening | taken _ | sending _ | ended => True
  | opened | greeted | waiting => False

namespace Hub

/-! ### Turns at the queue -/

/-- **The sessions take turns**: one that has applied an event has taken charge before, and while a
session is in charge no other has applied an event after it. -/
structure Turns (h : Hub) : Prop where
  served : ∀ {i e}, (i, e) ∈ h.applied → ∃ p, h.phases[i]? = some p ∧ p.HasServed
  current : ∀ {i p e}, h.phases[i]? = some p → p.Holds → (i, e) ∈ h.applied →
    ∃ e', h.applied.getLast? = some (i, e')

/-- A session that has not been in charge has applied nothing. -/
theorem Turns.not_mem {h : Hub} (hturns : h.Turns) {i : Nat} {p : SessionPhase}
    (hp : h.phases[i]? = some p) (hnot : ¬ p.HasServed) (e : HealthEvent) :
    (i, e) ∉ h.applied := by
  intro hmem
  obtain ⟨q, hq, hserved⟩ := hturns.served hmem
  obtain rfl : p = q := Option.some.inj (hp.symm.trans hq)
  exact hnot hserved

/-- A session that moves on without applying an event: it stays one that has been in charge, and if
it is in charge now it was before or takes charge for the first time. -/
theorem Turns.set_phase {h h' : Hub} (hturns : h.Turns) {i : Nat} {p p' : SessionPhase}
    (hp : h.phases[i]? = some p) (hphases : h'.phases = h.phases.set i p')
    (happlied : h'.applied = h.applied) (hserved : p.HasServed → p'.HasServed)
    (hholds : p'.Holds → p.Holds ∨ ¬ p.HasServed) : h'.Turns where
  served {j e} hmem := by
    rw [happlied] at hmem
    obtain ⟨q, hq, hq'⟩ := hturns.served hmem
    rw [hphases]
    by_cases hij : i = j
    · subst hij
      obtain rfl : p = q := Option.some.inj (hp.symm.trans hq)
      exact ⟨p', phases_set_self hp p', hserved hq'⟩
    · exact ⟨q, (phases_set_of_ne hij p').trans hq, hq'⟩
  current {j q e} hq hq' hmem := by
    rw [happlied] at hmem ⊢
    rw [hphases] at hq
    rcases phases_set_cases hq with ⟨rfl, rfl⟩ | ⟨-, hbefore⟩
    · rcases hholds hq' with hheld | hnot
      · exact hturns.current hp hheld hmem
      · exact absurd hmem (hturns.not_mem hp hnot e)
    · exact hturns.current hbefore hq' hmem

/-- The session in charge applies the event that it has taken. -/
theorem Turns.apply {h h' : Hub} (hturns : h.Turns) (hline' : h'.LineInOrder) {i : Nat}
    {e : HealthEvent} {list : List AdvertisedUnit} (hp : h.phases[i]? = some (.taken e))
    (hphases : h'.phases = h.phases.set i (.sending list))
    (happlied : h'.applied = h.applied ++ [(i, e)]) : h'.Turns := by
  have hp' : h'.phases[i]? = some (.sending list) := by rw [hphases, phases_set_self hp]
  refine ⟨fun {j e'} hmem => ?_, fun {j q e'} hq hholds _ => ?_⟩
  · by_cases hij : i = j
    · subst hij
      exact ⟨_, hp', trivial⟩
    · have hold : (j, e') ∈ h.applied := by simpa [happlied, Ne.symm hij] using hmem
      rw [hphases, phases_set_of_ne hij]
      exact hturns.served hold
  · -- Nobody else is in charge, so the event that was applied last is one of this session.
    obtain rfl : j = i := hline'.eq_of_holds hq hholds hp' trivial
    exact ⟨e, by rw [happlied, List.getLast?_concat]⟩

/-- A move of a session respects the turns. -/
theorem Turns.advances {h h' : Hub} (hturns : h.Turns) (hline : h.LineInOrder) {i : Nat}
    {s : Session} (hs : h.sessions[i]? = some s) (hadv : Advances h i s h') : h'.Turns := by
  have hp := phases_of_session hs
  have hline' : h'.LineInOrder := hline.advances hs hadv
  cases hadv with
  | leave hend =>
    exact hturns.set_phase hp (phases_enter h i .ended) rfl (fun _ => trivial) False.elim
  | greet hphase hopen =>
    rw [hphase] at hp
    exact hturns.set_phase hp (phases_send_enter h i h.units .greeted) rfl id False.elim
  | lineUp hphase hcalm =>
    rw [hphase] at hp
    exact hturns.set_phase hp (phases_enter h i .waiting) rfl id False.elim
  | takeCharge hphase hcalm hfirst =>
    rw [hphase] at hp
    exact hturns.set_phase hp (phases_enter h i .listening) rfl False.elim fun _ => .inr id
  | take e hphase hcalm hqueue =>
    rw [hphase] at hp
    exact hturns.set_phase hp (phases_enter h i (.taken e)) rfl id fun _ => .inl trivial
  | apply e hphase =>
    rw [hphase] at hp
    exact hturns.apply hline' hp (phases_enter (h.applyEvent i e) i _) rfl
  | deliver list hphase hopen hroom =>
    rw [hphase] at hp
    exact hturns.set_phase hp (phases_send_enter h i list .listening) rfl id fun _ => .inl trivial

/-- A move of others respects the turns. -/
theorem Turns.outside {h h' : Hub} {m : HubMove} (hturns : h.Turns) (hout : Outside h m h') :
    h'.Turns := by
  refine ⟨fun {i e} hmem => ?_, fun {i p e} hp hholds hmem => ?_⟩
  · rw [hout.applied] at hmem
    obtain ⟨p, hp, hserved⟩ := hturns.served hmem
    exact ⟨p, hout.phases_kept hp, hserved⟩
  · rw [hout.applied] at hmem ⊢
    rcases hout.phases_or_opened hp with hbefore | rfl
    · exact hturns.current hbefore hholds hmem
    · exact hholds.elim

/-- After every run of a new hub the sessions have taken turns. -/
theorem turns_run? {className : String} {units : List AdvertisedUnit} {stop : Signal}
    {metrics : Metrics} {moves : List HubMove} {h : Hub}
    (hrun : (fresh className units stop metrics).run? moves = some h) : h.Turns := by
  have hstart : (fresh className units stop metrics).Turns :=
    ⟨fun hmem => by simp [fresh] at hmem, fun _ _ hmem => by simp [fresh] at hmem⟩
  refine run?_induction (P := fun _ h => h.Turns) hstart (fun hbefore hturns hmove => ?_) hrun
  rcases advances_or_outside hmove with ⟨i, s, -, hs, hadv⟩ | hout
  · exact hturns.advances (lineInOrder_run? hbefore) hs hadv
  · exact hturns.outside hout

/-! ### Lists on the streams -/

/-- **The greeting of session `i`**: the units at its first move in a run. -/
def Greeting (start : Hub) (moves : List HubMove) (i : Nat) (list : List AdvertisedUnit) : Prop :=
  ∃ before after h, moves = before ++ .advance i :: after ∧ start.run? before = some h ∧
    h.phases[i]? = some .opened ∧ h.units = list

/-- A greeting stays one, however the run goes on. -/
theorem Greeting.concat {start : Hub} {moves : List HubMove} {i : Nat}
    {list : List AdvertisedUnit} (hgreeting : Greeting start moves i list) (m : HubMove) :
    Greeting start (moves ++ [m]) i list := by
  obtain ⟨before, after, h, rfl, hrun, hopened, hlist⟩ := hgreeting
  exact ⟨before, after ++ [m], h, by simp, hrun, hopened, hlist⟩

/-- What a session has put on its stream, given the lists that it owes for events. One that has
ended may have missed its last list, or every list if it ended before it ran. -/
def Recites (greeting : List AdvertisedUnit → Prop) (due : List (List AdvertisedUnit))
    (s : Session) : Prop :=
  match s.phase with
  | .opened => s.sent = [] ∧ due = []
  | .greeted | .waiting | .listening | .taken _ => ∃ first, greeting first ∧ s.sent = first :: due
  | .sending list => ∃ first, greeting first ∧ s.sent ++ [list] = first :: due
  | .ended => s.sent = [] ∧ due = [] ∨
      ∃ first missed, greeting first ∧ missed.length ≤ 1 ∧ s.sent ++ missed = first :: due

/-- What a session recites depends on its phase and its stream alone, and a greeting stays one. -/
theorem Recites.of_eq {greeting greeting' : List AdvertisedUnit → Prop}
    {due : List (List AdvertisedUnit)} {s s' : Session} (hrec : Recites greeting due s)
    (hgreeting : ∀ list, greeting list → greeting' list) (hphase : s'.phase = s.phase)
    (hsent : s'.sent = s.sent) : Recites greeting' due s' := by
  rw [Recites] at hrec ⊢
  rw [hphase, hsent]
  cases hp : s.phase with
  | opened => simpa only [hp] using hrec
  | ended =>
    simp only [hp] at hrec ⊢
    rcases hrec with hnone | ⟨first, missed, hfirst, hmissed, hsent⟩
    · exact .inl hnone
    · exact .inr ⟨first, missed, hgreeting first hfirst, hmissed, hsent⟩
  | _ =>
    simp only [hp] at hrec ⊢
    obtain ⟨first, hfirst, hsent⟩ := hrec
    exact ⟨first, hgreeting first hfirst, hsent⟩

/-- A session that ends has missed no more than the list that it had in hand. -/
theorem Recites.leave {greeting : List AdvertisedUnit → Prop} {due : List (List AdvertisedUnit)}
    {s : Session} (hrec : Recites greeting due s) : Recites greeting due (s.enter .ended) := by
  rw [Recites] at hrec
  cases hp : s.phase with
  | opened =>
    simp only [hp] at hrec
    exact .inl hrec
  | sending list =>
    simp only [hp] at hrec
    obtain ⟨first, hfirst, hsent⟩ := hrec
    exact .inr ⟨first, [list], hfirst, Nat.le_refl 1, hsent⟩
  | ended =>
    simp only [hp] at hrec
    exact hrec
  | _ =>
    simp only [hp] at hrec
    obtain ⟨first, hfirst, hsent⟩ := hrec
    exact .inr ⟨first, [], hfirst, Nat.zero_le 1, by rw [List.append_nil]; exact hsent⟩

/-- **Every session recites**: its greeting, then the lists of the events that it applied. -/
def Recited (start : Hub) (moves : List HubMove) (h : Hub) : Prop :=
  ∀ i s, h.sessions[i]? = some s →
    Recites (Greeting start moves i) (echoes i start.units h.applied) s

/-- What the other sessions recite when session `i` moves. -/
theorem Recited.others {start h h' : Hub} {moves : List HubMove} (hrec : Recited start moves h)
    {i j : Nat} {s s' : Session} (hadv : Advances h i s h') (hij : i ≠ j)
    (hs' : h'.sessions[j]? = some s') (m : HubMove) :
    Recites (Greeting start (moves ++ [m]) j) (echoes j start.units h'.applied) s' := by
  have hdue : echoes j start.units h'.applied = echoes j start.units h.applied := by
    rcases hadv.applies_or with ⟨-, happlied, -⟩ | ⟨e, -, rfl⟩
    · rw [happlied]
    · simp only [update, applyEvent]
      rw [echoes_concat, if_neg hij, List.append_nil]
  rw [hadv.others hij] at hs'
  rw [hdue]
  exact (hrec j s' hs').of_eq (fun _ hfirst => hfirst.concat m) rfl rfl

/-- What session `i` recites when it moves itself. -/
theorem Recited.self {start h h' : Hub} {moves : List HubMove} (hrec : Recited start moves h)
    (hbefore : start.run? moves = some h)
    (hunits : h.units = unitsAfter start.units (h.applied.map Prod.snd)) {i : Nat} {s s' : Session}
    (hs : h.sessions[i]? = some s) (hadv : Advances h i s h') (hs' : h'.sessions[i]? = some s') :
    Recites (Greeting start (moves ++ [.advance i]) i) (echoes i start.units h'.applied) s' := by
  have hp := phases_of_session hs
  have hkept : Recites (Greeting start (moves ++ [.advance i]) i)
      (echoes i start.units h.applied) s :=
    (hrec i s hs).of_eq (fun _ hfirst => hfirst.concat (.advance i)) rfl rfl
  cases hadv with
  | leave hend =>
    obtain rfl := eq_of_update hs hs'
    exact hkept.leave
  | greet hphase hopen =>
    obtain rfl := eq_of_update hs hs'
    simp only [Recites, hphase] at hkept
    refine ⟨h.units, ⟨moves, [], h, rfl, hbefore, hphase ▸ hp, rfl⟩, ?_⟩
    show s.sent ++ [h.units] = h.units :: echoes i start.units h.applied
    rw [hkept.1, hkept.2, List.nil_append]
  | apply e hphase =>
    obtain rfl := eq_of_update hs hs'
    simp only [Recites, hphase] at hkept
    obtain ⟨first, hfirst, hsent⟩ := hkept
    refine ⟨first, hfirst, ?_⟩
    show s.sent ++ [e.apply h.units] = first :: echoes i start.units (h.applied ++ [(i, e)])
    rw [echoes_concat, if_pos rfl, ← hunits, hsent, List.cons_append]
  | lineUp hphase | takeCharge hphase | take e hphase | deliver list hphase =>
    -- What it has sent and has in hand is what it was.
    obtain rfl := eq_of_update hs hs'
    simp only [Recites, hphase] at hkept
    exact hkept

/-- What the sessions recite after a move of others; one that was opened has nothing to recite. -/
theorem Recited.outside {start h h' : Hub} {moves : List HubMove} (hrec : Recited start moves h)
    (hturns : h.Turns) {m : HubMove} (hout : Outside h m h') : Recited start (moves ++ [m]) h' := by
  intro i s' hs'
  rw [hout.applied]
  rcases hout.sent i s' hs' with ⟨hnone, hphase, hsent⟩ | ⟨s, hs, hphase, hsent⟩
  · have hdue : ∀ e, (i, e) ∉ h.applied := by
      intro e hmem
      obtain ⟨p, hp, -⟩ := hturns.served hmem
      rw [phases_getElem?, hnone] at hp
      cases hp
    rw [echoes_eq_nil hdue]
    rw [Recites, hphase]
    exact ⟨hsent, rfl⟩
  · exact (hrec i s hs).of_eq (fun _ hfirst => hfirst.concat m) hphase hsent

/-- **After every run of a new hub every session recites.** -/
theorem recited_run? {className : String} {units : List AdvertisedUnit} {stop : Signal}
    {metrics : Metrics} {moves : List HubMove} {h : Hub}
    (hrun : (fresh className units stop metrics).run? moves = some h) :
    Recited (fresh className units stop metrics) moves h := by
  have hstart : Recited (fresh className units stop metrics) []
      (fresh className units stop metrics) := by
    intro i s hs
    simp [fresh] at hs
  refine run?_induction (P := fun moves h => Recited (fresh className units stop metrics) moves h)
    hstart (fun {moves h m h'} hbefore hrec hmove => ?_) hrun
  rcases advances_or_outside hmove with ⟨i, s, rfl, hs, hadv⟩ | hout
  · intro j s' hs'
    by_cases hij : i = j
    · subst hij
      exact hrec.self hbefore (reflected_run? hbefore).inUnits hs hadv hs'
    · exact hrec.others hadv hij hs' _
  · exact hrec.outside (turns_run? hbefore) hout

end Hub

end GpuPassthrough
