import GpuPassthrough.Proofs.Lifecycle.Attempts
import GpuPassthrough.Proofs.Lifecycle.Restarts
import Mathlib.Logic.Relation

/-!
# A Restart Tries a Few Times

A restart goes step by step, and others act between its steps: the world may change in any way, and
so may the plugin, whose signals may be raised or lose their owners and which may be started and
stopped by someone else. A course of a restart carries a ledger of what the restart itself has done
so far: what became of its stop, of its attempts and of its pauses, how many restarts it has counted
and how many moves it has made.

A pause ends when its time is over or when the signal to stop the plugin comes up. Where both is the
case it may end in either way, so the end of its time asks for nothing.

Whatever happens in between, the ledger is that of a stop that succeeded, of attempts that failed and
were each waited out, and of a last attempt; only the failure of the stop cuts it shorter.

## Main results

* `RestartCourse.fits_of_reaches`: what the ledger of a restart looks like.
* `RestartCourse.isBounded_of_reaches`: how often a restart tries, when it gives up and what it
  returns.
-/

namespace GpuPassthrough

/-- What a restart has done. -/
inductive RestartEvent where
  /-- It has stopped the plugin. -/
  | stopped (result : Except PluginError Unit)
  /-- It has tried to start the plugin, and then looked whether the signal to stop it was raised. -/
  | tried (result : Except PluginError Unit) (stopping : Bool)
  /-- It has paused, until the signal to stop the plugin cut the pause short or to the end. -/
  | paused (cutShort : Bool)

namespace RestartEvent

/-- Whether a restart does nothing more afterwards. -/
def isLast : RestartEvent → Bool
  | stopped (.ok ()) => false
  | stopped (.error _) => true
  | tried (.ok ()) _ => true
  | tried (.error _) stopping => stopping
  | paused cutShort => cutShort

/-- What became of an attempt. -/
def attempt? : RestartEvent → Option (Except PluginError Unit)
  | tried result _ => some result
  | _ => none

/-- What became of the attempts, in order. -/
def tries (events : List RestartEvent) : List (Except PluginError Unit) := events.filterMap attempt?

/-- The attempts of two parts of a ledger. -/
theorem tries_append (first second : List RestartEvent) :
    tries (first ++ second) = tries first ++ tries second := List.filterMap_append

/-! ### Ledgers -/

/-- **A stop and some attempts that failed**, each waited out. -/
inductive Waited : Nat → List RestartEvent → Prop
  | stopped : Waited 0 [.stopped (.ok ())]
  | again {k : Nat} {events : List RestartEvent} {e : PluginError} (hwaited : Waited k events) :
      Waited (k + 1) (events ++ [.tried (.error e) false, .paused false])

/-- **The ledger of a restart that has returned.** -/
inductive Returned : List RestartEvent → Except PluginError Unit → Prop
  | notStopped {e : PluginError} : Returned [.stopped (.error e)] (.error e)
  | served {k : Nat} {events : List RestartEvent} {stopping : Bool} (hwaited : Waited k events)
      (hbound : k + 1 ≤ RestartPhase.attempts) :
      Returned (events ++ [.tried (.ok ()) stopping]) (.ok ())
  | exhausted {k : Nat} {events : List RestartEvent} {e : PluginError} {stopping : Bool}
      (hwaited : Waited k events) (hbound : k + 1 = RestartPhase.attempts) :
      Returned (events ++ [.tried (.error e) stopping]) (.error e)
  | halted {k : Nat} {events : List RestartEvent} {e : PluginError} (hwaited : Waited k events)
      (hbound : k + 1 ≤ RestartPhase.attempts) :
      Returned (events ++ [.tried (.error e) true]) (.error e)
  | cutShort {k : Nat} {events : List RestartEvent} {e : PluginError} (hwaited : Waited k events)
      (hbound : k + 1 ≤ RestartPhase.attempts) :
      Returned (events ++ [.tried (.error e) false, .paused true]) (.error e)

/-- **What the ledger of a restart looks like**, depending on how far it has come. -/
def Fits (events : List RestartEvent) : RestartPhase → Prop
  | .stopping | .clearing => events = []
  | .attempting left => ∃ k, Waited k events ∧ k + left + 1 = RestartPhase.attempts
  | .pausing left e => ∃ k before, Waited k before ∧ k + left + 1 = RestartPhase.attempts ∧
      0 < left ∧ events = before ++ [.tried (.error e) false]
  | .finished result => Returned events result

/-- There are as many attempts as were waited out. -/
theorem Waited.length_tries {k : Nat} {events : List RestartEvent} (hwaited : Waited k events) :
    (tries events).length = k := by
  induction hwaited with
  | stopped => rfl
  | again _ ih =>
    rw [tries_append, List.length_append, ih]
    rfl

/-- None of them is the last. -/
theorem Waited.not_isLast {k : Nat} {events : List RestartEvent} (hwaited : Waited k events) :
    ∀ x ∈ events, x.isLast = false := by
  induction hwaited with
  | stopped => simp [isLast]
  | again _ ih => exact List.forall_mem_append.2 ⟨ih, by simp [isLast]⟩

/-- The stop has succeeded. -/
theorem Waited.stopped_mem_iff {k : Nat} {events : List RestartEvent} (hwaited : Waited k events)
    {result : Except PluginError Unit} : .stopped result ∈ events ↔ result = .ok () := by
  induction hwaited with
  | stopped => simp
  | again _ ih => simp [ih]

/-- Nothing follows what is last. -/
theorem Fits.not_isLast {events : List RestartEvent} {phase : RestartPhase}
    (hfits : Fits events phase) : ∀ x ∈ events.dropLast, x.isLast = false := by
  cases phase with
  | stopping | clearing =>
    obtain rfl : events = [] := hfits
    exact List.forall_mem_nil _
  | attempting left =>
    obtain ⟨k, hwaited, -⟩ := hfits
    exact fun x hx => hwaited.not_isLast x ((List.dropLast_sublist _).subset hx)
  | pausing left e =>
    obtain ⟨k, before, hwaited, -, -, rfl⟩ := hfits
    rw [List.dropLast_concat]
    exact hwaited.not_isLast
  | finished result =>
    cases hfits with
    | notStopped => exact List.forall_mem_nil _
    | served hwaited | exhausted hwaited | halted hwaited =>
      rw [List.dropLast_concat]
      exact hwaited.not_isLast
    | cutShort hwaited =>
      rw [List.dropLast_append_of_ne_nil (List.cons_ne_nil _ _)]
      exact List.forall_mem_append.2 ⟨hwaited.not_isLast, by simp [isLast]⟩

/-- There are no more attempts than a restart may make. -/
theorem Fits.length_tries_le {events : List RestartEvent} {phase : RestartPhase}
    (hfits : Fits events phase) : (tries events).length ≤ RestartPhase.attempts := by
  have hone : ∀ {k before last}, Waited k before → (tries last).length = 1 →
      (tries (before ++ last)).length = k + 1 := by
    intro k before last hwaited hlast
    rw [tries_append, List.length_append, hwaited.length_tries, hlast]
  cases phase with
  | stopping | clearing =>
    obtain rfl : events = [] := hfits
    exact Nat.zero_le _
  | attempting left =>
    obtain ⟨k, hwaited, hbound⟩ := hfits
    rw [hwaited.length_tries]
    omega
  | pausing left e =>
    obtain ⟨k, before, hwaited, hbound, -, rfl⟩ := hfits
    rw [hone hwaited rfl]
    omega
  | finished result =>
    cases hfits with
    | notStopped => exact Nat.zero_le _
    | served hwaited hbound | halted hwaited hbound | cutShort hwaited hbound =>
      rw [hone hwaited rfl]
      exact hbound
    | exhausted hwaited hbound =>
      rw [hone hwaited rfl]
      exact Nat.le_of_eq hbound

/-- Where a stop has failed nothing else was done. -/
theorem Fits.of_notStopped {events : List RestartEvent} {phase : RestartPhase}
    (hfits : Fits events phase) {e : PluginError} (hstopped : .stopped (.error e) ∈ events) :
    events = [.stopped (.error e)] ∧ phase = .finished (.error e) := by
  have hnever : ∀ {k before last}, Waited k before → .stopped (.error e) ∉ last →
      .stopped (.error e) ∉ before ++ last := by
    intro k before last hwaited hlast hmem
    obtain hmem | hmem := List.mem_append.1 hmem
    · cases hwaited.stopped_mem_iff.1 hmem
    · exact hlast hmem
  cases phase with
  | stopping | clearing =>
    obtain rfl : events = [] := hfits
    cases hstopped
  | attempting left =>
    obtain ⟨k, hwaited, -⟩ := hfits
    cases hwaited.stopped_mem_iff.1 hstopped
  | pausing left e =>
    obtain ⟨k, before, hwaited, -, -, rfl⟩ := hfits
    exact absurd hstopped (hnever hwaited (by simp))
  | finished result =>
    cases hfits with
    | notStopped =>
      obtain rfl : e = _ := by simpa using hstopped
      exact ⟨rfl, rfl⟩
    | served hwaited | exhausted hwaited | halted hwaited | cutShort hwaited =>
      exact absurd hstopped (hnever hwaited (by simp))

/-- A restart that has stopped the plugin returns what became of its last attempt. -/
theorem Returned.getLast?_tries {events : List RestartEvent} {result : Except PluginError Unit}
    (hreturned : Returned events result) (hstopped : .stopped (.ok ()) ∈ events) :
    (tries events).getLast? = some result := by
  cases hreturned with
  | notStopped => simp at hstopped
  | served | exhausted | halted | cutShort =>
    rw [tries_append]
    exact List.getLast?_concat

/-- A restart returns only after a stop. -/
theorem Returned.exists_stopped_mem {events : List RestartEvent}
    {result : Except PluginError Unit} (hreturned : Returned events result) :
    ∃ stop, .stopped stop ∈ events := by
  cases hreturned with
  | notStopped => exact ⟨_, List.mem_singleton_self _⟩
  | served hwaited | exhausted hwaited | halted hwaited | cutShort hwaited =>
    exact ⟨.ok (), List.mem_append_left _ (hwaited.stopped_mem_iff.2 rfl)⟩

/-- A restart that gives up has a reason, or no attempts left. -/
theorem Returned.exists_reason {events : List RestartEvent} {e : PluginError}
    (hreturned : Returned events (.error e)) :
    (tries events).length = RestartPhase.attempts ∨
      ∃ x, events.getLast? = some x ∧ x.isLast = true := by
  cases hreturned with
  | notStopped => exact .inr ⟨_, rfl, rfl⟩
  | exhausted hwaited hbound =>
    refine .inl ?_
    rw [tries_append, List.length_append, hwaited.length_tries]
    exact hbound
  | halted hwaited => exact .inr ⟨_, List.getLast?_concat, rfl⟩
  | cutShort hwaited =>
    exact .inr ⟨.paused true, by simp [List.getLast?_append], rfl⟩

end RestartEvent

open RestartEvent

namespace Instance

variable {W : Type} {host : Host W} {p : Instance} {w : W}
  {outcome : W × Instance × Except PluginError Unit}

/-- A start counts no restart. -/
theorem StartEnds.restarts (hends : p.StartEnds host w outcome) :
    outcome.2.1.hub.restarts = p.hub.restarts := by
  cases hends with
  | served => exact restarts_gauge _ _
  | _ => rfl

/-- After a start of a plugin that did not serve it serves exactly if the start has succeeded. -/
theorem StartEnds.serving_iff (hends : p.StartEnds host w outcome) (hfree : p.serving = none) :
    outcome.2.1.serving.isSome = true ↔ outcome.2.2 = .ok () := by
  have hfailed : ∀ {q : Instance} {e : PluginError}, q.serving = p.serving →
      (q.serving.isSome = true ↔ (.error e : Except PluginError Unit) = .ok ()) := by
    intro q e hsame
    rw [hsame, hfree]
    exact iff_of_false nofun nofun
  cases hends with
  | served => exact iff_of_true rfl rfl
  | _ => exact hfailed rfl

end Instance

namespace RestartPhase

variable {W : Type}

/-- What a step of a restart adds to its ledger. A stop is over when it has cleared up. -/
def events (host : Host W) (p : Instance) (w : W) : RestartPhase → List RestartEvent
  | stopping => if p.serving.isSome then [] else [.stopped (.ok ())]
  | clearing => [.stopped (p.clearUp host w).2.2]
  | attempting _ =>
    let (_, p, result) := p.start host w
    [.tried result p.hub.stop.raised]
  | pausing _ _ => [.paused true]
  | finished _ => []

/-- How many moves of a restart are left at most. -/
def rank : RestartPhase → Nat
  | stopping => 2 * attempts + 1
  | clearing => 2 * attempts
  | attempting left => 2 * left + 1
  | pausing left _ => 2 * left
  | finished _ => 0

end RestartPhase

/-- A restart on its way, with a ledger of what it has done itself. -/
structure RestartCourse (W : Type) where
  world : W
  plugin : Instance
  phase : RestartPhase := .stopping
  events : List RestartEvent := []
  /-- How many restarts it has counted. -/
  counted : Int := 0
  /-- How many steps it has made, and pauses to the end. -/
  moves : Nat := 0

namespace RestartCourse

variable {W : Type} {host : Host W} {others : Instance → Instance → Prop} {c c' : RestartCourse W}

/-- **What can happen while a plugin restarts.** What others do to the plugin is anything that is
allowed to them. -/
inductive Moves (host : Host W) (others : Instance → Instance → Prop) :
    RestartCourse W → RestartCourse W → Prop
  /-- The restart goes on. -/
  | step {w w' : W} {p p' : Instance} {phase next : RestartPhase} {events : List RestartEvent}
      {counted : Int} {n : Nat} (hstep : phase.step? host p w = some (w', p', next)) :
      Moves host others ⟨w, p, phase, events, counted, n⟩
        ⟨w', p', next, events ++ phase.events host p w,
          counted + (p'.hub.restarts - p.hub.restarts), n + 1⟩
  /-- The time of a pause is over. -/
  | elapse {w : W} {p : Instance} {left : Nat} {e : PluginError} {events : List RestartEvent}
      {counted : Int} {n : Nat} :
      Moves host others ⟨w, p, .pausing left e, events, counted, n⟩
        ⟨w, p, .resume (.pausing left e), events ++ [.paused false], counted, n + 1⟩
  /-- Others do something. -/
  | other {w w' : W} {p p' : Instance} {phase : RestartPhase} {events : List RestartEvent}
      {counted : Int} {n : Nat} (hother : others p p') :
      Moves host others ⟨w, p, phase, events, counted, n⟩ ⟨w', p', phase, events, counted, n⟩

/-- What a restart can come to. -/
def Reaches (host : Host W) (others : Instance → Instance → Prop) :
    RestartCourse W → RestartCourse W → Prop := Relation.ReflTransGen (Moves host others)

/-! ### What every move keeps -/

/-- How a plugin stands that nobody else starts or stops. -/
def StandsAs (p : Instance) : RestartPhase → Prop
  | .stopping => True
  | .clearing | .attempting _ | .pausing _ _ => p.serving = none
  | .finished result => p.serving.isSome = true ↔ result = .ok ()

/-- **What every move keeps.** -/
structure Sound (others : Instance → Instance → Prop) (c : RestartCourse W) : Prop where
  /-- The ledger tells how far the restart has come. -/
  fits : Fits c.events c.phase
  /-- A restart that has not begun to stop is not counted. -/
  uncounted : c.phase = .stopping → c.counted = 0
  /-- A restart is counted once. -/
  counted : c.phase ≠ .stopping → c.counted = 1
  /-- Few moves are left. -/
  short : c.moves + c.phase.rank ≤ 2 * RestartPhase.attempts + 1
  /-- The plugin is left as the restart says, if nobody else starts or stops it. -/
  stands : (∀ p p', others p p' → p'.serving = p.serving) → StandsAs c.plugin c.phase

/-- At first everything is as it should be. -/
theorem sound_begin (p : Instance) (w : W) : Sound others ⟨w, p, .stopping, [], 0, 0⟩ where
  fits := rfl
  uncounted _ := rfl
  counted h := absurd rfl h
  short := Nat.le_of_eq (Nat.zero_add _)
  stands _ := trivial

/-- What follows an attempt fits the ledger that tells of it. -/
theorem fits_afterAttempt {k left : Nat} {events : List RestartEvent} (hwaited : Waited k events)
    (hbound : k + left + 1 = RestartPhase.attempts) (stopping : Bool)
    (result : Except PluginError Unit) :
    Fits (events ++ [.tried result stopping]) (RestartPhase.afterAttempt left stopping result) := by
  obtain ⟨hfinished, hreason⟩ | ⟨e, rfl, rfl, hleft, hpausing⟩ :=
    RestartPhase.afterAttempt_cases left stopping result
  · rw [hfinished]
    cases result with
    | ok _ => exact .served hwaited (by omega)
    | error e =>
      obtain hok | rfl | rfl := hreason
      · cases hok
      · exact .exhausted hwaited hbound
      · exact .halted hwaited (by omega)
  · rw [hpausing]
    exact ⟨k, events, hwaited, hbound, hleft, rfl⟩

/-- How a plugin stands after an attempt is what the attempt came to. -/
theorem standsAs_afterAttempt {p : Instance} {left : Nat} {stopping : Bool}
    {result : Except PluginError Unit} (hserving : p.serving.isSome = true ↔ result = .ok ()) :
    StandsAs p (RestartPhase.afterAttempt left stopping result) := by
  obtain ⟨hfinished, -⟩ | ⟨e, rfl, -, -, hpausing⟩ :=
    RestartPhase.afterAttempt_cases left stopping result
  · rw [hfinished]
    exact hserving
  · rw [hpausing, StandsAs, ← Option.not_isSome_iff_eq_none, hserving]
    exact nofun

/-- What follows an attempt is no stop, and leaves as many moves as a pause. -/
theorem afterAttempt_goesOn (left : Nat) (stopping : Bool) (result : Except PluginError Unit) :
    RestartPhase.afterAttempt left stopping result ≠ .stopping ∧
      (RestartPhase.afterAttempt left stopping result).rank ≤ 2 * left := by
  obtain ⟨hfinished, -⟩ | ⟨e, -, -, -, hpausing⟩ :=
    RestartPhase.afterAttempt_cases left stopping result
  · rw [hfinished]
    exact ⟨nofun, Nat.zero_le _⟩
  · rw [hpausing]
    exact ⟨nofun, Nat.le_refl _⟩

/-- What a step of the restart keeps. -/
theorem Sound.step {w w' : W} {p p' : Instance} {phase next : RestartPhase}
    {events : List RestartEvent} {counted : Int} {n : Nat}
    (hsound : Sound others ⟨w, p, phase, events, counted, n⟩)
    (hgoes : phase.Goes host p w (w', p', next)) :
    Sound others ⟨w', p', next, events ++ phase.events host p w,
      counted + (p'.hub.restarts - p.hub.restarts), n + 1⟩ := by
  obtain ⟨hfits, huncounted, hcounted, hshort, hstands⟩ := hsound
  dsimp only at hfits huncounted hcounted hshort hstands
  cases hgoes with
  | skip hfree =>
    obtain rfl : events = [] := hfits
    obtain rfl := huncounted rfl
    refine ⟨?_, nofun, fun _ => ?_, ?_, fun _ => hfree⟩
    · simp only [RestartPhase.events, hfree]
      exact ⟨0, .stopped, rfl⟩
    · have hrestarts := p.restarts_countRestart
      dsimp only
      omega
    · simp only [RestartPhase.rank, RestartPhase.attempts] at hshort ⊢
      omega
  | @withdraw generation hserving =>
    obtain rfl : events = [] := hfits
    obtain rfl := huncounted rfl
    refine ⟨?_, nofun, fun _ => ?_, ?_, fun _ => rfl⟩
    · simp only [RestartPhase.events, hserving]
      rfl
    · have hrestarts : (p.countRestart.withdraw generation).hub.restarts = p.hub.restarts + 1 :=
        p.restarts_countRestart
      dsimp only
      omega
    · simp only [RestartPhase.rank, RestartPhase.attempts] at hshort ⊢
      omega
  | clear hclear =>
    obtain rfl : events = [] := hfits
    obtain ⟨w₁, -, hends⟩ | ⟨w₁, cause, -, -, hends⟩ := p.clearUp_ends host w
    · cases hends.symm.trans hclear
      refine ⟨?_, nofun, fun _ => ?_, ?_, fun hkept => hstands hkept⟩
      · simp only [RestartPhase.events, hclear]
        exact ⟨0, .stopped, rfl⟩
      · have hrestarts := p.restarts_gauge 0
        have hone := hcounted nofun
        dsimp only
        omega
      · simp only [RestartPhase.rank, RestartPhase.attempts] at hshort ⊢
        omega
    · cases hends.symm.trans hclear
  | fail hclear =>
    obtain rfl : events = [] := hfits
    obtain ⟨w₁, -, hends⟩ | ⟨w₁, cause, -, -, hends⟩ := p.clearUp_ends host w
    · cases hends.symm.trans hclear
    · cases hends.symm.trans hclear
      refine ⟨?_, nofun, fun _ => ?_, ?_, fun hkept => ?_⟩
      · simp only [RestartPhase.events, hclear]
        exact .notStopped
      · have hone := hcounted nofun
        dsimp only
        omega
      · simp only [RestartPhase.rank, RestartPhase.attempts] at hshort ⊢
        omega
      · have hfree : p.serving = none := hstands hkept
        show p.serving.isSome = true ↔ _
        rw [hfree]
        exact iff_of_false nofun nofun
  | @attempt left _ _ result hstart =>
    obtain ⟨k, hwaited, hbound⟩ := hfits
    have hends := p.startEnds_start host w
    rw [hstart] at hends
    obtain ⟨hne, hrank⟩ := afterAttempt_goesOn left p'.hub.stop.raised result
    refine ⟨?_, fun h => absurd h hne, fun _ => ?_, ?_,
      fun hkept => standsAs_afterAttempt (hends.serving_iff (hstands hkept))⟩
    · simp only [RestartPhase.events, hstart]
      exact fits_afterAttempt hwaited hbound _ result
    · have hrestarts := hends.restarts
      have hone := hcounted nofun
      dsimp only at hrestarts ⊢
      omega
    · change n + (2 * left + 1) ≤ _ at hshort
      dsimp only
      omega
  | giveUp hup =>
    obtain ⟨k, before, hwaited, hbound, hleft, rfl⟩ := hfits
    refine ⟨?_, nofun, fun _ => ?_, ?_, fun hkept => ?_⟩
    · simp only [RestartPhase.events, List.append_assoc]
      exact .cutShort hwaited (by omega)
    · have hone := hcounted nofun
      dsimp only
      omega
    · simp only [RestartPhase.rank] at hshort ⊢
      omega
    · have hfree : p.serving = none := hstands hkept
      show p.serving.isSome = true ↔ _
      rw [hfree]
      exact iff_of_false nofun nofun

/-- **What every move keeps.** -/
theorem Sound.moves (hsound : Sound others c) (hmoves : Moves host others c c') :
    Sound others c' := by
  cases hmoves with
  | step hstep => exact hsound.step (RestartPhase.goes_of_step? hstep)
  | @elapse w p left e events counted n =>
    obtain ⟨hfits, huncounted, hcounted, hshort, hstands⟩ := hsound
    dsimp only at hfits huncounted hcounted hshort hstands
    obtain ⟨k, before, hwaited, hbound, hleft, rfl⟩ := hfits
    -- There is an attempt left after every pause.
    obtain ⟨left, rfl⟩ := Nat.exists_eq_succ_of_ne_zero (Nat.ne_of_gt hleft)
    refine ⟨⟨k + 1, ?_, ?_⟩, nofun, fun _ => hcounted nofun, ?_, hstands⟩
    · rw [List.append_assoc]
      exact .again hwaited
    · omega
    · simp only [RestartPhase.resume, RestartPhase.rank] at hshort ⊢
      omega
  | @other w w' p p' phase events counted n hother =>
    refine ⟨hsound.fits, hsound.uncounted, hsound.counted, hsound.short, fun hkept => ?_⟩
    have hstands := hsound.stands hkept
    have hsame : p'.serving = p.serving := hkept p p' hother
    cases phase with
    | stopping => trivial
    | clearing | attempting | pausing => exact hsame.trans hstands
    | finished result =>
      show p'.serving.isSome = true ↔ _
      rw [hsame]
      exact hstands

/-- **What every course keeps.** -/
theorem sound_of_reaches {p : Instance} {w : W}
    (hreaches : Reaches host others ⟨w, p, .stopping, [], 0, 0⟩ c) : Sound others c := by
  induction hreaches with
  | refl => exact sound_begin p w
  | tail _ hmoves ih => exact ih.moves hmoves

/-! ### How a restart ends -/

/-- **A restart is bounded**: where it stands on its way, and what it has done when it returns. -/
structure IsBounded (host : Host W) (others : Instance → Instance → Prop) (c : RestartCourse W) :
    Prop where
  /-- Once it goes it has counted one restart. -/
  counts : c.phase ≠ .stopping → c.counted = 1
  /-- It has made few moves. -/
  short : c.moves ≤ 2 * RestartPhase.attempts + 1
  /-- It has returned, or it can go on, or it pauses before another attempt. -/
  goesOn : (∃ result, c.phase = .finished result) ∨
    (∃ next, c.phase.step? host c.plugin c.world = some next) ∨
      ∃ left e, c.phase = .pausing (left + 1) e
  /-- In a pause it returns the failure as soon as it finds that the signal to stop the plugin is
  raised or has lost its owner, and not before. -/
  heeds : ∀ left e, c.phase = .pausing left e → c.phase.step? host c.plugin c.world =
    if c.plugin.hub.stop.isUp then some (c.world, c.plugin, .finished (.error e)) else none
  /-- A success, a failure that finds the signal raised and a pause that is cut short are the last
  thing that it does. -/
  ends : ∀ x ∈ c.events.dropLast, x.isLast = false
  /-- It makes no more than three attempts. -/
  bounded : (tries c.events).length ≤ RestartPhase.attempts
  /-- It returns only after a stop. -/
  stops : ∀ result, c.phase = .finished result → ∃ stop, .stopped stop ∈ c.events
  /-- If the stop fails, it returns that error and makes no attempt. -/
  notStopped : ∀ e, .stopped (.error e) ∈ c.events →
    c.events = [.stopped (.error e)] ∧ c.phase = .finished (.error e)
  /-- If the stop succeeds, it makes an attempt and returns what became of the last one. -/
  returns : ∀ result, c.phase = .finished result → .stopped (.ok ()) ∈ c.events →
    1 ≤ (tries c.events).length ∧ (tries c.events).getLast? = some result
  /-- It does not give up without a reason. -/
  persists : ∀ e, c.phase = .finished (.error e) → (tries c.events).length = RestartPhase.attempts ∨
    ∃ x, c.events.getLast? = some x ∧ x.isLast = true
  /-- If nobody else starts or stops the plugin, it serves in the end exactly if the restart has
  succeeded. -/
  serves : (∀ p p', others p p' → p'.serving = p.serving) → ∀ result, c.phase = .finished result →
    (c.plugin.serving.isSome = true ↔ result = .ok ())

/-- **Every restart is bounded**, whatever the world answers and whatever others do meanwhile. -/
theorem isBounded_of_reaches {p : Instance} {w : W}
    (hreaches : Reaches host others ⟨w, p, .stopping, [], 0, 0⟩ c) : IsBounded host others c := by
  have hsound := sound_of_reaches hreaches
  have hreturned : ∀ {result}, c.phase = .finished result → Returned c.events result :=
    fun hfinished => (congrArg (Fits c.events) hfinished).mp hsound.fits
  refine ⟨hsound.counted, Nat.le_of_add_right_le hsound.short, ?_, ?_,
    hsound.fits.not_isLast, hsound.fits.length_tries_le,
    fun result hfinished => (hreturned hfinished).exists_stopped_mem,
    fun e => hsound.fits.of_notStopped, fun result hfinished hstopped => ?_,
    fun e hfinished => (hreturned hfinished).exists_reason, fun hkept result hfinished => ?_⟩
  · by_cases hstep : c.phase.step? host c.plugin c.world = none
    · obtain hfinished | ⟨⟨left, e, hpausing⟩, -⟩ := RestartPhase.step?_eq_none_iff.1 hstep
      · exact .inl hfinished
      · have hfits := hsound.fits
        rw [hpausing] at hfits
        obtain ⟨k, before, -, -, hleft, -⟩ := hfits
        obtain ⟨left, rfl⟩ := Nat.exists_eq_succ_of_ne_zero (Nat.ne_of_gt hleft)
        exact .inr (.inr ⟨left, e, hpausing⟩)
    · exact .inr (.inl (Option.ne_none_iff_exists'.1 hstep))
  · intro left e hpausing
    rw [hpausing, RestartPhase.step?]
  · have hlast := (hreturned hfinished).getLast?_tries hstopped
    have hne : tries c.events ≠ [] := by
      intro hnone
      rw [hnone] at hlast
      cases hlast
    exact ⟨List.length_pos_iff.2 hne, hlast⟩
  · exact (congrArg (StandsAs c.plugin) hfinished).mp (hsound.stands hkept)

/-- A world that refuses so many registrations. -/
def refusing : Host Nat where
  clearSocket n := (n, .ok ())
  bindSocket n := (n, .ok ())
  probe n := (n, .ok ())
  register
    | 0 => (0, .ok ())
    | n + 1 => (n, .error "busy")
  watch _ n := (n, .ok ())

/-- A plugin that serves is restarted while the next registration is refused: the second attempt
succeeds. -/
theorem isBounded_refusedOnce :
    ∃ c : RestartCourse Nat, Reaches refusing (fun p p' => p'.serving = p.serving)
        ⟨1, Deployment.single.plugin.serveNext, .stopping, [], 0, 0⟩ c ∧
      c.phase = .finished (.ok ()) ∧ (tries c.events).length = 2 ∧
      IsBounded refusing (fun p p' => p'.serving = p.serving) c := by
  obtain ⟨c, hreaches, hfinished, htries⟩ : ∃ c : RestartCourse Nat,
      Reaches refusing (fun p p' => p'.serving = p.serving)
        ⟨1, Deployment.single.plugin.serveNext, .stopping, [], 0, 0⟩ c ∧
      c.phase = .finished (.ok ()) ∧ (tries c.events).length = 2 := by
    -- The stop, clearing up, the attempt that is refused, the pause, the attempt that succeeds.
    refine ⟨_, .head (.step rfl) (.head (.step rfl) (.head (.step rfl) (.head .elapse
      (.head (.step rfl) .refl)))), rfl, rfl⟩
  exact ⟨c, hreaches, hfinished, htries, isBounded_of_reaches hreaches⟩

end RestartCourse

end GpuPassthrough
