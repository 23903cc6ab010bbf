import GpuPassthrough.Lifecycle.Serving

/-!
# Restarting a Plugin

A restart stops an instance and starts it again, up to three times with a pause before each attempt
but the first, since the kubelet may still be on its way back. A process that is about to stop makes
no further attempt.

A restart goes step by step, because others can act between its steps; only the end of a pause is
not its own doing.

## Main results

* `step?_eq_none_iff`: where a restart waits.
-/

namespace GpuPassthrough

/-- How far a restart has come. -/
inductive RestartPhase where
  | stopping
  /-- The generation has ended, and its socket is still there. -/
  | clearing
  /-- The next attempt leaves so many to come. -/
  | attempting (left : Nat)
  /-- An attempt failed, and so many are to come. -/
  | pausing (left : Nat) (failure : PluginError)
  | finished (result : Except PluginError Unit)

namespace RestartPhase

variable {W : Type}

/-- The attempts of one restart. -/
def attempts : Nat := 3

/-- What follows an attempt. A process that stops is found out right after a failure. -/
def afterAttempt (left : Nat) (stopping : Bool) : Except PluginError Unit → RestartPhase
  | .ok () => finished (.ok ())
  | .error e =>
    match left with
    | 0 => finished (.error e)
    | _ + 1 => if stopping then finished (.error e) else pausing left e

/-- The next step of a restart; nothing while it pauses or when it is finished. -/
def step? (host : Host W) (p : Instance) (w : W) : RestartPhase →
    Option (W × Instance × RestartPhase)
  | stopping =>
    let metrics := p.hub.metrics.increment (.pluginRestarts p.className)
    let p : Instance := { p with hub := { p.hub with metrics := metrics } }
    match p.withdraw? with
    | none => some (w, p, attempting (attempts - 1))
    | some p => some (w, p, clearing)
  | clearing =>
    match p.clearUp host w with
    | (w, p, .ok ()) => some (w, p, attempting (attempts - 1))
    | (w, p, .error e) => some (w, p, finished (.error e))
  | attempting left =>
    let (w, p, result) := Instance.start host p w
    some (w, p, afterAttempt left p.hub.stop.raised result)
  | pausing _ e => if p.hub.stop.isUp then some (w, p, finished (.error e)) else none
  | finished _ => none

/-- The end of a pause. -/
def resume : RestartPhase → RestartPhase
  | pausing (left + 1) _ => attempting left
  | phase => phase

/-- The result of a restart that is finished. -/
def result? : RestartPhase → Option (Except PluginError Unit)
  | finished result => some result
  | _ => none

/-- Whether a restart pauses. -/
def isPausing : RestartPhase → Bool
  | pausing _ _ => true
  | _ => false

/-- A restart waits only when it is finished or pauses while the plugin is not to stop. -/
theorem step?_eq_none_iff {host : Host W} {p : Instance} {w : W} {phase : RestartPhase} :
    step? host p w phase = none ↔
      (∃ result, phase = finished result) ∨
        (∃ left e, phase = pausing left e) ∧ p.hub.stop.isUp = false := by
  cases phase with
  | stopping =>
    simp only [step?]
    split <;> simp
  | clearing =>
    simp only [step?]
    split <;> simp
  | attempting left => simp [step?]
  | pausing left e => by_cases h : p.hub.stop.isUp = true <;> simp [step?, h]
  | finished result => simp [step?]

end RestartPhase

end GpuPassthrough
