import GpuPassthrough.Lifecycle.Deployment
import GpuPassthrough.Session.Schedule

/-!
# Running a Deployment

A deployment runs until everything that runs on its own waits. Pauses end only when someone waits
for what comes after them: for the result of a restart, or for registrations.
-/

namespace GpuPassthrough.Deployment

/-- The deployment after something that runs on its own made a step. -/
def next? (d : Deployment) : Option Deployment :=
  let sessions := List.range d.plugin.hub.sessions.length
  let watchers := List.range d.site.watchers.length
  (sessions.findSome? d.advanceSession?).or
    ((sessions.findSome? d.advanceClient?).or (watchers.findSome? d.advanceWatcher?))

/-- Runs what runs on its own for at most some steps. -/
def settleWithin : Nat → Deployment → Deployment
  | 0, d => d
  | steps + 1, d =>
    match d.next? with
    | none => d
    | some d' => settleWithin steps d'

/-- A number of steps after which all that runs on its own waits: a report costs its watcher and the
sessions a few steps, and a restart makes a few steps, reports and watchers of its own. -/
def effort (d : Deployment) : Nat :=
  let reports := d.site.watchers.foldr (fun w n => w.inbox.length + w.pending.length + n) 0
  let watchers := d.site.watchers.length
  let sessions := d.plugin.hub.sessions.length
  4 * d.plugin.hub.potential + 64 * (1 + reports + watchers) * (1 + watchers) + 8 * sessions

/-- Runs until all that runs on its own waits. -/
def settle (d : Deployment) : Deployment := settleWithin d.effort d

/-- Carries a restart on for at most some steps and pauses. -/
def pursue : Nat → RestartPhase → Deployment → Deployment × RestartPhase
  | 0, phase, d => (d, phase)
  | steps + 1, phase, d =>
    match phase.step? (Site.host d.plugin) d.plugin d.site with
    | some (site, plugin, next) =>
      pursue steps next { d with plugin := plugin, site := site }.settle
    | none => pursue steps phase.resume d

/-- Restarts the plugin and waits for the result. A restart has a stop of two parts and, for every
attempt, a start and a pause. -/
def restart (d : Deployment) : Deployment × Option (Except PluginError Unit) :=
  let (d, phase) := pursue (2 * (1 + RestartPhase.attempts)) .stopping d
  (d, phase.result?)

/-! ### Waiting for registrations -/

/-- The deployment after the first pause of a restart has ended. -/
def resumeFirst? (d : Deployment) : Option Deployment :=
  (List.range d.site.watchers.length).findSome? d.resume?

/-- Lets pauses end until so many registrations have arrived, or nobody pauses; says whether they
have. -/
def awaitWithin (count : Nat) : Nat → Deployment → Deployment × Bool
  | 0, d => (d, decide (count ≤ d.site.kubelet.registrations.length))
  | pauses + 1, d =>
    if count ≤ d.site.kubelet.registrations.length then (d, true)
    else match d.resumeFirst? with
      | none => (d, false)
      | some d' => awaitWithin count pauses d'.settle

/-- Waits until so many registrations have arrived, as long as there is hope. -/
def awaitRegistrations (d : Deployment) (count : Nat) : Deployment × Bool :=
  awaitWithin count (RestartPhase.attempts * (d.site.watchers.length + 1)) d

end GpuPassthrough.Deployment
