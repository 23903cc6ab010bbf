import GpuPassthrough.Lifecycle.Schedule

/-!
# Runs of a Deployment

What can happen to a deployed plugin, one move at a time: a session or a watcher goes on, a client
comes, reads or goes away, the plugin is started or stopped, and the site changes. A run is a list
of moves in any order.

## Main results

* `exists_run?_settle`: settling is a run.
-/

namespace GpuPassthrough

/-- What can happen to a deployment. -/
inductive DeploymentMove where
  /-- A session goes on to its next waiting point. -/
  | session (i : Nat)
  /-- A watcher goes on to its next waiting point. -/
  | watcher (k : Nat)
  /-- The pause of the restart that a watcher carries out ends. -/
  | resume (k : Nat)
  /-- A client opens a session. -/
  | connect
  /-- The client of a session reads a list. -/
  | read (i : Nat)
  /-- The client of a session goes away. -/
  | disconnect (i : Nat)
  /-- A client asks for units. -/
  | allocate (request : List (List String))
  /-- The plugin is started. -/
  | start
  /-- A stop of the plugin begins. -/
  | beginStop
  /-- A stop of the plugin clears up. -/
  | endStop
  /-- The signal to stop the plugin is raised. -/
  | halt
  /-- A node appears in the device directory. -/
  | createNode (name : String)
  /-- A node disappears from the device directory. -/
  | removeNode (name : String)
  /-- Someone else removes the socket of the plugin. -/
  | removeSocket
  /-- The kubelet comes up. -/
  | startKubelet
  /-- The kubelet goes down. -/
  | stopKubelet
  /-- The kubelet is to refuse registrations. -/
  | refuse (times : Nat) (reason : String)
  deriving DecidableEq

namespace Deployment

/-- What an operation leads to, if it succeeds. -/
def succeeded? {α ε : Type} : Deployment × Except ε α → Option Deployment
  | (d, .ok _) => some d
  | (_, .error _) => none

/-- The deployment after a move; nothing if the move cannot be made. A start that fails is made. -/
def move? (d : Deployment) : DeploymentMove → Option Deployment
  | .session i => d.advanceSession? i
  | .watcher k => d.advanceWatcher? k
  | .resume k => d.resume? k
  | .connect => d.connect?
  | .read i => d.advanceClient? i
  | .disconnect i => some (d.disconnect i)
  | .allocate request => some (d.allocate request).1
  | .start => some d.start.1
  | .beginStop => some d.beginStop
  | .endStop => if d.stopping = 0 then none else some d.endStop.1
  | .halt => some d.halt
  | .createNode name => succeeded? (d.createNode name)
  | .removeNode name => succeeded? (d.removeNode name)
  | .removeSocket => succeeded? d.removeSocket
  | .startKubelet => some (d.onSite Site.startKubelet)
  | .stopKubelet => some (d.onSite Site.stopKubelet)
  | .refuse times reason => some (d.onSite fun s => s.refuse times reason)

/-- The deployment after a run; nothing if one of the moves cannot be made. -/
def run? (d : Deployment) : List DeploymentMove → Option Deployment
  | [] => some d
  | m :: moves => (d.move? m).bind fun d' => d'.run? moves

/-- A run goes on after its first move. -/
@[simp] theorem run?_cons (d : Deployment) (m : DeploymentMove) (moves : List DeploymentMove) :
    d.run? (m :: moves) = (d.move? m).bind fun d' => d'.run? moves := rfl

/-- A run of two parts is a run of the second from where the first leads. -/
theorem run?_append (d : Deployment) (first second : List DeploymentMove) :
    d.run? (first ++ second) = (d.run? first).bind fun d' => d'.run? second := by
  induction first generalizing d with
  | nil => rfl
  | cons m moves ih =>
    simp only [List.cons_append, run?_cons]
    cases d.move? m with
    | none => rfl
    | some d' => simp [ih]

/-- What runs on its own makes a move. -/
theorem exists_move?_next {d d' : Deployment} (h : d.next? = some d') :
    ∃ m, d.move? m = some d' := by
  simp only [next?, Option.or_eq_some_iff] at h
  rcases h with h | ⟨-, h | ⟨-, h⟩⟩ <;>
    obtain ⟨i, -, hi⟩ := List.exists_of_findSome?_eq_some h
  · exact ⟨.session i, hi⟩
  · exact ⟨.read i, hi⟩
  · exact ⟨.watcher i, hi⟩

/-- Settling within some steps is a run. -/
theorem exists_run?_settleWithin (n : Nat) (d : Deployment) :
    ∃ moves, d.run? moves = some (settleWithin n d) := by
  induction n generalizing d with
  | zero => exact ⟨[], rfl⟩
  | succ n ih =>
    rw [settleWithin]
    split
    · exact ⟨[], rfl⟩
    · next d' hnext =>
      obtain ⟨m, hmove⟩ := exists_move?_next hnext
      obtain ⟨moves, hrun⟩ := ih d'
      exact ⟨m :: moves, by simp [hmove, hrun]⟩

/-- Settling is a run. -/
theorem exists_run?_settle (d : Deployment) : ∃ moves, d.run? moves = some d.settle :=
  exists_run?_settleWithin _ d

end Deployment

end GpuPassthrough
