import GpuPassthrough.Session.Schedule

/-!
# Runs of a Hub

What can happen to a hub, one move at a time: a session goes on, a client comes, reads or goes away,
an event is offered, a call is answered, a signal is raised or loses its owner. A run is a
list of moves in any order, so that whatever holds after every run holds however the sessions, the
clients and the plugin take turns.

## Main results

* `run?_append`: a run of two parts is a run of the second from where the first leads.
-/

namespace GpuPassthrough

/-- What can happen to a hub. -/
inductive HubMove where
  /-- A session goes on to its next waiting point. -/
  | advance (session : Nat)
  /-- A client opens a session with a generation. -/
  | connect (generation : Nat)
  /-- The client of a session reads a list. -/
  | read (session : Nat)
  /-- The client of a session goes away. -/
  | disconnect (session : Nat)
  /-- An event is put into the queue. -/
  | offer (event : HealthEvent)
  /-- An allocation is answered. -/
  | allocate (granted : Bool)
  /-- A call about options, preferences or the preparation of a container is answered. -/
  | consult
  /-- A generation starts. -/
  | renew
  /-- The signal of a generation is raised. -/
  | terminate (generation : Nat)
  /-- The owner of the signal of a generation goes away. -/
  | abandon (generation : Nat)
  /-- The signal to stop the plugin is raised. -/
  | halt
  /-- The owner of the signal to stop the plugin goes away. -/
  | abandonStop
  deriving DecidableEq

namespace Hub

/-- The hub after a move; nothing if the move cannot be made. -/
def move? (h : Hub) : HubMove → Option Hub
  | .advance i => h.advance? i
  | .connect generation =>
    if generation < h.generations.length then some (h.connect generation) else none
  | .read i => (h.read? i).map (·.2)
  | .disconnect i => some (h.disconnect i)
  | .offer e => h.offer? e
  | .allocate granted => some (h.countAllocation granted)
  | .consult => some h
  | .renew => some h.renew
  | .terminate generation => some (h.terminate generation)
  | .abandon generation => some (h.abandon generation)
  | .halt => some h.halt
  | .abandonStop => some h.abandonStop

/-- The hub after a run; nothing if one of the moves cannot be made. -/
def run? (h : Hub) : List HubMove → Option Hub
  | [] => some h
  | m :: moves => (h.move? m).bind fun h' => h'.run? moves

/-- A run without moves leads nowhere else. -/
@[simp] theorem run?_nil (h : Hub) : h.run? [] = some h := rfl

/-- A run goes on after its first move. -/
@[simp] theorem run?_cons (h : Hub) (m : HubMove) (moves : List HubMove) :
    h.run? (m :: moves) = (h.move? m).bind fun h' => h'.run? moves := rfl

/-- A run of two parts is a run of the second from where the first leads. -/
theorem run?_append (h : Hub) (first second : List HubMove) :
    h.run? (first ++ second) = (h.run? first).bind fun h' => h'.run? second := by
  induction first generalizing h with
  | nil => rfl
  | cons m moves ih =>
    simp only [List.cons_append, run?_cons]
    cases h.move? m with
    | none => rfl
    | some h' => simp [ih]

end Hub

end GpuPassthrough
