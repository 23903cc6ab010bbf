import GpuPassthrough.Health
import GpuPassthrough.Metrics

/-!
# Sessions on one Event Queue

The clients of a plugin watch its units in sessions. All sessions share one queue of health events
with room for one event, and take turns at it: they line up, and the first in the line holds the
queue until it ends. A session sends the whole list of units when it starts, and again after every
event that it applied; its stream has room for four lists that the client has not read.

A session belongs to a generation of the server, and every generation has a signal that ends its
sessions, as does the signal to stop the plugin. A session looks at the signals while it waits for
its turn or for an event, and nowhere else.

`Hub.advance?` takes one session to its next waiting point; the other moves are those of the clients
and of the plugin. The hub remembers which events were accepted and which session applied which, so
that what happened can be spoken of.
-/

namespace GpuPassthrough

/-- A signal that can be raised, and whose owner can go away. -/
structure Signal where
  raised : Bool := false
  abandoned : Bool := false
  deriving DecidableEq

/-- A signal is up when it was raised or when nobody can raise it any more. -/
def Signal.isUp (s : Signal) : Bool := s.raised || s.abandoned

/-- Where a session stands. -/
inductive SessionPhase where
  /-- It has not run yet. -/
  | opened
  /-- It has sent its first list. -/
  | greeted
  /-- It stands in the line for the queue. -/
  | waiting
  /-- It holds the queue and waits for an event. -/
  | listening
  /-- It holds the queue and has taken an event. -/
  | taken (event : HealthEvent)
  /-- It holds the queue and has a list to send. -/
  | sending (list : List AdvertisedUnit)
  | ended
  deriving DecidableEq

/-- A session of a client. -/
structure Session where
  /-- The generation of the server that the session belongs to. -/
  generation : Nat
  phase : SessionPhase := .opened
  /-- Every list that was put on the stream. -/
  sent : List (List AdvertisedUnit) := []
  /-- How many of the lists the client has read. -/
  received : Nat := 0
  /-- Whether the client has gone away. -/
  closed : Bool := false

namespace Session

/-- How many lists a stream holds for its client. -/
def capacity : Nat := 4

/-- The lists that the client has not read. -/
def unread (s : Session) : List (List AdvertisedUnit) := s.sent.drop s.received

/-- The session in another phase. -/
def enter (s : Session) (phase : SessionPhase) : Session := { s with phase := phase }

/-- The session with one more list on its stream. -/
def send (s : Session) (list : List AdvertisedUnit) : Session := { s with sent := s.sent ++ [list] }

/-- Whether the session has ended and the client has read everything. -/
def isExhausted (s : Session) : Bool := s.phase == .ended && s.unread.isEmpty

end Session

/-- The sessions of a plugin and what they share. -/
structure Hub where
  className : String
  units : List AdvertisedUnit
  /-- The event that nobody has taken yet. -/
  queue : Option HealthEvent := none
  /-- The sessions in the line for the queue; the first holds it. -/
  line : List Nat := []
  /-- The signal to stop the plugin. -/
  stop : Signal := {}
  /-- The signals that end the generations of the server. -/
  generations : List Signal := []
  sessions : List Session := []
  metrics : Metrics := {}
  /-- The events that the queue accepted. -/
  accepted : List HealthEvent := []
  /-- The events that were applied, each with the session that applied it. -/
  applied : List (Nat × HealthEvent) := []

namespace Hub

/-! ### Signals -/

/-- Whether the signal of a generation is up. -/
def isTerminated (h : Hub) (generation : Nat) : Bool :=
  ((h.generations[generation]?).map Signal.isUp).getD true

/-- Whether a generation is over. -/
def isOver (h : Hub) (generation : Nat) : Bool := h.stop.isUp || h.isTerminated generation

/-- Starts a generation, whose number is the number of those before it. -/
def renew (h : Hub) : Hub := { h with generations := h.generations ++ [{}] }

/-- Changes the signal of a generation. -/
def signal (h : Hub) (generation : Nat) (f : Signal → Signal) : Hub :=
  { h with generations := h.generations.modify generation f }

/-- Raises the signal of a generation. -/
def terminate (h : Hub) (generation : Nat) : Hub :=
  h.signal generation fun s => { s with raised := true }

/-- Takes away the owner of the signal of a generation. -/
def abandon (h : Hub) (generation : Nat) : Hub :=
  h.signal generation fun s => { s with abandoned := true }

/-- Raises the signal to stop the plugin. -/
def halt (h : Hub) : Hub := { h with stop := { h.stop with raised := true } }

/-- Takes away the owner of the signal to stop the plugin. -/
def abandonStop (h : Hub) : Hub := { h with stop := { h.stop with abandoned := true } }

/-! ### Clients and events -/

/-- Changes a session. -/
def update (h : Hub) (i : Nat) (f : Session → Session) : Hub :=
  { h with sessions := h.sessions.modify i f }

/-- Opens a session with a generation; its number is the number of those before it. -/
def connect (h : Hub) (generation : Nat) : Hub :=
  { h with sessions := h.sessions ++ [{ generation := generation }] }

/-- The client of a session goes away. -/
def disconnect (h : Hub) (i : Nat) : Hub := h.update i fun s => { s with closed := true }

/-- The client of a session reads the next list, if there is one. -/
def read? (h : Hub) (i : Nat) : Option (List AdvertisedUnit × Hub) := do
  let s ← h.sessions[i]?
  if s.closed then none
  else
    let list ← s.unread.head?
    return (list, h.update i fun s => { s with received := s.received + 1 })

/-- Puts an event into the queue, if there is room. -/
def offer? (h : Hub) (e : HealthEvent) : Option Hub :=
  match h.queue with
  | some _ => none
  | none => some { h with queue := some e, accepted := h.accepted ++ [e] }

/-- Counts an allocation that was answered. -/
def countAllocation (h : Hub) (granted : Bool) : Hub :=
  { h with metrics := h.metrics.increment (.allocations h.className granted) }

/-! ### Sessions -/

/-- Ends a session, which leaves the line. -/
def finish (h : Hub) (i : Nat) : Hub :=
  { h.update i fun s => s.enter .ended with line := h.line.filter fun j => j ≠ i }

/-- A session applies an event to the units. -/
def applyEvent (h : Hub) (i : Nat) (e : HealthEvent) : Hub :=
  { h with
    units := e.apply h.units
    metrics :=
      if e.concerns h.units then
        h.metrics.increment (.healthTransitions h.className e.health.text)
      else h.metrics
    applied := h.applied ++ [(i, e)] }

/-- Takes a session to its next waiting point; nothing if it waits, has ended or does not exist. -/
def advance? (h : Hub) (i : Nat) : Option Hub := do
  let s ← h.sessions[i]?
  match s.phase with
  | .opened =>
    if s.closed then some (h.finish i)
    else some (h.update i fun s => (s.send h.units).enter .greeted)
  | .greeted =>
    if h.isOver s.generation || s.closed then some (h.finish i)
    else some { h.update i fun s => s.enter .waiting with line := h.line ++ [i] }
  | .waiting =>
    if h.isOver s.generation || s.closed then some (h.finish i)
    else if h.line.head? = some i then some (h.update i fun s => s.enter .listening)
    else none
  | .listening =>
    if h.isOver s.generation || s.closed then some (h.finish i)
    else h.queue.map fun e => { h.update i fun s => s.enter (.taken e) with queue := none }
  | .taken e =>
    let h' := h.applyEvent i e
    some (h'.update i fun s => s.enter (.sending h'.units))
  | .sending list =>
    if s.closed then some (h.finish i)
    else if s.unread.length < Session.capacity then
      some (h.update i fun s => (s.send list).enter .listening)
    else none
  | .ended => none

/-- Whether every session waits or has ended. -/
def IsQuiet (h : Hub) : Prop := ∀ i, h.advance? i = none

end Hub

end GpuPassthrough
