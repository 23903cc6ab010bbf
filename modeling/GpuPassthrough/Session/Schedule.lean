import GpuPassthrough.Session.Hub

/-!
# Running Sessions

Sessions run until every one of them waits or has ended. Each move of a session costs something of
what the hub can still do, its potential: a session on its way to the queue comes closer to it, and
a session in charge goes around once for each event.

## Main results

* `isQuiet_of_next?_eq_none`: where no session is next, none can move.
-/

namespace GpuPassthrough

/-- How many moves a session can still make without another event. -/
def SessionPhase.rank : SessionPhase → Nat
  | opened => 4
  | greeted => 3
  | waiting => 2
  | listening => 1
  | taken _ => 3
  | sending _ => 2
  | ended => 0

namespace Hub

/-- A bound on the moves that the sessions can make on their own. -/
def potential (h : Hub) : Nat :=
  h.sessions.foldr (fun s moves => s.phase.rank + moves) 0 + (if h.queue.isSome then 3 else 0)

/-- The hub after a move of the first session that can move. -/
def next? (h : Hub) : Option Hub := (List.range h.sessions.length).findSome? h.advance?

/-- Runs sessions for at most some moves. -/
def settleWithin : Nat → Hub → Hub
  | 0, h => h
  | moves + 1, h =>
    match h.next? with
    | none => h
    | some h' => settleWithin moves h'

/-- Runs sessions until all of them wait or have ended. -/
def settle (h : Hub) : Hub := settleWithin h.potential h

/-- Reads a stream for at most some lists, running the sessions after each. -/
def drainWithin (i : Nat) : Nat → Hub → List (List AdvertisedUnit) × Hub
  | 0, h => ([], h)
  | lists + 1, h =>
    match h.read? i with
    | none => ([], h)
    | some (list, h') =>
      let (rest, h'') := drainWithin i lists h'.settle
      (list :: rest, h'')

/-- Reads a stream until nothing more comes. Every list on it was there or takes a move. -/
def drain (h : Hub) (i : Nat) : List (List AdvertisedUnit) × Hub :=
  let there := ((h.sessions[i]?).map fun s => s.unread.length).getD 0
  drainWithin i (2 * h.potential + there) h

/-- Where no session is next, none can move. -/
theorem isQuiet_of_next?_eq_none {h : Hub} (hnext : h.next? = none) : h.IsQuiet := by
  intro i
  by_cases hi : i < h.sessions.length
  · exact List.findSome?_eq_none_iff.1 hnext i (List.mem_range.2 hi)
  · have hs : h.sessions[i]? = none := List.getElem?_eq_none (Nat.le_of_not_lt hi)
    simp [advance?, hs]

end Hub

end GpuPassthrough
