/-!
# Shutdown

The request to shut the process down is a flag that is set once and for all. Every request counts as
a change, and a receiver knows the changes that were made before it was taken.

## Main results

* `isRequested_request`: after a request the flag is set.
-/

namespace GpuPassthrough

/-- The request to shut down, and how often it was made. -/
structure Shutdown where
  requests : Nat := 0
  deriving DecidableEq

/-- A view of the flag, with the number of requests that it knows. -/
structure ShutdownReceiver where
  known : Nat
  deriving DecidableEq

namespace Shutdown

/-- Whether the process is to shut down; nobody waits any longer then. -/
def isRequested (s : Shutdown) : Bool := s.requests != 0

/-- Asks the process to shut down. -/
def request (s : Shutdown) : Shutdown := ⟨s.requests + 1⟩

/-- A receiver that knows the requests made so far. -/
def subscribe (s : Shutdown) : ShutdownReceiver := ⟨s.requests⟩

/-- Whether there were requests that a receiver does not know. -/
def isChanged (s : Shutdown) (r : ShutdownReceiver) : Bool := decide (r.known < s.requests)

/-- After a request the flag is set. -/
@[simp] theorem isRequested_request (s : Shutdown) : s.request.isRequested = true := by
  simp [isRequested, request]

end Shutdown

end GpuPassthrough
