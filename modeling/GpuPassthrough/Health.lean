/-!
# Health

A plugin advertises isolation units, each healthy or not. A health event names a unit and its new
health, and changes the first advertised unit of that key; an event for another unit changes
nothing.
-/

namespace GpuPassthrough

/-- Whether the devices of a unit can be used. -/
inductive Health where
  | healthy
  | unhealthy
  deriving DecidableEq

/-- The health as the kubelet reads it. -/
def Health.text : Health → String
  | healthy => "Healthy"
  | unhealthy => "Unhealthy"

/-- Where the devices of a unit sit in the machine: the memory nodes next to them. -/
structure Topology where
  nodes : List Int64
  deriving DecidableEq

/-- A unit as it is advertised to the kubelet. -/
structure AdvertisedUnit where
  key : String
  health : Health
  topology : Option Topology := none
  deriving DecidableEq

/-- Units that are all healthy and say nothing about where they sit. -/
def AdvertisedUnit.allHealthy (keys : List String) : List AdvertisedUnit :=
  keys.map fun key => { key, health := .healthy }

/-- A change of the health of a unit. -/
structure HealthEvent where
  unit : String
  health : Health
  deriving DecidableEq

namespace HealthEvent

/-- Whether an event is about one of some advertised units. -/
def concerns (e : HealthEvent) (units : List AdvertisedUnit) : Bool :=
  units.any fun u => u.key = e.unit

/-- Gives the first unit of the event's key its new health. -/
def apply (e : HealthEvent) : List AdvertisedUnit → List AdvertisedUnit
  | [] => []
  | u :: rest => if u.key = e.unit then { u with health := e.health } :: rest else u :: apply e rest

end HealthEvent

end GpuPassthrough
