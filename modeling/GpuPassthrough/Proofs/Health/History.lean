import GpuPassthrough.Health
import Mathlib.Data.List.Induction

/-!
# Histories of Health Events

What a list of advertised units looks like after a history of health events. `setHealth` says by
position what `HealthEvent.apply` does by recursion: it finds the first unit of the event's key and
changes nothing but its health. `unitsAfter` goes through a history, oldest event first.

## Main results

* `HealthEvent.apply_eq_setHealth`: applying an event is changing the first unit of its key.
* `map_place_unitsAfter`: a history leaves the keys, their order and the topology as they are.
* `healthOf?_unitsAfter`: after a history a unit has the health of the last event about it.
-/

namespace GpuPassthrough

/-- The units after an event: the first unit of its key has its health. An event for an unknown key
finds no position inside the list and changes nothing. -/
def setHealth (units : List AdvertisedUnit) (e : HealthEvent) : List AdvertisedUnit :=
  units.modify (units.findIdx fun u => u.key = e.unit) fun u => { u with health := e.health }

/-- The units after a history of events. -/
def unitsAfter (units : List AdvertisedUnit) (history : List HealthEvent) : List AdvertisedUnit :=
  history.foldl setHealth units

/-- Everything about a unit but its health. -/
def AdvertisedUnit.place (u : AdvertisedUnit) : String × Option Topology := (u.key, u.topology)

/-- Applying an event changes the health of the first unit of its key. -/
theorem HealthEvent.apply_eq_setHealth (e : HealthEvent) (units : List AdvertisedUnit) :
    e.apply units = setHealth units e := by
  induction units with
  | nil => rfl
  | cons u rest ih =>
    unfold HealthEvent.apply setHealth
    rw [List.findIdx_cons]
    by_cases h : u.key = e.unit
    · simp [h]
    · simp [h, ih, setHealth]

/-- No event leaves the units as they are. -/
@[simp] theorem unitsAfter_nil (units : List AdvertisedUnit) : unitsAfter units [] = units := rfl

/-- The first event of a history is applied first. -/
theorem unitsAfter_cons (units : List AdvertisedUnit) (e : HealthEvent)
    (history : List HealthEvent) :
    unitsAfter units (e :: history) = unitsAfter (e.apply units) history := by
  rw [HealthEvent.apply_eq_setHealth]
  rfl

/-- A history of two parts goes on from where the first leads. -/
theorem unitsAfter_append (units : List AdvertisedUnit) (first second : List HealthEvent) :
    unitsAfter units (first ++ second) = unitsAfter (unitsAfter units first) second :=
  List.foldl_append

/-- One more event is applied to what the history led to. -/
theorem unitsAfter_concat (units : List AdvertisedUnit) (history : List HealthEvent)
    (e : HealthEvent) :
    unitsAfter units (history ++ [e]) = e.apply (unitsAfter units history) := by
  simp [unitsAfter, HealthEvent.apply_eq_setHealth]

/-- An event leaves everything but health as it is. -/
theorem map_place_setHealth (units : List AdvertisedUnit) (e : HealthEvent) :
    (setHealth units e).map AdvertisedUnit.place = units.map AdvertisedUnit.place := by
  refine List.ext_getElem? fun k => ?_
  simp only [setHealth, List.getElem?_map, List.getElem?_modify]
  split
  · cases units[k]? <;> rfl
  · exact congrArg _ (id_map _)

/-- A history leaves the keys, their order and the topology as they are. -/
theorem map_place_unitsAfter (units : List AdvertisedUnit) (history : List HealthEvent) :
    (unitsAfter units history).map AdvertisedUnit.place = units.map AdvertisedUnit.place := by
  induction history generalizing units with
  | nil => rfl
  | cons e rest ih => exact (ih (setHealth units e)).trans (map_place_setHealth units e)

/-- A history leaves the keys and their order as they are. -/
theorem map_key_unitsAfter (units : List AdvertisedUnit) (history : List HealthEvent) :
    (unitsAfter units history).map AdvertisedUnit.key = units.map AdvertisedUnit.key := by
  have hplaces := congrArg (List.map Prod.fst) (map_place_unitsAfter units history)
  simpa [AdvertisedUnit.place, Function.comp_def] using hplaces

/-- An event concerns units if one of them has its key. -/
theorem HealthEvent.concerns_iff {e : HealthEvent} {units : List AdvertisedUnit} :
    e.concerns units = true ↔ e.unit ∈ units.map AdvertisedUnit.key := by
  simp [HealthEvent.concerns]

/-- Which events concern the units is the same after every history. -/
theorem HealthEvent.concerns_unitsAfter (e : HealthEvent) (units : List AdvertisedUnit)
    (history : List HealthEvent) :
    e.concerns (unitsAfter units history) = e.concerns units := by
  rw [Bool.eq_iff_iff, concerns_iff, concerns_iff, map_key_unitsAfter]

/-! ### The health of one unit -/

/-- The health of the first unit of a key. -/
def healthOf? (units : List AdvertisedUnit) (key : String) : Option Health :=
  (units.find? fun u => u.key = key).map AdvertisedUnit.health

/-- The health that the last of some events about a unit gives it. -/
def latest? (key : String) (events : List HealthEvent) : Option Health :=
  ((events.filter fun e => e.unit = key).getLast?).map HealthEvent.health

/-- No event says nothing. -/
@[simp] theorem latest?_nil (key : String) : latest? key [] = none := rfl

/-- Later events count before earlier ones. -/
theorem latest?_append (key : String) (first second : List HealthEvent) :
    latest? key (first ++ second) = (latest? key second).or (latest? key first) := by
  rw [latest?, List.filter_append, List.getLast?_append, latest?, latest?]
  cases (second.filter fun e => e.unit = key).getLast? <;> rfl

/-- One event is the last word on its unit. -/
theorem latest?_singleton (key : String) (e : HealthEvent) :
    latest? key [e] = if e.unit = key then some e.health else none := by
  by_cases h : e.unit = key <;> simp [latest?, h]

/-- An event gives the first unit of its key its health. -/
theorem healthOf?_apply (e : HealthEvent) (units : List AdvertisedUnit) (key : String) :
    healthOf? (e.apply units) key =
      (healthOf? units key).map fun health => if e.unit = key then e.health else health := by
  induction units with
  | nil => rfl
  | cons u rest ih =>
    rw [HealthEvent.apply]
    by_cases hunit : u.key = e.unit
    · rw [if_pos hunit]
      by_cases hkey : u.key = key
      · simp [healthOf?, hkey, ← hunit]
      · have hne : e.unit ≠ key := hunit ▸ hkey
        simp [healthOf?, hkey, hne, Function.comp_def]
    · rw [if_neg hunit]
      by_cases hkey : u.key = key
      · have hne : e.unit ≠ key := fun heq => hunit (hkey.trans heq.symm)
        simp [healthOf?, hkey, hne]
      · simpa [healthOf?, hkey] using ih

/-- **After a history** a unit has the health of the last event about it, or its first one. -/
theorem healthOf?_unitsAfter (units : List AdvertisedUnit) (history : List HealthEvent)
    (key : String) :
    healthOf? (unitsAfter units history) key =
      (healthOf? units key).map fun health => (latest? key history).getD health := by
  induction history using List.reverseRecOn with
  | nil => simp
  | append_singleton history e ih =>
    rw [unitsAfter_concat, healthOf?_apply, ih, latest?_append, latest?_singleton]
    cases healthOf? units key with
    | none => rfl
    | some health => by_cases hkey : e.unit = key <;> simp [hkey]

/-- Of units with different keys, each is the first of its key. -/
theorem healthOf?_of_mem {units : List AdvertisedUnit}
    (hnodup : (units.map AdvertisedUnit.key).Nodup) {u : AdvertisedUnit} (hu : u ∈ units) :
    healthOf? units u.key = some u.health := by
  induction units with
  | nil => cases hu
  | cons first rest ih =>
    rw [List.map_cons, List.nodup_cons] at hnodup
    obtain ⟨hfirst, hrest⟩ := hnodup
    rcases List.mem_cons.1 hu with rfl | hmem
    · simp [healthOf?]
    · have hne : first.key ≠ u.key := fun heq => hfirst (heq ▸ List.mem_map_of_mem hmem)
      simpa [healthOf?, hne] using ih hrest hmem

end GpuPassthrough
