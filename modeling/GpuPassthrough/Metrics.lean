import GpuPassthrough.Significant

/-!
# Metrics

Counters and gauges, each a family of series told apart by labels. A series exists from the first
time it is counted or set. Counters are shown as they are, gauges with the digits of a 64-bit float.

## Main results

* `value_increment_self`, `value_increment_of_ne`: counting raises one series by one.
* `value_set_self`, `value_set_of_ne`: setting changes one series.
-/

namespace GpuPassthrough

/-- The families of series. -/
inductive Metric where
  | discoveredUnits
  | pluginDevices
  | pluginRestarts
  | healthTransitions
  | allocations
  | specsWritten
  deriving DecidableEq

namespace Metric

/-- Every family. -/
def all : List Metric :=
  [discoveredUnits, pluginDevices, pluginRestarts, healthTransitions, allocations, specsWritten]

/-- Whether a family is set to values, and not counted. -/
def isGauge : Metric → Bool
  | discoveredUnits | pluginDevices => true
  | _ => false

/-- The name of a family. -/
def name : Metric → String
  | discoveredUnits => "sandbox_discovered_units"
  | pluginDevices => "sandbox_plugin_devices"
  | pluginRestarts => "sandbox_plugin_restarts_total"
  | healthTransitions => "sandbox_health_transitions_total"
  | allocations => "sandbox_allocations_total"
  | specsWritten => "sandbox_cdi_specs_written_total"

/-- What a family tells. -/
def description : Metric → String
  | discoveredUnits => "Isolation units found by the last discovery pass"
  | pluginDevices => "Devices advertised by a plugin instance (by class)"
  | pluginRestarts => "Plugin restarts triggered by socket removal (by class)"
  | healthTransitions => "Device health transitions (by class, health)"
  | allocations => "Allocate requests (by class, result)"
  | specsWritten => "CDI spec files written"

end Metric

/-- A series of a family. -/
inductive Series where
  | discoveredUnits
  | pluginDevices (className : String)
  | pluginRestarts (className : String)
  | healthTransitions (className health : String)
  | allocations (className : String) (granted : Bool)
  | specsWritten
  deriving DecidableEq

namespace Series

/-- The family of a series. -/
def metric : Series → Metric
  | discoveredUnits => .discoveredUnits
  | pluginDevices _ => .pluginDevices
  | pluginRestarts _ => .pluginRestarts
  | healthTransitions _ _ => .healthTransitions
  | allocations _ _ => .allocations
  | specsWritten => .specsWritten

/-- The labels of a series, in the order of their names. -/
def labels : Series → List (String × String)
  | discoveredUnits | specsWritten => []
  | pluginDevices className | pluginRestarts className => [("class", className)]
  | healthTransitions className health => [("class", className), ("health", health)]
  | allocations className granted =>
    [("class", className), ("result", if granted then "ok" else "error")]

end Series

/-- The values of the series that exist. -/
structure Metrics where
  values : List (Series × Nat) := []

namespace Metrics

/-- The values with one series changed. -/
def alter (series : Series) (f : Nat → Nat) : List (Series × Nat) → List (Series × Nat)
  | [] => [(series, f 0)]
  | (other, n) :: rest =>
    if series = other then (other, f n) :: rest else (other, n) :: alter series f rest

/-- The value of a series; one that does not exist counts as zero. -/
def value (m : Metrics) (series : Series) : Nat := (m.values.lookup series).getD 0

/-- Raises a series by one. -/
def increment (m : Metrics) (series : Series) : Metrics := ⟨alter series (· + 1) m.values⟩

/-- Sets a series. -/
def set (m : Metrics) (series : Series) (n : Nat) : Metrics := ⟨alter series (fun _ => n) m.values⟩

/-- The significant binary digits of a gauge. -/
def gaugeBits : Nat := 53

/-- What is shown of the value of a series. -/
def shownValue (series : Series) (n : Nat) : Nat :=
  if series.metric.isGauge then Significant.nearest gaugeBits n else n

/-- The series that exist with the values that are shown of them. -/
def shown (m : Metrics) : List (Series × Nat) :=
  m.values.map fun (series, n) => (series, shownValue series n)

/-- The changed series has the changed value. -/
theorem lookup_alter_self (series : Series) (f : Nat → Nat) (values : List (Series × Nat)) :
    (alter series f values).lookup series = some (f ((values.lookup series).getD 0)) := by
  induction values with
  | nil => simp [alter]
  | cons head rest ih =>
    obtain ⟨other, n⟩ := head
    by_cases h : series = other
    · subst h; simp [alter]
    · have hne : (series == other) = false := beq_false_of_ne h
      simp [alter, h, List.lookup_cons, hne, ih]

/-- No other series changes. -/
theorem lookup_alter_of_ne {series other : Series} (h : other ≠ series) (f : Nat → Nat)
    (values : List (Series × Nat)) :
    (alter series f values).lookup other = values.lookup other := by
  induction values with
  | nil => simp [alter, List.lookup_cons, beq_false_of_ne h]
  | cons head rest ih =>
    obtain ⟨third, n⟩ := head
    by_cases h' : series = third
    · subst h'; simp [alter, List.lookup_cons, beq_false_of_ne h]
    · simp [alter, h', List.lookup_cons, ih]

/-- Counting raises the series by one. -/
@[simp] theorem value_increment_self (m : Metrics) (series : Series) :
    (m.increment series).value series = m.value series + 1 := by
  simp [value, increment, lookup_alter_self]

/-- Counting leaves every other series as it is. -/
theorem value_increment_of_ne (m : Metrics) {series other : Series} (h : other ≠ series) :
    (m.increment series).value other = m.value other := by
  simp [value, increment, lookup_alter_of_ne h]

/-- A series that is set has that value. -/
@[simp] theorem value_set_self (m : Metrics) (series : Series) (n : Nat) :
    (m.set series n).value series = n := by
  simp [value, set, lookup_alter_self]

/-- Setting leaves every other series as it is. -/
theorem value_set_of_ne (m : Metrics) {series other : Series} (h : other ≠ series) (n : Nat) :
    (m.set series n).value other = m.value other := by
  simp [value, set, lookup_alter_of_ne h]

end Metrics

end GpuPassthrough
