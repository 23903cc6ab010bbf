import GpuPassthrough.Controller.Basic

/-!
# Traces of a Controller

Every kind of plugin can be traced: its plugins are numbered in the order in which they are created,
and the world keeps a list of what the controller asked of which of them, what it was answered, and
the world in which it asked. The controller does not see the trace, so a traced run is the run
itself with a record of it.

## Main results

* `forget_launchAll`, `forget_stopAll`: without their traces, traced calls are the calls themselves.
* `forget_run`: a traced run goes through the same worlds and keeps the same plugins.
-/

namespace GpuPassthrough

/-- A call of a controller to a plugin, which is known by its number, with the answer. -/
inductive NumberedCall where
  | create (number : Nat) (className deviceRoot : String) (units : List AdvertisedUnit)
  | start (number : Nat) (answer : Except PluginError Unit)
  | stop (number : Nat) (answer : Except PluginError Unit)

/-- A world with the number of plugins created in it and the calls made so far, each with the world
that it was made in. -/
structure Traced (W : Type) where
  world : W
  created : Nat := 0
  trace : List (W × NumberedCall) := []

namespace Traced

variable {W : Type}

/-- The calls made so far. -/
def calls (t : Traced W) : List NumberedCall := t.trace.map Prod.snd

/-- Adds a call that leads to a world. -/
def add (t : Traced W) (call : NumberedCall) (w : W) : Traced W :=
  { t with world := w, trace := t.trace ++ [(t.world, call)] }

/-- Something happens to the world that is not a call. -/
def lift (f : W → W) (t : Traced W) : Traced W := { t with world := f t.world }

@[simp] theorem calls_add (t : Traced W) (call : NumberedCall) (w : W) :
    (t.add call w).calls = t.calls ++ [call] := by
  simp [calls, add]

end Traced

variable {W P : Type}

/-- A kind of plugin that does the same and is traced. -/
def PluginKind.traced (kind : PluginKind W P) : PluginKind (Traced W) (Nat × P) where
  create className deviceRoot units t :=
    let (w, plugin) := kind.create className deviceRoot units t.world
    ({ t.add (.create t.created className deviceRoot units) w with created := t.created + 1 },
      (t.created, plugin))
  className p := kind.className p.2
  start p t :=
    let (w, plugin, answer) := kind.start p.2 t.world
    (t.add (.start p.1 answer) w, (p.1, plugin), answer)
  stop p t :=
    let (w, plugin, answer) := kind.stop p.2 t.world
    (t.add (.stop p.1 answer) w, (p.1, plugin), answer)

namespace Controller

/-- The controller of the plugins themselves. -/
def forget (c : Controller (Nat × P)) : Controller P :=
  ⟨c.snapshot, c.config, c.plugins.map Prod.snd⟩

/-- Launching a traced plugin is launching the plugin. -/
theorem forget_launch (kind : PluginKind W P) (deviceRoot : String) (plan : PluginPlan)
    (t : Traced W) :
    ((launch kind.traced deviceRoot plan t).1.world,
        (launch kind.traced deviceRoot plan t).2.map Prod.snd) =
      launch kind deviceRoot plan t.world := by
  cases hstart : kind.start (kind.create plan.className deviceRoot plan.advertised t.world).2
      (kind.create plan.className deviceRoot plan.advertised t.world).1 with
  | mk w result =>
    obtain ⟨plugin, answer⟩ := result
    cases answer <;> simp [launch, PluginKind.traced, Traced.add, hstart]

/-- Launching traced plugins is launching the plugins. -/
theorem forget_launchAll (kind : PluginKind W P) (deviceRoot : String) (plans : List PluginPlan)
    (t : Traced W) :
    ((launchAll kind.traced deviceRoot plans t).1.world,
        (launchAll kind.traced deviceRoot plans t).2.map Prod.snd) =
      launchAll kind deviceRoot plans t.world := by
  induction plans generalizing t with
  | nil => rfl
  | cons plan rest ih =>
    rw [launchAll, launchAll, ← forget_launch]
    simp only [← ih, List.map_append]
    cases (launch kind.traced deviceRoot plan t).2 <;> rfl

/-- Stopping traced plugins is stopping the plugins. -/
theorem forget_stopAll (kind : PluginKind W P) (plugins : List (Nat × P)) (t : Traced W) :
    (stopAll kind.traced plugins t).world = stopAll kind (plugins.map Prod.snd) t.world := by
  induction plugins generalizing t with
  | nil => rfl
  | cons plugin rest ih => exact ih _

/-- A traced start keeps the same plugins. -/
theorem forget_start (kind : PluginKind W P) (c : Controller (Nat × P)) (t : Traced W) :
    ((c.start kind.traced t).1.world, (c.start kind.traced t).2.forget) =
      c.forget.start kind t.world := by
  have h := forget_launchAll kind c.deviceRoot (PluginPlan.ofSnapshot c.snapshot c.config) t
  simp only [Prod.ext_iff] at h
  simp only [start, forget, List.map_append, h.2, Prod.mk.injEq]
  exact ⟨h.1, rfl⟩

/-- **A traced run is the run**: it goes through the same worlds and keeps the same plugins. -/
theorem forget_run (kind : PluginKind W P) (wait : W → W) (c : Controller (Nat × P))
    (t : Traced W) :
    ((c.run kind.traced (Traced.lift wait) t).1.world,
        (c.run kind.traced (Traced.lift wait) t).2.forget) =
      c.forget.run kind wait t.world := by
  rw [run, run, ← forget_start]
  simp only [stop, forget_stopAll]
  rfl

end Controller

end GpuPassthrough
