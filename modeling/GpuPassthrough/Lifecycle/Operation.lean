import GpuPassthrough.Lifecycle.Restart

/-!
# A Plugin in Operation

A plugin is started, stopped and restarted by calls, one after the other. A restart takes its own
time: its pauses end, and the signal to stop the plugin may be raised or lose its owner between its
steps, but the next call waits until it has returned.

What became of the calls is kept, and so is what became of every attempt that a restart made.

## Main results

* `run?_cons`: a run goes on after its first move.
-/

namespace GpuPassthrough

/-- What became of a call, or of a part of a restart. -/
inductive Occurrence where
  /-- The plugin was to start. -/
  | started (result : Except PluginError Unit)
  /-- The plugin was to stop. -/
  | stopped (result : Except PluginError Unit)

/-- A plugin that is called in its world. -/
structure Operation (W : Type) where
  world : W
  plugin : Instance
  /-- The restart that is under way. -/
  restart : Option RestartPhase := none
  /-- What became of the calls so far, and of the parts of restarts. -/
  log : List Occurrence := []

/-- What can happen to a plugin in operation. -/
inductive OperationMove where
  /-- The plugin is started. -/
  | start
  /-- The plugin is stopped. -/
  | stop
  /-- A restart begins. -/
  | restart
  /-- The restart goes on. -/
  | goOn
  /-- The pause of the restart ends. -/
  | resume
  /-- The restart returns. -/
  | finish
  /-- The signal to stop the plugin is raised. -/
  | halt
  /-- The owner of the signal to stop the plugin goes away. -/
  | abandon
  deriving DecidableEq

namespace RestartPhase

variable {W : Type}

/-- What a step of a restart adds to what became of its parts. A stop is over when it has cleared
up. -/
def occurrences (host : Host W) (p : Instance) (w : W) : RestartPhase → List Occurrence
  | stopping => if p.serving.isSome then [] else [.stopped (.ok ())]
  | clearing => [.stopped (p.clearUp host w).2.2]
  | attempting _ => [.started (p.start host w).2.2]
  | pausing _ _ => []
  | finished _ => []

end RestartPhase

namespace Operation

variable {W : Type}

/-- Changes the sessions of the plugin. -/
def onHub (o : Operation W) (f : Hub → Hub) : Operation W :=
  { o with plugin := { o.plugin with hub := f o.plugin.hub } }

/-- Starts the plugin. -/
def start (host : Host W) (o : Operation W) : Operation W :=
  let (world, plugin, result) := o.plugin.start host o.world
  { o with world, plugin, log := o.log ++ [.started result] }

/-- Stops the plugin. -/
def stop (host : Host W) (o : Operation W) : Operation W :=
  let (world, plugin, result) := o.plugin.stop host o.world
  { o with world, plugin, log := o.log ++ [.stopped result] }

/-- The next step of the restart. -/
def goOn? (host : Host W) (o : Operation W) : Option (Operation W) := do
  let phase ← o.restart
  let (world, plugin, next) ← phase.step? host o.plugin o.world
  let log := o.log ++ phase.occurrences host o.plugin o.world
  return { world, plugin, restart := some next, log }

/-- What follows a move; nothing if the move cannot be made. -/
def move? (host : Host W) (o : Operation W) : OperationMove → Option (Operation W)
  | .start => if o.restart.isSome then none else some (o.start host)
  | .stop => if o.restart.isSome then none else some (o.stop host)
  | .restart => if o.restart.isSome then none else some { o with restart := some .stopping }
  | .goOn => o.goOn? host
  | .resume => match o.restart with
    | some (.pausing left e) => some { o with restart := some (.resume (.pausing left e)) }
    | _ => none
  | .finish => match o.restart with
    | some (.finished _) => some { o with restart := none }
    | _ => none
  | .halt => some (o.onHub Hub.halt)
  | .abandon => some (o.onHub Hub.abandonStop)

/-- What follows a run; nothing if one of its moves cannot be made. -/
def run? (host : Host W) (o : Operation W) : List OperationMove → Option (Operation W)
  | [] => some o
  | m :: moves => (o.move? host m).bind fun o' => o'.run? host moves

/-- A run goes on after its first move. -/
@[simp] theorem run?_cons (host : Host W) (o : Operation W) (m : OperationMove)
    (moves : List OperationMove) :
    o.run? host (m :: moves) = (o.move? host m).bind fun o' => o'.run? host moves := rfl

end Operation

end GpuPassthrough
