import GpuPassthrough.Lifecycle.Site

/-!
# A Deployed Plugin

A plugin at a site, with all that runs on its own: the sessions of its clients, whose streams are
read as soon as something stands on them, and the watchers, which hand health events to the sessions
and restart the plugin when its socket is removed. `advanceWatcher?` takes one watcher one step; a
watcher waits for reports, for room in the queue of events, and for the end of the pauses of its
restart. What others do takes effect at once, and nothing else happens meanwhile, but that a stop
has two parts.
-/

namespace GpuPassthrough

/-- A plugin at a site. -/
structure Deployment where
  plugin : Instance
  site : Site
  /-- How many stops were begun and have yet to clear up. -/
  stopping : Nat := 0

namespace Deployment

/-- Changes the sessions of the plugin. -/
def onHub (d : Deployment) (f : Hub → Hub) : Deployment :=
  { d with plugin := { d.plugin with hub := f d.plugin.hub } }

/-- Changes a watcher. -/
def onWatcher (d : Deployment) (k : Nat) (f : Watcher → Watcher) : Deployment :=
  { d with site := { d.site with watchers := d.site.watchers.modify k f } }

/-! ### What runs on its own -/

/-- The next step of a restart by a watcher. -/
def advanceRestart? (d : Deployment) (k : Nat) : RestartPhase → Option Deployment
  | .finished _ => some (d.onWatcher k fun w => { w with gone := true })
  | phase => do
    let (site, plugin, next) ← phase.step? (Site.host d.plugin) d.plugin d.site
    return { d with plugin := plugin, site := site }.onWatcher k fun w =>
      { w with restart := some next }

/-- A watcher looks at a report: a restart is begun, health events are kept to be handed on. -/
def look (t : FileTree) (w : Watcher) (e : FileEvent) (rest : List FileEvent) : Watcher :=
  let actions := w.targets.classify t e
  if WatchAction.restart ∈ actions then { w with inbox := rest, restart := some .stopping }
  else { w with
    inbox := rest
    pending := actions.filterMap fun
      | .health event => some event
      | .restart => none }

/-- Takes a watcher to its next waiting point; nothing if it waits, is gone or does not exist. -/
def advanceWatcher? (d : Deployment) (k : Nat) : Option Deployment := do
  let w ← d.site.watchers[k]?
  let leave := d.onWatcher k fun w => { w with gone := true }
  if w.gone then none
  else match w.restart, w.pending, w.inbox with
    | some phase, _, _ => d.advanceRestart? k phase
    | none, e :: rest, _ =>
      if d.plugin.hub.isTerminated w.generation then some leave
      else (d.plugin.hub.offer? e).map fun h =>
        (d.onHub fun _ => h).onWatcher k fun w => { w with pending := rest }
    | none, [], inbox =>
      if d.plugin.hub.isOver w.generation then some leave
      else match inbox with
        | [] => none
        | e :: rest => some (d.onWatcher k fun w => look d.site.tree w e rest)

/-- Takes a session to its next waiting point. -/
def advanceSession? (d : Deployment) (i : Nat) : Option Deployment :=
  (d.plugin.hub.advance? i).map fun h => d.onHub fun _ => h

/-- The client of a session reads the next list, if there is one. -/
def advanceClient? (d : Deployment) (i : Nat) : Option Deployment :=
  (d.plugin.hub.read? i).map fun (_, h) => d.onHub fun _ => h

/-- The pause of the restart that a watcher carries out ends. -/
def resume? (d : Deployment) (k : Nat) : Option Deployment := do
  let w ← d.site.watchers[k]?
  if !w.gone && (w.restart.map RestartPhase.isPausing).getD false then
    some (d.onWatcher k fun w => { w with restart := w.restart.map RestartPhase.resume })
  else none

/-! ### What others do -/

/-- Starts the plugin. -/
def start (d : Deployment) : Deployment × Except PluginError Unit :=
  let (site, plugin, result) := Instance.start (Site.host d.plugin) d.plugin d.site
  ({ d with plugin := plugin, site := site }, result)

/-- Stops the plugin. -/
def stop (d : Deployment) : Deployment × Except PluginError Unit :=
  let (site, plugin, result) := Instance.stop (Site.host d.plugin) d.plugin d.site
  ({ d with plugin := plugin, site := site }, result)

/-- Begins to stop the plugin. One that does not serve is stopped. -/
def beginStop (d : Deployment) : Deployment :=
  match d.plugin.withdraw? with
  | none => d
  | some p => { d with plugin := p, stopping := d.stopping + 1 }

/-- Clears up after a stop that was begun. -/
def endStop (d : Deployment) : Deployment × Except PluginError Unit :=
  let (site, plugin, result) := Instance.clearUp (Site.host d.plugin) d.plugin d.site
  (⟨plugin, site, d.stopping - 1⟩, result)

/-- Tells the plugin to stop for good. -/
def halt (d : Deployment) : Deployment := d.onHub Hub.halt

/-- Changes the site. -/
def onSite (d : Deployment) (f : Site → Site) : Deployment :=
  { d with site := f d.site }

/-- Makes a file in the device directory. -/
def createNode (d : Deployment) (name : String) : Deployment × Except IoFailure Unit :=
  let (site, result) := d.site.makeFile (Path.join d.plugin.deviceRoot name)
  ({ d with site := site }, result)

/-- Removes a file from the device directory. -/
def removeNode (d : Deployment) (name : String) : Deployment × Except IoFailure Unit :=
  let (site, result) := d.site.remove (Path.join d.plugin.deviceRoot name)
  ({ d with site := site }, result)

/-- Someone else removes the socket of the plugin. -/
def removeSocket (d : Deployment) : Deployment × Except IoFailure Unit :=
  let (site, result) := d.site.remove d.plugin.socketPath
  ({ d with site := site }, result)

/-- Whether the server of the plugin can be reached. -/
def isReachable (d : Deployment) : Bool :=
  d.plugin.serving.isSome && d.site.isSocket d.plugin.socketPath

/-- A client opens a session with the server, if it can be reached. -/
def connect? (d : Deployment) : Option Deployment :=
  match d.plugin.serving with
  | some generation =>
    if d.isReachable then some (d.onHub fun h => h.connect generation) else none
  | none => none

/-- The client of a session goes away. -/
def disconnect (d : Deployment) (i : Nat) : Deployment :=
  d.onHub fun h => h.disconnect i

/-- A client asks for units, and gets an answer or a status. -/
def allocate (d : Deployment) (request : List (List String)) :
    Deployment × Except CallStatus (List (List GrantedNode)) :=
  let (plugin, result) := d.plugin.allocate request
  ({ d with plugin := plugin }, result.mapError fun e => (CallStatus.ofError e).received)

/-- The list that comes after some number of lists on the stream of a session. -/
def listAt? (d : Deployment) (i n : Nat) : Option (List AdvertisedUnit) :=
  (d.plugin.hub.sessions[i]?).bind fun s => s.sent[n]?

end Deployment

end GpuPassthrough
