import GpuPassthrough.Plugin.Instance

/-!
# Starting and Stopping a Plugin

To start, an instance takes a stale socket away, binds its own, makes sure that it answers,
registers with the kubelet and watches the file system. A start that fails after the socket was
bound ends the generation that it began and takes the socket away again. To stop, an instance ends
its generation and then clears up; others can act between the two.

What is asked of the world stands in a `Host`, whose answers may be anything, so that every way to
fail can be spoken of.

## Main results

* `start_of_serving`: an instance that serves is not started again.
* `stop_of_not_serving`: stopping an instance that does not serve changes nothing.
-/

namespace GpuPassthrough

/-- Why a directory is not watched. -/
structure WatchFault where
  path : String
  reason : String

/-- What a plugin asks of the world. -/
structure Host (W : Type) where
  /-- Takes away whatever stands at the socket of the plugin. -/
  clearSocket : W → W × Except IoFailure Unit
  /-- Makes the socket of the plugin, and serves on it. -/
  bindSocket : W → W × Except IoFailure Unit
  /-- Finds out whether the socket answers; the failure is a reason. -/
  probe : W → W × Except String Unit
  /-- Registers the plugin with the kubelet; the failure is a reason. -/
  register : W → W × Except String Unit
  /-- Watches the file system on behalf of a generation of the server. -/
  watch : Nat → W → W × Except WatchFault Unit

namespace Instance

variable {W : Type}

/-- Takes the socket away; that there is none does not matter. -/
def clearSocket (host : Host W) (p : Instance) (w : W) : W × Except PluginError Unit :=
  match host.clearSocket w with
  | (w, .ok ()) => (w, .ok ())
  | (w, .error cause) =>
    (w, if cause = .notFound then .ok () else .error (.io p.socketPath cause))

/-- Ends the generation of an instance that serves: its sessions, its watcher and its server. Its
socket stays, and another start is not refused. -/
def withdraw? (p : Instance) : Option Instance :=
  p.serving.map fun generation => { p with serving := none, hub := p.hub.terminate generation }

/-- Clears up after the end of a generation. -/
def clearUp (host : Host W) (p : Instance) (w : W) : W × Instance × Except PluginError Unit :=
  match clearSocket host p w with
  | (w, .error e) => (w, p, .error e)
  | (w, .ok ()) => (w, p.gauge 0, .ok ())

/-- What is left to do once the socket is bound. -/
def announce (host : Host W) (generation : Nat) (p : Instance) (w : W) :
    W × Except PluginError Unit :=
  match host.probe w with
  | (w, .error reason) => (w, .error (.serverNotReady p.socketPath reason))
  | (w, .ok ()) =>
    match host.register w with
    | (w, .error reason) => (w, .error (.registrationFailed p.resource reason))
    | (w, .ok ()) =>
      match host.watch generation w with
      | (w, .error fault) => (w, .error (.watchFailed fault.path fault.reason))
      | (w, .ok ()) => (w, .ok ())

/-- Begins a generation on a socket that is bound. A failure ends it again, and a failure to end it
is reported instead. -/
def serve (host : Host W) (p : Instance) (w : W) : W × Instance × Except PluginError Unit :=
  let generation := p.hub.generations.length
  let p := { p with hub := p.hub.renew }
  match announce host generation p w with
  | (w, .ok ()) =>
    (w, ({ p with serving := some generation } : Instance).gauge p.hub.units.length, .ok ())
  | (w, .error e) =>
    let p := { p with hub := p.hub.terminate generation }
    match clearSocket host p w with
    | (w, .ok ()) => (w, p, .error e)
    | (w, .error e') => (w, p, .error e')

/-- Starts an instance. -/
def start (host : Host W) (p : Instance) (w : W) : W × Instance × Except PluginError Unit :=
  if p.serving.isSome then (w, p, .error (.alreadyStarted p.className))
  else match clearSocket host p w with
    | (w, .error e) => (w, p, .error e)
    | (w, .ok ()) =>
      match host.bindSocket w with
      | (w, .error cause) => (w, p, .error (.socketBind p.socketPath cause))
      | (w, .ok ()) => serve host p w

/-- Stops an instance. -/
def stop (host : Host W) (p : Instance) (w : W) : W × Instance × Except PluginError Unit :=
  match p.withdraw? with
  | none => (w, p, .ok ())
  | some p => p.clearUp host w

/-- An instance that serves is not started again. -/
theorem start_of_serving {host : Host W} {p : Instance} {w : W} (h : p.serving.isSome = true) :
    start host p w = (w, p, .error (.alreadyStarted p.className)) := by
  simp [start, h]

/-- Stopping an instance that does not serve changes nothing. -/
theorem stop_of_not_serving {host : Host W} {p : Instance} {w : W} (h : p.serving = none) :
    stop host p w = (w, p, .ok ()) := by
  simp [stop, withdraw?, h]

end Instance

end GpuPassthrough
