import GpuPassthrough.Cdi.Write
import GpuPassthrough.CommandLine.Layers
import GpuPassthrough.Controller.Basic
import GpuPassthrough.Discovery
import GpuPassthrough.Lifecycle.Site
import GpuPassthrough.LogFilter.Check

/-!
# A Run of the Daemon

A run reads its configuration, finds the devices, writes the device specifications, serves a plugin
for each class until the process is asked to shut down, and stops them. A failure before the devices
are found ends the run; device specifications that cannot be written and plugins that do not start
do not.
-/

namespace GpuPassthrough

/-- Plugins at a site, with the settings of a run. -/
def PluginKind.deployed (config : Config) (snapshot : Snapshot) : PluginKind Site Instance where
  create className deviceRoot units site :=
    (site, {
      config := config
      snapshot := snapshot
      deviceRoot := deviceRoot
      timeout := 1000 * config.timeoutSeconds.toNat
      hub := { className := className, units := units } })
  className p := p.className
  start p site := Instance.start (Site.host p) p site
  stop p site := Instance.stop (Site.host p) p site

namespace Daemon

/-- Why a run ends early. -/
inductive Fault where
  | setup (fault : SetupFault)
  /-- Neither the environment nor the configuration gives a log filter. -/
  | logFilter (fault : LogFilter.Fault)
  | discovery (cause : PluginError)
  deriving DecidableEq

namespace Fault

/-- The exit status of a run that ended early. One that is not ended but stops dead has its own. -/
def exitStatus : Fault → Nat
  | setup (.usage fault) => fault.exitCode
  | logFilter .insideCharacter => 101
  | _ => 1

/-- What is reported of a fault: what failed, and what that goes back to. Faults of the command line
are reported by the command line's own words, and a run that stops dead reports nothing. -/
def report : Fault → List String
  | setup (.usage _) => []
  | setup (.file path fault) => ["Failed to load " ++ path, fault.toError.message]
  | setup (.merged fault) => [fault.toError.message]
  | logFilter .insideCharacter => []
  | logFilter fault => ["Failed to initialize observability: " ++ fault.message]
  | discovery cause => "Device discovery failed" :: cause.message :: cause.cause?.toList

/-- The number of a cause, with blanks in front. -/
def label (n : Nat) : String :=
  let digits := toString n
  String.ofList (List.replicate (5 - digits.length) ' ') ++ digits ++ ": "

/-- The lines of a cause: the first after its label, the others below it. -/
def causeLines (first others text : String) : List String :=
  match text.splitOn "\n" with
  | [] => []
  | line :: rest => (first ++ line) :: rest.map (others ++ ·)

/-- The lines of causes. Several of them are numbered. -/
def causesLines : List String → List String
  | [cause] => causeLines "    " "    " cause
  | causes => (causes.zipIdx.map fun (cause, n) => causeLines (label n) "       " cause).flatten

/-- The lines that a run leaves behind when it ends early. -/
def lines (fault : Fault) : List String :=
  match fault.report with
  | [] => []
  | [head] => ("Error: " ++ head).splitOn "\n"
  | head :: causes => ("Error: " ++ head).splitOn "\n" ++ ["", "Caused by:"] ++ causesLines causes

end Fault

/-- The variable of the environment that holds a log filter, if it holds one. -/
def logVariable : String := "RUST_LOG"

/-- Checks the filter for the log. One in the environment comes before the configured one, but one
with a fault does not count. A text that ends the process does so wherever it comes from. -/
def checkLogFilter (env : Environment) (c : Config) : Except LogFilter.Fault Unit :=
  match (env.lookup logVariable).map LogFilter.check with
  | some (.ok ()) => .ok ()
  | some (.error .insideCharacter) => .error .insideCharacter
  | _ => LogFilter.check c.logLevel

/-- Reads the configuration and finds the devices. -/
def prepare (t : FileTree) (args : List String) (env : Environment) :
    Except Fault (Config × Snapshot) :=
  match configure t args env with
  | .error fault => .error (.setup fault)
  | .ok c =>
    match checkLogFilter env c with
    | .error fault => .error (.logFilter fault)
    | .ok () =>
      match (Discovery.discover t c.hostRoot (PciDevice.enumerate t c.sysfsRoot) {}).2 with
      | .error cause => .error (.discovery cause)
      | .ok s => .ok (c, s)

/-- A run of the daemon at a site, during which `wait` happens to the site until the process is
asked to shut down. -/
def run (site : Site) (args : List String) (env : Environment) (wait : Site → Site) :
    Site × Except Fault Unit :=
  match prepare site.tree args env with
  | .error fault => (site, .error fault)
  | .ok (c, s) =>
    let (store, _) := Cdi.Store.writeAll ⟨site.tree, {}⟩ s c
    let (site, _) := Controller.run (PluginKind.deployed c s) wait ⟨s, c, []⟩
      { site with tree := store.tree }
    (site, .ok ())

end Daemon

end GpuPassthrough
