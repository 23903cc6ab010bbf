import GpuPassthrough.Controller.Recorder
import GpuPassthrough.Controller.Trace
import GpuPassthrough.Daemon.Run
import GpuPassthrough.Proofs.Lifecycle.Attempts
import GpuPassthrough.Shutdown
import Mathlib.Data.List.Basic

/-!
# What a Controller Asks of its Plugins

The calls of a run are determined by the plans, up to how the starts and the stops end. Each plan
has its plugin created and started, whatever became of the plans before it; the plugins that started
are stopped in the same order after the wait for the shutdown, whatever becomes of the others. The
results are about traced plugins of any kind, which are the plugins themselves with their calls
written down.

## Main results

* `Launched.launchAll`: what is asked while some plans are gone through, and who is kept.
* `calls_stopAll`: what is asked while some plugins are stopped.
* `bookkeeping_run`: the calls of a run, and the plugins that are kept on the way.
-/

namespace GpuPassthrough

variable {W P : Type}

/-- A kind of plugin whose plugins keep the name that they are created with. -/
structure PluginKind.KeepsNames (kind : PluginKind W P) : Prop where
  create : ∀ className deviceRoot units w,
    kind.className (kind.create className deviceRoot units w).2 = className
  start : ∀ p w, kind.className (kind.start p w).2.1 = kind.className p

/-- A flag of the world that is set when the wait is over and stays set while plugins are stopped.
-/
structure PluginKind.AwaitsShutdown (kind : PluginKind W P) (wait : W → W)
    (signal : W → Shutdown) : Prop where
  wait : ∀ w, (signal (wait w)).isRequested
  stop : ∀ p w, (signal w).isRequested → (signal (kind.stop p w).1).isRequested

/-- The plugins of a kind in a world that also has the flag of the shutdown, which they leave
alone. -/
def PluginKind.flagged (kind : PluginKind W P) : PluginKind (W × Shutdown) P where
  create className deviceRoot units w :=
    let (w', p) := kind.create className deviceRoot units w.1
    ((w', w.2), p)
  className := kind.className
  start p w :=
    let (w', p, answer) := kind.start p w.1
    ((w', w.2), p, answer)
  stop p w :=
    let (w', p, answer) := kind.stop p w.1
    ((w', w.2), p, answer)

/-- A wait that ends with a request to shut down. -/
theorem PluginKind.awaitsShutdown_flagged (kind : PluginKind W P) (wait : W → W) :
    kind.flagged.AwaitsShutdown (fun w => (wait w.1, w.2.request)) Prod.snd where
  wait w := Shutdown.isRequested_request w.2
  stop _ _ hset := hset

/-- The plugins of the daemon keep their names. -/
theorem PluginKind.keepsNames_deployed (c : Config) (s : Snapshot) :
    (PluginKind.deployed c s).KeepsNames where
  create _ _ _ _ := rfl
  start p site := by
    have hname {result : Site × Instance × Except PluginError Unit}
        (hends : p.StartEnds (Site.host p) site result) : result.2.1.className = p.className := by
      cases hends <;> rfl
    exact hname (Instance.startEnds_start (Site.host p) p site)

namespace Controller

/-- A plan with the answer to the start of its plugin. -/
abbrev Outcome := PluginPlan × Except PluginError Unit

namespace Outcome

/-- Whether the plugin started. -/
def started (o : Outcome) : Bool := o.2.isOk

/-- What is asked for a plan: its plugin is created and started. -/
def calls (deviceRoot : String) (o : Outcome) (number : Nat) : List NumberedCall :=
  [.create number o.1.className deviceRoot o.1.advertised, .start number o.2]

/-- What is asked for some plans, with plugins that are numbered from some number on. -/
def allCalls (deviceRoot : String) (outcomes : List Outcome) (first : Nat) : List NumberedCall :=
  (outcomes.zipIdx first).flatMap fun (o, number) => o.calls deviceRoot number

/-- The numbers of the plugins that started. -/
def startedNumbers (outcomes : List Outcome) (first : Nat) : List Nat :=
  ((outcomes.zipIdx first).filter fun (o, _) => o.started).map Prod.snd

/-- The class names of the plans whose plugins started. -/
def startedNames (outcomes : List Outcome) : List String :=
  (outcomes.filter started).map fun o => o.1.className

end Outcome

/-! ### Starting -/

/-- **Some plans were gone through**: what was asked for them, and which plugins are kept. -/
structure Launched (kind : PluginKind W P) (deviceRoot : String) (outcomes : List Outcome)
    (before after : Traced W) (kept : List (Nat × P)) : Prop where
  created : after.created = before.created + outcomes.length
  calls : after.calls = before.calls ++ Outcome.allCalls deviceRoot outcomes before.created
  numbers : kept.map Prod.fst = Outcome.startedNumbers outcomes before.created
  names : kind.KeepsNames → kept.map (kind.className ∘ Prod.snd) = Outcome.startedNames outcomes

variable {kind : PluginKind W P} {deviceRoot : String}

/-- A traced plugin is created and started, and kept if it started. -/
theorem launch_traced (plan : PluginPlan) (t : Traced W) {w w' : W} {p p' : P}
    {answer : Except PluginError Unit}
    (hcreate : kind.create plan.className deviceRoot plan.advertised t.world = (w, p))
    (hstart : kind.start p w = (w', p', answer)) :
    launch kind.traced deviceRoot plan t =
      (⟨w', t.created + 1, t.trace ++ [(t.world, .create t.created plan.className deviceRoot
          plan.advertised), (w, .start t.created answer)]⟩,
        if answer.isOk then some (t.created, p') else none) := by
  cases answer <;>
    simp [launch, PluginKind.traced, Traced.add, hcreate, hstart, Except.isOk, Except.toBool]

/-- One plan: its plugin is created and started, and kept if it started. -/
theorem Launched.launch (kind : PluginKind W P) (deviceRoot : String) (plan : PluginPlan)
    (t : Traced W) :
    ∃ answer, Launched kind deviceRoot [(plan, answer)] t
      (launch kind.traced deviceRoot plan t).1
      (launch kind.traced deviceRoot plan t).2.toList := by
  obtain ⟨⟨w, p⟩, hcreate⟩ :
      ∃ made, kind.create plan.className deviceRoot plan.advertised t.world = made := ⟨_, rfl⟩
  obtain ⟨⟨w', p', answer⟩, hstart⟩ : ∃ result, kind.start p w = result := ⟨_, rfl⟩
  have hnames (hlaw : kind.KeepsNames) : kind.className p' = plan.className := by
    have hstarted := hlaw.start p w
    have hcreated := hlaw.create plan.className deviceRoot plan.advertised t.world
    rw [hstart] at hstarted
    rw [hcreate] at hcreated
    exact hstarted.trans hcreated
  rw [launch_traced plan t hcreate hstart]
  refine ⟨answer, rfl, ?_, ?_, fun hlaw => ?_⟩
  · simp [Traced.calls, Outcome.allCalls, Outcome.calls]
  · cases answer <;> rfl
  · cases answer with
    | ok => exact congrArg (fun name => [name]) (hnames hlaw)
    | error => rfl

/-- Plans that are gone through one after the other. -/
theorem Launched.append {outcomes others : List Outcome} {t t' t'' : Traced W}
    {kept more : List (Nat × P)} (h : Launched kind deviceRoot outcomes t t' kept)
    (h' : Launched kind deviceRoot others t' t'' more) :
    Launched kind deviceRoot (outcomes ++ others) t t'' (kept ++ more) where
  created := by
    rw [h'.created, h.created, List.length_append, Nat.add_assoc]
  calls := by
    rw [h'.calls, h.calls, h.created, List.append_assoc]
    simp only [Outcome.allCalls, List.zipIdx_append, List.flatMap_append]
  numbers := by
    rw [List.map_append, h.numbers, h'.numbers, h.created]
    simp only [Outcome.startedNumbers, List.zipIdx_append, List.filter_append, List.map_append]
  names hlaw := by
    rw [List.map_append, h.names hlaw, h'.names hlaw]
    simp only [Outcome.startedNames, List.filter_append, List.map_append]

/-- **All plans are gone through**, in order, whatever becomes of the plugins. -/
theorem Launched.launchAll (kind : PluginKind W P) (deviceRoot : String)
    (plans : List PluginPlan) (t : Traced W) :
    ∃ outcomes : List Outcome, outcomes.map Prod.fst = plans ∧
      Launched kind deviceRoot outcomes t (launchAll kind.traced deviceRoot plans t).1
        (launchAll kind.traced deviceRoot plans t).2 := by
  induction plans generalizing t with
  | nil =>
    refine ⟨[], rfl, rfl, ?_, rfl, fun _ => rfl⟩
    exact (List.append_nil _).symm
  | cons plan rest ih =>
    obtain ⟨answer, hfirst⟩ := Launched.launch kind deviceRoot plan t
    obtain ⟨outcomes, hplans, hrest⟩ := ih (Controller.launch kind.traced deviceRoot plan t).1
    refine ⟨(plan, answer) :: outcomes, ?_, hfirst.append hrest⟩
    rw [List.map_cons, hplans]

/-! ### Stopping -/

/-- What is asked while some plugins are stopped: each is stopped, whatever becomes of the others.
-/
theorem calls_stopAll (kind : PluginKind W P) (plugins : List (Nat × P)) (t : Traced W) :
    ∃ answers : List (Except PluginError Unit), answers.length = plugins.length ∧
      (stopAll kind.traced plugins t).calls =
        t.calls ++ List.zipWith NumberedCall.stop (plugins.map Prod.fst) answers := by
  induction plugins generalizing t with
  | nil => exact ⟨[], rfl, (List.append_nil _).symm⟩
  | cons plugin rest ih =>
    obtain ⟨answers, hlength, hcalls⟩ := ih (kind.traced.stop plugin t).1
    refine ⟨(kind.stop plugin.2 t.world).2.2 :: answers, congrArg (· + 1) hlength, ?_⟩
    rw [stopAll, hcalls, List.map_cons, List.zipWith_cons_cons, List.append_cons]
    congr 1
    exact Traced.calls_add _ _ _

/-- Once the flag is set, it is set in every world in which a plugin is stopped. -/
theorem isRequested_stopAll {wait : W → W} {signal : W → Shutdown}
    (hlaw : kind.AwaitsShutdown wait signal) (plugins : List (Nat × P)) {t : Traced W}
    (hset : (signal t.world).isRequested) {found : W} {call : NumberedCall}
    (hmem : (found, call) ∈ (stopAll kind.traced plugins t).trace) :
    (found, call) ∈ t.trace ∨ (signal found).isRequested := by
  induction plugins generalizing t with
  | nil => exact .inl hmem
  | cons plugin rest ih =>
    obtain hbefore | hlater := ih (hlaw.stop plugin.2 t.world hset) hmem
    · obtain hbefore | hnow := List.mem_append.1 hbefore
      · exact .inl hbefore
      · cases List.mem_singleton.1 hnow
        exact .inr hset
    · exact .inr hlater

/-- Nothing is stopped while plans are gone through. -/
theorem stop_notMem_allCalls (outcomes : List Outcome) (first number : Nat)
    (answer : Except PluginError Unit) :
    .stop number answer ∉ Outcome.allCalls deviceRoot outcomes first := by
  intro hmem
  obtain ⟨⟨outcome, n⟩, -, hcall⟩ := List.mem_flatMap.1 hmem
  simp [Outcome.calls] at hcall

/-! ### A whole run -/

/-- A controller that keeps no plugin yet. -/
def fresh (s : Snapshot) (c : Config) : Controller P := ⟨s, c, []⟩

/-- A start of a new controller, with its trace. -/
def tracedStart (kind : PluginKind W P) (s : Snapshot) (c : Config) (w : W) :
    Traced W × Controller (Nat × P) :=
  (fresh s c).start kind.traced ⟨w, 0, []⟩

/-- A run of a new controller, with its trace. -/
def tracedRun (kind : PluginKind W P) (wait : W → W) (s : Snapshot) (c : Config) (w : W) :
    Traced W × Controller (Nat × P) :=
  (fresh s c).run kind.traced (Traced.lift wait) ⟨w, 0, []⟩

/-- A start goes through the plans of the snapshot. -/
theorem exists_launched (kind : PluginKind W P) (s : Snapshot) (c : Config) (w : W) :
    ∃ outcomes : List Outcome, outcomes.map Prod.fst = PluginPlan.ofSnapshot s c ∧
      Launched kind (Isolation.sensingRoot c.vfioRoot s.handles) outcomes ⟨w, 0, []⟩
        (tracedStart kind s c w).1 (tracedStart kind s c w).2.plugins :=
  Launched.launchAll kind _ (PluginPlan.ofSnapshot s c) ⟨w, 0, []⟩

/-- In a run the plugins are created and started, and then those that are kept are stopped. -/
theorem exists_calls_tracedRun (kind : PluginKind W P) (wait : W → W) (s : Snapshot) (c : Config)
    (w : W) :
    ∃ answers : List (Except PluginError Unit),
      answers.length = (tracedStart kind s c w).2.plugins.length ∧
      (tracedRun kind wait s c w).1.calls = (tracedStart kind s c w).1.calls ++
        List.zipWith NumberedCall.stop ((tracedStart kind s c w).2.plugins.map Prod.fst) answers :=
  calls_stopAll kind _ ((tracedStart kind s c w).1.lift wait)

/-- Whenever a plugin is stopped in a run, the flag is set. -/
theorem isRequested_of_stop {wait : W → W} {signal : W → Shutdown}
    (hlaw : kind.AwaitsShutdown wait signal) {s : Snapshot} {c : Config} {w found : W} {number : Nat}
    {answer : Except PluginError Unit}
    (hmem : (found, .stop number answer) ∈ (tracedRun kind wait s c w).1.trace) :
    (signal found).isRequested := by
  let first : Traced W := (tracedStart kind s c w).1
  obtain hbefore | hset := isRequested_stopAll hlaw _ (hlaw.wait first.world) hmem
  · obtain ⟨outcomes, -, hlaunched⟩ := exists_launched kind s c w
    have hcall : .stop number answer ∈ first.calls := List.mem_map_of_mem hbefore
    rw [hlaunched.calls] at hcall
    exact absurd hcall (stop_notMem_allCalls outcomes 0 number answer)
  · exact hset

/-- **The bookkeeping of a run** in which the starts and the stops end in some ways: what the
controller asks of its plugins, and which of them it keeps. -/
structure Bookkeeping (kind : PluginKind W P) (wait : W → W) (s : Snapshot) (c : Config) (w : W)
    (outcomes : List Outcome) (answers : List (Except PluginError Unit)) : Prop where
  /-- The calls are those of the run itself. -/
  traced :
    ((tracedRun kind wait s c w).1.world, (tracedRun kind wait s c w).2.forget) =
      (fresh s c).run kind wait w
  /-- There is an outcome for each plan, in the order of the plans. -/
  planned : outcomes.map Prod.fst = PluginPlan.ofSnapshot s c
  /-- Each plan has its plugin created and started once, and nothing else is asked before the
  wait. -/
  started : (tracedStart kind s c w).1.calls =
    Outcome.allCalls (Isolation.sensingRoot c.vfioRoot s.handles) outcomes 0
  /-- The plugins that started are kept, in order. -/
  kept : (tracedStart kind s c w).2.plugins.map Prod.fst = Outcome.startedNumbers outcomes 0
  /-- They run under the names of their plans. -/
  running : kind.KeepsNames →
    ((fresh s c).start kind w).2.running kind = Outcome.startedNames outcomes
  /-- A start reports their number. -/
  count : ((fresh s c).start kind w).2.count = (outcomes.filter Outcome.started).length
  /-- Each of them is stopped once after the wait, in order, and nothing else is asked. -/
  stopped : (tracedRun kind wait s c w).1.calls =
    (tracedStart kind s c w).1.calls ++
      List.zipWith NumberedCall.stop (Outcome.startedNumbers outcomes 0) answers
  /-- No stop goes without an answer. -/
  answered : answers.length = (Outcome.startedNumbers outcomes 0).length
  /-- The process was asked to shut down whenever a plugin is stopped. -/
  requested : ∀ signal, kind.AwaitsShutdown wait signal → ∀ found number answer,
    (found, .stop number answer) ∈ (tracedRun kind wait s c w).1.trace →
      (signal found).isRequested
  /-- In the end no plugin is kept. -/
  dropped : ((fresh s c).run kind wait w).2.plugins = []

/-- There are as many numbers of started plugins as outcomes that are starts. -/
theorem length_startedNumbers (outcomes : List Outcome) (first : Nat) :
    (Outcome.startedNumbers outcomes first).length = (outcomes.filter Outcome.started).length := by
  induction outcomes generalizing first with
  | nil => rfl
  | cons outcome rest ih =>
    have hrest := ih (first + 1)
    simp only [Outcome.startedNumbers, List.length_map] at hrest
    simp only [Outcome.startedNumbers, List.zipIdx_cons, List.filter_cons, List.length_map]
    split
    · simp only [List.length_cons, hrest]
    · exact hrest

/-- **Every run of a controller keeps its books**, for any plugins and however their starts and
stops end. -/
theorem bookkeeping_run (kind : PluginKind W P) (wait : W → W) (s : Snapshot) (c : Config) (w : W) :
    ∃ outcomes answers, Bookkeeping kind wait s c w outcomes answers := by
  obtain ⟨outcomes, hplans, hlaunched⟩ := exists_launched kind s c w
  obtain ⟨answers, hanswers, hstopped⟩ := exists_calls_tracedRun kind wait s c w
  have hplugins : ((fresh s c).start kind w).2.plugins =
      (tracedStart kind s c w).2.plugins.map Prod.snd :=
    congrArg (fun r : W × Controller P => r.2.plugins)
      (forget_start kind (fresh s c) ⟨w, 0, []⟩).symm
  have hlength : (tracedStart kind s c w).2.plugins.length =
      (Outcome.startedNumbers outcomes 0).length := by
    rw [← hlaunched.numbers, List.length_map]
  refine ⟨outcomes, answers, forget_run kind wait _ _, hplans, hlaunched.calls, hlaunched.numbers,
    fun hnames => ?_, ?_, ?_, hanswers.trans hlength,
    fun _ hlaw _ _ _ hmem => isRequested_of_stop hlaw hmem, rfl⟩
  · rw [running, hplugins, List.map_map]
    exact hlaunched.names hnames
  · rw [count, hplugins, List.length_map, hlength, length_startedNumbers]
  · rw [hstopped, hlaunched.numbers]

/-- Three classes, one whose plugin does not start and one whose plugin cannot be stopped, in a
world where the wait ends with the request to shut down. -/
theorem bookkeeping_refusals :
    let s := Snapshot.ofDevices false
      [{ deviceId := 1, group := 5 }, { deviceId := 2, group := 6 }, { deviceId := 3, group := 7 }]
    let kind := (PluginKind.recorded ["0001"] ["0002"]).flagged
    let wait := fun w : CallLog × Shutdown => (w.1, w.2.request)
    (∃ outcomes answers, Bookkeeping kind wait s {} ([], {}) outcomes answers) ∧
      kind.KeepsNames ∧ kind.AwaitsShutdown wait Prod.snd ∧
      (tracedRun kind wait s {} ([], {})).1.calls =
        [.create 0 "0001" "/dev/vfio" [⟨"5", .healthy, none⟩],
          .start 0 (.error (.internal "0001")),
          .create 1 "0002" "/dev/vfio" [⟨"6", .healthy, none⟩], .start 1 (.ok ()),
          .create 2 "0003" "/dev/vfio" [⟨"7", .healthy, none⟩], .start 2 (.ok ()),
          .stop 1 (.error (.internal "0002")), .stop 2 (.ok ())] ∧
      ((fresh s {}).start kind ([], {})).2.running kind = ["0002", "0003"] := by
  intro s kind wait
  have hnames : kind.KeepsNames := ⟨fun _ _ _ _ => rfl, fun _ _ => rfl⟩
  exact ⟨bookkeeping_run kind wait s {} _, hnames, PluginKind.awaitsShutdown_flagged _ id, rfl, rfl⟩

end Controller

end GpuPassthrough
