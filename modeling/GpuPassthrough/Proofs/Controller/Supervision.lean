import GpuPassthrough.Proofs.Controller.Bookkeeping
import GpuPassthrough.Proofs.Lifecycle.Supervision

/-!
# A Controller Supervises its Plugins

A controller starts each of its plugins once, and stops it when the process has been asked to shut
down, which tells all plugins to stop for good. So whatever else goes on in a run of a plugin, it is
a run under supervision if it is started, told to stop and stopped as a controller does it.

## Main results

* `isSupervised_of_inHandsOf`: a run in the hands of a controller is a run under supervision.
* `restarts_le_of_inHandsOf`: a plugin of a controller restarts only for removals of its socket by
  someone else.
-/

namespace GpuPassthrough

/-- Whether a move is one that a supervisor makes. -/
def DeploymentMove.isSupervisors : DeploymentMove → Bool
  | .start | .halt | .beginStop => true
  | _ => false

/-- Leaving out elements that end nothing and taking a beginning can be done in either order. -/
theorem takeWhile_filter_comm {α : Type} {keep goesOn : α → Bool}
    (hend : ∀ a, goesOn a = false → keep a = true) (list : List α) :
    (list.filter keep).takeWhile goesOn = (list.takeWhile goesOn).filter keep := by
  induction list with
  | nil => rfl
  | cons a rest ih =>
    cases hgoes : goesOn a with
    | false => simp [hend a hgoes, hgoes]
    | true => cases hkeep : keep a <;> simp [hkeep, hgoes, ih]

/-- Supervision is a matter of the supervisor's moves. -/
theorem Deployment.isSupervised_of_filter {d : Deployment} {moves : List DeploymentMove}
    (hsettled : d.stopping = 0)
    (honce : (moves.filter DeploymentMove.isSupervisors).count .start ≤ 1)
    (hhalted : .beginStop ∉
      (moves.filter DeploymentMove.isSupervisors).takeWhile fun m => m ≠ .halt) :
    d.IsSupervised moves where
  settled := hsettled
  once := by rwa [List.count_filter rfl] at honce
  halted hmem := by
    have hend : ∀ m : DeploymentMove, decide (m ≠ .halt) = false → m.isSupervisors = true := by
      intro m hm
      rw [show m = .halt by simpa using hm]
      rfl
    rw [takeWhile_filter_comm hend] at hhalted
    exact hhalted (List.mem_filter.2 ⟨hmem, rfl⟩)

namespace Controller

variable {W P : Type}

/-- What a call of a controller means for the plugin of a number: it is started, or stopped, and told
to stop for good before if the flag of the shutdown was set. -/
def movesFor (signal : W → Shutdown) (number : Nat) : W × NumberedCall → List DeploymentMove
  | (_, .create ..) => []
  | (_, .start n _) => if n = number then [.start] else []
  | (found, .stop n _) =>
    if n = number then
      if (signal found).isRequested then [.halt, .beginStop] else [.beginStop]
    else []

/-- **A run of a plugin in the hands of a controller**: what its supervisor does in it is what the
calls of the controller mean for the plugin of some number. All else may go on in any way. -/
def InHandsOf (trace : List (W × NumberedCall)) (signal : W → Shutdown) (number : Nat)
    (moves : List DeploymentMove) : Prop :=
  moves.filter DeploymentMove.isSupervisors = trace.flatMap (movesFor signal number)

/-- Whether a call is a start of the plugin of a number. -/
def isStartOf (number : Nat) : NumberedCall → Bool
  | .start n _ => n = number
  | _ => false

/-- A plugin is started as often as it is asked to. -/
theorem count_start_flatMap (signal : W → Shutdown) (number : Nat)
    (trace : List (W × NumberedCall)) :
    (trace.flatMap (movesFor signal number)).count .start =
      (trace.map Prod.snd).countP (isStartOf number) := by
  induction trace with
  | nil => rfl
  | cons asked rest ih =>
    have hfirst : (movesFor signal number asked).count .start =
        if isStartOf number asked.2 then 1 else 0 := by
      obtain ⟨found, _ | ⟨n, answer⟩ | ⟨n, answer⟩⟩ := asked
      · rfl
      · by_cases hn : n = number <;> simp [movesFor, isStartOf, hn]
      · simp only [movesFor, isStartOf]
        split
        · split <;> rfl
        · rfl
    rw [List.flatMap_cons, List.count_append, ih, hfirst, List.map_cons, List.countP_cons,
      Nat.add_comm]

/-- While plans are gone through, a plugin is started once if its number is used. -/
theorem countP_isStartOf_allCalls (deviceRoot : String) (number : Nat) (outcomes : List Outcome)
    (first : Nat) :
    (Outcome.allCalls deviceRoot outcomes first).countP (isStartOf number) =
      if first ≤ number ∧ number < first + outcomes.length then 1 else 0 := by
  induction outcomes generalizing first with
  | nil => simp [Outcome.allCalls]
  | cons outcome rest ih =>
    have hcalls : Outcome.allCalls deviceRoot (outcome :: rest) first =
        outcome.calls deviceRoot first ++ Outcome.allCalls deviceRoot rest (first + 1) := by
      simp [Outcome.allCalls]
    have hfirst : (outcome.calls deviceRoot first).countP (isStartOf number) =
        if first = number then 1 else 0 := by
      by_cases hn : first = number <;> simp [Outcome.calls, isStartOf, hn]
    rw [hcalls, List.countP_append, hfirst, ih, List.length_cons]
    split <;> split <;> split <;> omega

/-- Nothing is started while plugins are stopped. -/
theorem countP_isStartOf_stops (number : Nat) (numbers : List Nat)
    (answers : List (Except PluginError Unit)) :
    (List.zipWith NumberedCall.stop numbers answers).countP (isStartOf number) = 0 := by
  induction numbers generalizing answers with
  | nil => rfl
  | cons n rest ih =>
    cases answers with
    | nil => rfl
    | cons answer others => simpa [isStartOf] using ih others

/-- **No plugin is started twice** in a run. -/
theorem countP_isStartOf_le (kind : PluginKind W P) (wait : W → W) (s : Snapshot) (c : Config)
    (w : W) (number : Nat) :
    (tracedRun kind wait s c w).1.calls.countP (isStartOf number) ≤ 1 := by
  obtain ⟨outcomes, -, hlaunched⟩ := exists_launched kind s c w
  obtain ⟨answers, -, hcalls⟩ := exists_calls_tracedRun kind wait s c w
  have hstarts : (tracedStart kind s c w).1.calls =
      Outcome.allCalls (Isolation.sensingRoot c.vfioRoot s.handles) outcomes 0 := hlaunched.calls
  rw [hcalls, List.countP_append, countP_isStartOf_stops, hstarts, countP_isStartOf_allCalls]
  split <;> omega

/-- Where the flag is set in every world in which a plugin is stopped, it is told so before. -/
theorem beginStop_notMem_takeWhile {signal : W → Shutdown} {number : Nat}
    {trace : List (W × NumberedCall)}
    (hset : ∀ found n answer, (found, .stop n answer) ∈ trace → (signal found).isRequested) :
    .beginStop ∉ (trace.flatMap (movesFor signal number)).takeWhile fun m => m ≠ .halt := by
  induction trace with
  | nil => simp
  | cons asked rest ih =>
    have hrest := ih fun found n answer hmem => hset found n answer (List.mem_cons_of_mem _ hmem)
    rw [List.flatMap_cons]
    obtain ⟨found, _ | ⟨n, answer⟩ | ⟨n, answer⟩⟩ := asked
    · exact hrest
    · by_cases hn : n = number
      · simpa [movesFor, hn] using hrest
      · simpa [movesFor, hn] using hrest
    · by_cases hn : n = number
      · simp [movesFor, hn, hset found n answer List.mem_cons_self]
      · simpa [movesFor, hn] using hrest

variable {kind : PluginKind W P} {wait : W → W} {signal : W → Shutdown}

/-- **A run of a plugin in the hands of a controller is a run under supervision.** -/
theorem isSupervised_of_inHandsOf (hlaw : kind.AwaitsShutdown wait signal) {s : Snapshot}
    {c : Config} {w : W} {number : Nat} {d : Deployment} {moves : List DeploymentMove}
    (hsettled : d.stopping = 0)
    (hhands : InHandsOf (tracedRun kind wait s c w).1.trace signal number moves) :
    d.IsSupervised moves := by
  rw [InHandsOf] at hhands
  refine Deployment.isSupervised_of_filter hsettled ?_ ?_
  · rw [hhands, count_start_flatMap]
    exact countP_isStartOf_le kind wait s c w number
  · rw [hhands]
    exact beginStop_notMem_takeWhile fun _ _ _ hmem => isRequested_of_stop hlaw hmem

/-- **A plugin of a controller restarts only for removals of its socket by someone else**, however
its sessions, its clients and its watchers go on beside the calls of the controller. -/
theorem restarts_le_of_inHandsOf (hlaw : kind.AwaitsShutdown wait signal) {s : Snapshot}
    {c : Config} {w : W} {number : Nat} {d₀ d : Deployment} {moves : List DeploymentMove}
    (hsettled : d₀.stopping = 0) (hidle : d₀.plugin.serving = none)
    (hunwatched : d₀.site.watchers = [])
    (hhands : InHandsOf (tracedRun kind wait s c w).1.trace signal number moves)
    (hrun : d₀.run? moves = some d) :
    d.plugin.hub.restarts ≤ d₀.plugin.hub.restarts + d₀.removals moves := by
  have hsupervised := isSupervised_of_inHandsOf hlaw hsettled hhands
  have hnone := Deployment.overtakings_eq_zero hidle hunwatched hrun hsupervised
  have hbegun := Deployment.begun_run? hidle hunwatched hrun
  have hcounted : d.plugin.hub.restarts ≤ d.begun := Nat.le_add_right _ _
  omega

/-- The plugin that is stopped while it restarts is in the hands of a controller of one class. -/
example :
    let s := Snapshot.ofDevices false [{ deviceId := 1, group := 5 }]
    let kind := (PluginKind.recorded [] []).flagged
    InHandsOf (tracedRun kind (fun w => (w.1, w.2.request)) s {} ([], {})).1.trace Prod.snd 0
      Deployment.stoppedWhileRestarting :=
  rfl

end Controller

end GpuPassthrough
