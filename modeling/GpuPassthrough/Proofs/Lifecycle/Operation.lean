import GpuPassthrough.Lifecycle.Operation
import GpuPassthrough.Proofs.FileTree.Directory
import GpuPassthrough.Proofs.Lifecycle.Attempts
import GpuPassthrough.Proofs.Lifecycle.Turns
import Mathlib.Data.List.Basic

/-!
# The Calls of a Plugin

Whatever the world answers to a plugin that is called in it, the plugin serves exactly if its last
start that was not refused succeeded and no stop came after it, and then one generation runs; else
none does, and from the first start on there is no socket either, as long as the socket could be
taken away whenever that was asked for.

## Main results

* `Occurrence.lastStartStands_concat`: what one more occurrence does to the last start.
* `Operation.moves_of_move?`: what a move can do.
* `Operation.Sound.moves`, `Operation.sound_run?`: what a move keeps, and so every run.
* `Operation.isOrderly_run?`: how a plugin that was called stands, and what the next call does.
* `Site.isLawful_host`: a site treats the socket of a plugin as it should.
-/

namespace GpuPassthrough

/-! ### What became of the calls -/

namespace Occurrence

/-- What was returned. -/
def result : Occurrence → Except PluginError Unit
  | started result | stopped result => result

/-- Whether a start was refused. -/
def IsRefused (x : Occurrence) : Prop :=
  ∃ className, x = .started (.error (.alreadyStarted className))

/-- **The last start that was not refused succeeded**, and no stop came after it. -/
def LastStartStands (log : List Occurrence) : Prop :=
  ∃ before after, log = before ++ .started (.ok ()) :: after ∧ ∀ x ∈ after, x.IsRefused

/-- At first nothing was started. -/
theorem not_lastStartStands_nil : ¬ LastStartStands [] := by
  rintro ⟨before, after, heq, -⟩
  exact List.append_ne_nil_of_right_ne_nil before (List.cons_ne_nil _ _) heq.symm

/-- **What one more occurrence does to the last start**: it is a success, or leaves things as they
are because it was refused. -/
theorem lastStartStands_concat {log : List Occurrence} {x : Occurrence} :
    LastStartStands (log ++ [x]) ↔
      x = .started (.ok ()) ∨ x.IsRefused ∧ LastStartStands log := by
  constructor
  · rintro ⟨before, after, heq, hafter⟩
    obtain rfl | ⟨rest, last, rfl⟩ := List.eq_nil_or_concat' after
    · exact .inl (List.singleton_inj.1 (List.append_inj' heq rfl).2)
    · rw [← List.cons_append, ← List.append_assoc] at heq
      obtain ⟨hlog, hlast⟩ := List.append_inj' heq rfl
      obtain rfl := List.singleton_inj.1 hlast
      have hrest : ∀ y ∈ rest, y.IsRefused := fun y hy => hafter y (List.mem_append_left _ hy)
      have hx : x.IsRefused := hafter x (List.mem_append_right _ (List.mem_singleton_self x))
      exact .inr ⟨hx, before, rest, hlog, hrest⟩
  · rintro (rfl | ⟨hrefused, before, after, rfl, hafter⟩)
    · exact ⟨log, [], rfl, List.forall_mem_nil _⟩
    · refine ⟨before, after ++ [x], by simp, fun y hy => ?_⟩
      obtain hy | hy := List.mem_append.1 hy
      · exact hafter y hy
      · exact List.mem_singleton.1 hy ▸ hrefused

/-- A stop ends what a start began. -/
theorem not_lastStartStands_stopped {log : List Occurrence} {result : Except PluginError Unit} :
    ¬ LastStartStands (log ++ [.stopped result]) := by
  rw [lastStartStands_concat]
  rintro (heq | ⟨⟨className, heq⟩, -⟩) <;> cases heq

/-- A start that fails and is not refused does not stand. -/
theorem not_lastStartStands_failed {log : List Occurrence} {e : PluginError}
    (he : ∀ className, e ≠ .alreadyStarted className) :
    ¬ LastStartStands (log ++ [.started (.error e)]) := by
  rw [lastStartStands_concat]
  rintro (heq | ⟨⟨className, heq⟩, -⟩)
  · cases heq
  · injection heq with heq
    injection heq with heq
    exact he className heq

end Occurrence

open Occurrence

open Instance (RemovalFailed StageFails)

/-! ### Worlds with sockets -/

/-- **How the world treats a socket**: it is gone when its removal ended well or found nothing, and a
socket that cannot be bound is not made. -/
structure Host.IsLawful {W : Type} (host : Host W) (socket : W → Prop) : Prop where
  cleared : ∀ {w w' : W}, Instance.Cleared host w w' → ¬ socket w'
  notBound : ∀ {w w' : W} {cause : IoFailure}, host.bindSocket w = (w', .error cause) →
    ¬ socket w → ¬ socket w'

namespace Operation

variable {W : Type} {host : Host W} {socket : W → Prop} {o o' : Operation W}

/-! ### What a move can do -/

/-- **What a move can do**, as a call or as a part of a restart. -/
inductive Moves (host : Host W) : Operation W → Operation W → Prop
  /-- An attempt to start. -/
  | started {w w' : W} {p p' : Instance} {restart restart' : Option RestartPhase}
      {log : List Occurrence} {result : Except PluginError Unit}
      (hrestart : restart ≠ some .clearing) (hrestart' : restart' ≠ some .clearing)
      (hends : p.StartEnds host w (w', p', result)) :
      Moves host ⟨w, p, restart, log⟩ ⟨w', p', restart', log ++ [.started result]⟩
  /-- A stop without anything to stop. -/
  | skipped {w : W} {p p' : Instance} {restart restart' : Option RestartPhase}
      {log : List Occurrence} (hrestart : restart ≠ some .clearing)
      (hrestart' : restart' ≠ some .clearing) (hfree : p.serving = none)
      (hplugin : p' = p ∨ p' = p.countRestart) :
      Moves host ⟨w, p, restart, log⟩ ⟨w, p', restart', log ++ [.stopped (.ok ())]⟩
  /-- The beginning of the stop of a restart. -/
  | withdrawn {w : W} {p : Instance} {log : List Occurrence} {generation : Nat}
      (hserving : p.serving = some generation) :
      Moves host ⟨w, p, some .stopping, log⟩
        ⟨w, p.countRestart.withdraw generation, some .clearing, log⟩
  /-- A stop of what is served. -/
  | stopped {w w' : W} {p p' : Instance} {log : List Occurrence} {generation : Nat}
      {result : Except PluginError Unit} (hserving : p.serving = some generation)
      (hclear : (p.withdraw generation).clearUp host w = (w', p', result)) :
      Moves host ⟨w, p, none, log⟩ ⟨w', p', none, log ++ [.stopped result]⟩
  /-- The end of the stop of a restart. -/
  | cleared {w w' : W} {p p' : Instance} {restart' : Option RestartPhase} {log : List Occurrence}
      {result : Except PluginError Unit} (hrestart' : restart' ≠ some .clearing)
      (hclear : p.clearUp host w = (w', p', result)) :
      Moves host ⟨w, p, some .clearing, log⟩ ⟨w', p', restart', log ++ [.stopped result]⟩
  /-- Anything else, which changes no more than the signal to stop the plugin. -/
  | kept {w : W} {p : Instance} {restart restart' : Option RestartPhase} {log : List Occurrence}
      {stop : Signal} (hrestart : restart' = some .clearing ↔ restart = some .clearing) :
      Moves host ⟨w, p, restart, log⟩
        ⟨w, { p with hub := { p.hub with stop := stop } }, restart', log⟩

/-- A restart does not stop again after an attempt. -/
theorem afterAttempt_ne_clearing (left : Nat) (stopping : Bool)
    (result : Except PluginError Unit) :
    some (RestartPhase.afterAttempt left stopping result) ≠ some .clearing := by
  obtain ⟨hfinished, -⟩ | ⟨e, -, -, -, hpausing⟩ :=
    RestartPhase.afterAttempt_cases left stopping result
  · rw [hfinished]
    exact nofun
  · rw [hpausing]
    exact nofun

/-- What a step of a restart can do. -/
theorem moves_of_goOn? (hstep : o.goOn? host = some o') : Moves host o o' := by
  obtain ⟨w, p, restart, log⟩ := o
  rw [Operation.goOn?] at hstep
  obtain ⟨phase, hphase, hstep⟩ := Option.bind_eq_some_iff.1 hstep
  obtain rfl : restart = some phase := hphase
  obtain ⟨⟨w', p', next⟩, hnext, hstep⟩ := Option.bind_eq_some_iff.1 hstep
  obtain rfl := Option.some.inj hstep
  have hgoes : phase.Goes host p w (w', p', next) := RestartPhase.goes_of_step? hnext
  cases hgoes with
  | skip hfree =>
    simp only [RestartPhase.occurrences, hfree]
    exact .skipped (by simp) (by simp) hfree (.inr rfl)
  | withdraw hserving =>
    simp only [RestartPhase.occurrences, hserving, Option.isSome_some, if_true, List.append_nil]
    exact .withdrawn hserving
  | clear hclear =>
    simp only [RestartPhase.occurrences, hclear]
    exact .cleared (by simp) hclear
  | fail hclear =>
    simp only [RestartPhase.occurrences, hclear]
    exact .cleared (by simp) hclear
  | attempt hstart =>
    simp only [RestartPhase.occurrences, hstart]
    exact .started (by simp) (afterAttempt_ne_clearing _ _ _) (hstart ▸ p.startEnds_start host w)
  | giveUp hup =>
    simp only [RestartPhase.occurrences, List.append_nil]
    exact .kept (iff_of_false (by simp) (by simp))

/-- A call is made only while no restart is under way. -/
theorem call_eq_some_iff {next : Operation W} :
    (if o.restart.isSome then none else some next) = some o' ↔ o.restart = none ∧ next = o' := by
  cases o.restart <;> simp

/-- What a stop can do. -/
theorem moves_stop (host : Host W) (hidle : o.restart = none) : Moves host o (o.stop host) := by
  obtain ⟨w, p, restart, log⟩ := o
  obtain rfl : restart = none := hidle
  rw [Operation.stop]
  cases hserving : p.serving with
  | none =>
    rw [Instance.stop_of_not_serving hserving]
    exact .skipped nofun nofun hserving (.inl rfl)
  | some generation =>
    rw [Instance.stop, Instance.withdraw?_of_some hserving]
    exact .stopped hserving rfl

/-- **What a move can do.** -/
theorem moves_of_move? {m : OperationMove} (hmove : o.move? host m = some o') :
    Moves host o o' := by
  cases m with
  | start =>
    obtain ⟨hidle, rfl⟩ := call_eq_some_iff.1 hmove
    exact .started (by rw [hidle]; exact nofun) (by rw [hidle]; exact nofun)
      (o.plugin.startEnds_start host o.world)
  | stop =>
    obtain ⟨hidle, rfl⟩ := call_eq_some_iff.1 hmove
    exact moves_stop host hidle
  | restart =>
    obtain ⟨hidle, rfl⟩ := call_eq_some_iff.1 hmove
    exact .kept (iff_of_false nofun (by rw [hidle]; exact nofun))
  | goOn => exact moves_of_goOn? hmove
  | resume =>
    rw [Operation.move?] at hmove
    split at hmove
    · next left e hpausing =>
      obtain rfl := Option.some.inj hmove
      refine .kept (iff_of_false ?_ (by rw [hpausing]; exact nofun))
      cases left <;> exact nofun
    · cases hmove
  | finish =>
    rw [Operation.move?] at hmove
    split at hmove
    · next result hfinished =>
      obtain rfl := Option.some.inj hmove
      exact .kept (iff_of_false nofun (by rw [hfinished]; exact nofun))
    · cases hmove
  | halt =>
    obtain rfl := Option.some.inj hmove
    exact .kept Iff.rfl
  | abandon =>
    obtain rfl := Option.some.inj hmove
    exact .kept Iff.rfl

/-- **What every move keeps, every run keeps.** -/
theorem keeps_run? {P : Operation W → Prop}
    (hkeeps : ∀ {o o' : Operation W}, P o → Moves host o o' → P o') (ho : P o)
    {moves : List OperationMove} (hrun : o.run? host moves = some o') : P o' := by
  induction moves generalizing o with
  | nil =>
    obtain rfl := Option.some.inj hrun
    exact ho
  | cons m moves ih =>
    rw [run?_cons] at hrun
    obtain ⟨next, hmove, hrest⟩ := Option.bind_eq_some_iff.1 hrun
    exact ih (hkeeps ho (moves_of_move? hmove)) hrest

/-! ### What every call keeps -/

/-- **What every call keeps.** -/
structure Sound (socket : W → Prop) (o : Operation W) : Prop where
  /-- The plugin serves exactly if its last start stands; in the middle of the stop of a restart
  that has yet to be told. -/
  serves : o.restart ≠ some .clearing →
    (o.plugin.serving.isSome = true ↔ LastStartStands o.log)
  /-- In the middle of the stop of a restart it does not serve. -/
  clearing : o.restart = some .clearing → o.plugin.serving = none
  /-- The generation that is served runs, and no other. -/
  runs : ∀ generation, o.plugin.Runs generation ↔ o.plugin.serving = some generation
  /-- Where the plugin does not serve any more, there is no socket. -/
  vacated : o.plugin.serving = none → o.restart ≠ some .clearing →
    (∃ result, .started result ∈ o.log) → (∀ x ∈ o.log, ¬ RemovalFailed x.result) →
      ¬ socket o.world

/-- What leaves the plugin idle keeps it, if no start stands after it and no socket is left. -/
theorem Sound.idle {w w' : W} {p p' : Instance} {restart restart' : Option RestartPhase}
    {log : List Occurrence} {x : Occurrence} (hsound : Sound socket ⟨w, p, restart, log⟩)
    (hrestart' : restart' ≠ some .clearing) (hfree : p.serving = none) (hfree' : p'.serving = none)
    (hruns : ∀ generation, p'.Runs generation ↔ p.Runs generation)
    (hlast : ¬ LastStartStands (log ++ [x]))
    (hvacated : (∃ result, .started result ∈ log ++ [x]) →
      (∀ y ∈ log, ¬ RemovalFailed y.result) → ¬ RemovalFailed x.result → ¬ socket w') :
    Sound socket ⟨w', p', restart', log ++ [x]⟩ where
  serves _ := by
    rw [show p'.serving = none from hfree']
    exact iff_of_false Bool.false_ne_true hlast
  clearing h := absurd h hrestart'
  runs generation := by
    rw [hruns generation, show p'.serving = none from hfree', ← hfree]
    exact hsound.runs generation
  vacated _ _ hstarted hall := by
    obtain ⟨hlog, hx⟩ := List.forall_mem_append.1 hall
    exact hvacated hstarted hlog (hx x (List.mem_singleton_self x))

/-- An attempt to start keeps it. -/
theorem Sound.started (hlawful : host.IsLawful socket) {w w' : W} {p p' : Instance}
    {restart restart' : Option RestartPhase} {log : List Occurrence}
    {result : Except PluginError Unit} (hsound : Sound socket ⟨w, p, restart, log⟩)
    (hrestart : restart ≠ some .clearing) (hrestart' : restart' ≠ some .clearing)
    (hends : p.StartEnds host w (w', p', result)) :
    Sound socket ⟨w', p', restart', log ++ [.started result]⟩ := by
  cases hends with
  | refused hserving =>
    refine ⟨fun _ => ?_, fun h => absurd h hrestart', hsound.runs, fun hfree => ?_⟩
    · rw [hsound.serves hrestart, lastStartStands_concat]
      refine ⟨fun hstands => .inr ⟨⟨_, rfl⟩, hstands⟩, fun hlast => ?_⟩
      exact (hlast.resolve_left (fun heq => by cases heq)).2
    · rw [hfree] at hserving
      cases hserving
  | notCleared hfree hclear hcause =>
    exact hsound.idle hrestart' hfree hfree (fun _ => Iff.rfl) (not_lastStartStands_failed nofun)
      fun _ _ hkept => absurd ⟨_, _, rfl⟩ hkept
  | notBound hfree hcleared hbind =>
    exact hsound.idle hrestart' hfree hfree (fun _ => Iff.rfl) (not_lastStartStands_failed nofun)
      fun _ _ _ => hlawful.notBound hbind (hlawful.cleared hcleared)
  | withdrawn hfree hfails hcleared =>
    exact hsound.idle hrestart' hfree hfree p.runs_attemptInVain
      (not_lastStartStands_failed hfails.ne_alreadyStarted) fun _ _ _ => hlawful.cleared hcleared
  | notWithdrawn hfree hfails hclear hcause =>
    exact hsound.idle hrestart' hfree hfree p.runs_attemptInVain (not_lastStartStands_failed nofun)
      fun _ _ hkept => absurd ⟨_, _, rfl⟩ hkept
  | served hfree hregistered hwatch =>
    refine ⟨fun _ => ?_, fun h => absurd h hrestart', fun generation => ?_, nofun⟩
    · exact iff_of_true rfl (lastStartStands_concat.2 (.inl rfl))
    · have hnone : ¬ p.Runs generation := by
        rw [hsound.runs generation]
        exact fun h => nomatch hfree.symm.trans h
      rw [p.runs_serveNext generation]
      have hserving : p.serveNext.serving = some p.hub.generations.length := rfl
      rw [hserving, Option.some.injEq]
      exact ⟨fun h => (h.resolve_left hnone).symm, fun h => .inr h.symm⟩

/-- A stop without anything to stop keeps it. -/
theorem Sound.skipped {w : W} {p p' : Instance} {restart restart' : Option RestartPhase}
    {log : List Occurrence} (hsound : Sound socket ⟨w, p, restart, log⟩)
    (hrestart : restart ≠ some .clearing) (hrestart' : restart' ≠ some .clearing)
    (hfree : p.serving = none) (hserving : p'.serving = p.serving)
    (hsignals : p'.hub.generations = p.hub.generations) :
    Sound socket ⟨w, p', restart', log ++ [.stopped (.ok ())]⟩ := by
  refine hsound.idle hrestart' hfree (hserving.trans hfree) (Instance.runs_congr hsignals)
    not_lastStartStands_stopped fun hstarted hlog _ => ?_
  obtain ⟨result, hmem⟩ := hstarted
  have hmem' : .started result ∈ log :=
    (List.mem_append.1 hmem).resolve_right fun h => nomatch List.mem_singleton.1 h
  exact hsound.vacated hfree hrestart ⟨result, hmem'⟩ hlog

/-- The end of a generation keeps it, but for what has yet to be told. -/
theorem Sound.withdrawn {w : W} {p p' : Instance} {restart : Option RestartPhase}
    {log : List Occurrence} {ended : Nat} (hsound : Sound socket ⟨w, p, restart, log⟩)
    (hserving : p.serving = some ended) (hserving' : p'.serving = none)
    (hsignals : p'.hub.generations = (p.hub.terminate ended).generations) :
    Sound socket ⟨w, p', some .clearing, log⟩ where
  serves h := absurd rfl h
  clearing _ := hserving'
  runs generation := by
    rw [Instance.runs_terminate hsignals, show p'.serving = none from hserving']
    refine ⟨fun h => ?_, nofun⟩
    have hserved := (hsound.runs generation).1 h.1
    exact absurd (Option.some.inj (hserved.symm.trans hserving)) h.2
  vacated _ h := absurd rfl h

/-- Clearing up keeps it. -/
theorem Sound.cleared (hlawful : host.IsLawful socket) {w w' : W} {p p' : Instance}
    {restart : Option RestartPhase} {log : List Occurrence} {result : Except PluginError Unit}
    (hsound : Sound socket ⟨w, p, some .clearing, log⟩)
    (hrestart : restart ≠ some .clearing) (hclear : p.clearUp host w = (w', p', result)) :
    Sound socket ⟨w', p', restart, log ++ [.stopped result]⟩ := by
  have hfree : p.serving = none := hsound.clearing rfl
  obtain ⟨w₁, hcleared, hends⟩ | ⟨w₁, cause, -, -, hends⟩ := p.clearUp_ends host w
  · cases hends.symm.trans hclear
    exact hsound.idle hrestart hfree hfree (fun _ => Instance.runs_congr rfl _)
      not_lastStartStands_stopped fun _ _ _ => hlawful.cleared hcleared
  · cases hends.symm.trans hclear
    exact hsound.idle hrestart hfree hfree (fun _ => Iff.rfl) not_lastStartStands_stopped
      fun _ _ hkept => absurd ⟨_, _, rfl⟩ hkept

/-- What neither the calls nor the generations have part in keeps it. -/
theorem Sound.of_eq (hsound : Sound socket o) (hworld : o'.world = o.world)
    (hserving : o'.plugin.serving = o.plugin.serving)
    (hsignals : o'.plugin.hub.generations = o.plugin.hub.generations) (hlog : o'.log = o.log)
    (hrestart : o'.restart = some .clearing ↔ o.restart = some .clearing) : Sound socket o' where
  serves h := by
    rw [hserving, hlog]
    exact hsound.serves (hrestart.not.1 h)
  clearing h := hserving.trans (hsound.clearing (hrestart.1 h))
  runs generation := by
    rw [Instance.runs_congr hsignals, hserving]
    exact hsound.runs generation
  vacated hfree h hstarted hall := by
    rw [hworld]
    rw [hserving] at hfree
    rw [hlog] at hstarted hall
    exact hsound.vacated hfree (hrestart.not.1 h) hstarted hall

/-- **What a move keeps.** -/
theorem Sound.moves (hlawful : host.IsLawful socket) (hsound : Sound socket o)
    (hmoves : Moves host o o') : Sound socket o' := by
  cases hmoves with
  | started hrestart hrestart' hends => exact hsound.started hlawful hrestart hrestart' hends
  | skipped hrestart hrestart' hfree hplugin =>
    refine hsound.skipped hrestart hrestart' hfree ?_ ?_ <;> obtain rfl | rfl := hplugin <;> rfl
  | withdrawn hserving => exact hsound.withdrawn hserving rfl rfl
  | stopped hserving hclear => exact (hsound.withdrawn hserving rfl rfl).cleared hlawful nofun hclear
  | cleared hrestart' hclear => exact hsound.cleared hlawful hrestart' hclear
  | kept hrestart => exact hsound.of_eq rfl rfl rfl rfl hrestart

/-- **What every run keeps.** -/
theorem sound_run? (hlawful : host.IsLawful socket) (hsound : Sound socket o)
    {moves : List OperationMove} (hrun : o.run? host moves = some o') : Sound socket o' :=
  keeps_run? (fun hsound hmoves => hsound.moves hlawful hmoves) hsound hrun

/-! ### What the next call does -/

/-- **A plugin that was not called yet**: it does not serve, and no generation runs. -/
structure IsNew (o : Operation W) : Prop where
  restart : o.restart = none
  log : o.log = []
  serving : o.plugin.serving = none
  runs : ∀ generation, ¬ o.plugin.Runs generation

/-- At first everything is as it should be. -/
theorem IsNew.sound (hnew : o.IsNew) (socket : W → Prop) : Sound socket o where
  serves _ := by
    rw [hnew.serving, hnew.log]
    exact iff_of_false Bool.false_ne_true not_lastStartStands_nil
  clearing h := nomatch hnew.restart.symm.trans h
  runs generation := by
    rw [hnew.serving]
    exact iff_of_false (hnew.runs generation) nofun
  vacated _ _ hstarted _ := by
    obtain ⟨result, hmem⟩ := hstarted
    rw [hnew.log] at hmem
    cases hmem

/-- **How a plugin in operation stands, and what the next call does to it**, whatever the world
answers. A call that could not take the socket away is left out of what is said of sockets and of
the errors that calls report. -/
structure IsOrderly (host : Host W) (socket : W → Prop) (o : Operation W) : Prop
    extends Sound socket o where
  /-- At most one generation runs. -/
  single : ∀ {generation other : Nat}, o.plugin.Runs generation → o.plugin.Runs other →
    generation = other
  /-- A start of a plugin that serves is refused, and leaves everything as it was. -/
  refuses : o.plugin.serving.isSome = true → o.plugin.start host o.world =
    (o.world, o.plugin, .error (.alreadyStarted o.plugin.className))
  /-- A start that fails names the stage that failed, and leaves neither a server nor a socket: every
  generation has ended, that of the start as well if it had begun. -/
  fails : ∀ {w : W} {p : Instance} {e : PluginError}, o.plugin.serving = none →
    o.plugin.start host o.world = (w, p, .error e) → ¬ RemovalFailed (.error e) →
      StageFails host o.plugin o.world e ∧ p.serving = none ∧
        (∀ generation < p.hub.generations.length, p.HasEnded generation) ∧ ¬ socket w
  /-- A start of which a stage fails reports it. -/
  reports : ∀ {e : PluginError}, o.plugin.serving = none → StageFails host o.plugin o.world e →
    (o.plugin.start host o.world).2.2 = .error e ∨
      RemovalFailed (o.plugin.start host o.world).2.2
  /-- A stop of a plugin that does not serve does nothing. -/
  idles : o.plugin.serving = none →
    o.plugin.stop host o.world = (o.world, o.plugin, .ok ())
  /-- A stop ends the generation that is served and takes the socket away, and the next start is not
  refused, wherever it happens. -/
  stops : ∀ {w : W} {p : Instance} {result : Except PluginError Unit} {generation : Nat},
    o.plugin.serving = some generation → o.plugin.stop host o.world = (w, p, result) →
      p.serving = none ∧ p.HasEnded generation ∧ (∀ other, ¬ p.Runs other) ∧
        (¬ RemovalFailed result → result = .ok () ∧ ¬ socket w) ∧
          ∀ w' className, (p.start host w').2.2 ≠ .error (.alreadyStarted className)

/-- Where no generation runs, every generation has ended. -/
theorem hasEnded_of_not_runs {p : Instance} (hruns : ∀ generation, ¬ p.Runs generation)
    {generation : Nat} (hbegun : generation < p.hub.generations.length) :
    p.HasEnded generation :=
  (Instance.runs_or_hasEnded hbegun).resolve_left (hruns generation)

/-- **A start that fails** names the stage that failed, and leaves neither a server nor a socket. -/
theorem Sound.of_start_error (hlawful : host.IsLawful socket) (hsound : Sound socket o) {w : W}
    {p : Instance} {e : PluginError} (hfree : o.plugin.serving = none)
    (hstart : o.plugin.start host o.world = (w, p, .error e)) (hkept : ¬ RemovalFailed (.error e)) :
    StageFails host o.plugin o.world e ∧ p.serving = none ∧
      (∀ generation < p.hub.generations.length, p.HasEnded generation) ∧ ¬ socket w := by
  have hidle : ∀ generation, ¬ o.plugin.Runs generation := fun generation hruns =>
    nomatch hfree.symm.trans ((hsound.runs generation).1 hruns)
  have hends := o.plugin.startEnds_start host o.world
  rw [hstart] at hends
  cases hends with
  | refused hserving =>
    rw [hfree] at hserving
    cases hserving
  | notCleared => exact absurd ⟨_, _, rfl⟩ hkept
  | notWithdrawn => exact absurd ⟨_, _, rfl⟩ hkept
  | notBound _ hcleared hbind =>
    have hvacant : ¬ socket w := hlawful.notBound hbind (hlawful.cleared hcleared)
    exact ⟨.bind hcleared hbind, hfree, fun _ => hasEnded_of_not_runs hidle, hvacant⟩
  | withdrawn _ hfails hcleared =>
    have hended : ∀ generation, ¬ o.plugin.attemptInVain.Runs generation := fun generation =>
      (o.plugin.runs_attemptInVain generation).not.2 (hidle generation)
    exact ⟨.announce hfails, hfree, fun _ => hasEnded_of_not_runs hended,
      hlawful.cleared hcleared⟩

/-- **A stop** ends the generation that is served and takes the socket away. -/
theorem Sound.of_stop (hlawful : host.IsLawful socket) (hsound : Sound socket o) {w : W}
    {p : Instance} {result : Except PluginError Unit} {generation : Nat}
    (hserving : o.plugin.serving = some generation)
    (hstop : o.plugin.stop host o.world = (w, p, result)) :
    p.serving = none ∧ p.HasEnded generation ∧ (∀ other, ¬ p.Runs other) ∧
      (¬ RemovalFailed result → result = .ok () ∧ ¬ socket w) := by
  have hruns : ∀ other, ¬ (o.plugin.withdraw generation).Runs other := by
    intro other hother
    obtain ⟨hrunning, hne⟩ := (o.plugin.runs_withdraw generation other).1 hother
    have hserved := (hsound.runs other).1 hrunning
    exact hne (Option.some.inj (hserved.symm.trans hserving))
  have hended : (o.plugin.withdraw generation).HasEnded generation := by
    refine hasEnded_of_not_runs hruns ?_
    have hbegun := ((hsound.runs generation).2 hserving).lt
    rwa [Instance.withdraw, Hub.terminate, Hub.signal, List.length_modify]
  rw [Instance.stop, Instance.withdraw?_of_some hserving] at hstop
  obtain ⟨w', hcleared, hends⟩ | ⟨w', cause, -, -, hends⟩ :=
    (o.plugin.withdraw generation).clearUp_ends host o.world
  · cases hends.symm.trans hstop
    exact ⟨rfl, hended, hruns, fun _ => ⟨rfl, hlawful.cleared hcleared⟩⟩
  · cases hends.symm.trans hstop
    exact ⟨rfl, hended, hruns, fun hkept => absurd ⟨_, _, rfl⟩ hkept⟩

/-- What every call keeps decides what the next one does. -/
theorem Sound.isOrderly (hlawful : host.IsLawful socket) (hsound : Sound socket o) :
    IsOrderly host socket o where
  toSound := hsound
  single hruns hother :=
    Option.some.inj (((hsound.runs _).1 hruns).symm.trans ((hsound.runs _).1 hother))
  refuses := Instance.start_of_serving
  fails := hsound.of_start_error hlawful
  reports := Instance.start_of_stageFails
  idles := Instance.stop_of_not_serving
  stops := by
    intro w p result generation hserving hstop
    obtain ⟨hfree, hended, hruns, hresult⟩ := hsound.of_stop hlawful hserving hstop
    exact ⟨hfree, hended, hruns, hresult, fun w' => Instance.start_ne_alreadyStarted host w' hfree⟩

end Operation

/-! ### Sockets of a site -/

namespace Site

/-- Whether a path leads to a socket, and not to a link. -/
def HasSocket (s : Site) (path : String) : Prop :=
  ∃ spot, s.tree.resolve .entry path = .ok spot ∧ s.tree.find? spot = some .socket

/-- Where something is removed, no socket is left. -/
theorem not_hasSocket_of_remove {s s' : Site} {path : String}
    (hremove : s.remove path = (s', .ok ())) : ¬ s'.HasSocket path := by
  rintro ⟨spot, hresolve, hfind⟩
  rw [remove] at hremove
  split at hremove
  · next t place htree hplace =>
    cases hremove
    obtain ⟨place', entry, hplace', hentry, hdirectory, rfl⟩ := FileTree.remove_eq_ok_iff.1 htree
    have hroot : place' ≠ [] := by
      rintro rfl
      exact hdirectory (Option.some.inj hentry).symm
    have hspot := (FileTree.shrinks_erase hroot).resolve hresolve hfind
    obtain rfl : place' = spot := Except.ok.inj (hplace'.symm.trans hspot)
    exact nomatch (FileTree.find?_erase_self hroot).symm.trans hfind
  · cases hremove
  · cases hremove

/-- Where nothing is found to remove, there was no socket, and nothing has changed. -/
theorem not_hasSocket_of_notFound {s s' : Site} {path : String}
    (hremove : s.remove path = (s', .error .notFound)) : ¬ s'.HasSocket path := by
  rintro ⟨spot, hresolve, hfind⟩
  have hsame : s' = s := by
    rw [remove] at hremove
    split at hremove <;> cases hremove <;> rfl
  subst hsame
  have htree := FileTree.remove_eq_ok_iff.2 ⟨spot, .socket, hresolve, hfind, nofun, rfl⟩
  rw [remove, htree, hresolve] at hremove
  have hresult := congrArg Prod.snd hremove
  cases hresult

/-- A socket that cannot be bound is not made. -/
theorem bind_eq_error {s s' : Site} {path : String} {cause : IoFailure}
    (hbind : s.bind path = (s', .error cause)) : s' = s := by
  rw [bind] at hbind
  split at hbind <;> cases hbind <;> rfl

/-- **A site treats the socket of a plugin as it should.** -/
theorem isLawful_host (p : Instance) :
    (host p).IsLawful fun s => s.HasSocket p.socketPath where
  cleared hcleared := hcleared.elim not_hasSocket_of_remove not_hasSocket_of_notFound
  notBound hbind hvacant := by rwa [bind_eq_error hbind]

end Site

namespace Operation

/-- A plugin at its site, with a kubelet that refuses its first registration. -/
def refusedOnce : Operation Site where
  world := Deployment.single.site.startKubelet.refuse 1 "busy"
  plugin := Deployment.single.plugin

/-- The first start fails, the second succeeds and the third is refused. Then the plugin is restarted
and stopped. -/
def startThrice : List OperationMove :=
  [.start, .start, .start, .restart, .goOn, .goOn, .goOn, .finish, .stop]

end Operation

end GpuPassthrough
