import GpuPassthrough.Proofs.Lifecycle.Starts

/-!
# Attempts to Start

A start over any host goes through its stages until one of them fails. What it leaves and what it
reports is said once, with the worlds on the way, so that nothing later opens a start again.

A generation runs until its signal is raised: its server, its sessions and its watcher go by that
signal.

## Main results

* `Instance.startEnds_start`: the six ways in which a start ends.
* `Instance.runs_serveNext`, `Instance.runs_attemptInVain`, `Instance.runs_withdraw`: which
  generations run after a start and after a stop.
-/

namespace GpuPassthrough.Instance

variable {W : Type} {host : Host W} {p : Instance} {w : W}

/-! ### The stages of a start -/

/-- A removal of the socket that ended well, or found nothing. -/
def Cleared (host : Host W) (w w' : W) : Prop :=
  host.clearSocket w = (w', .ok ()) ∨ host.clearSocket w = (w', .error .notFound)

/-- A start that has bound its socket. -/
def Bound (host : Host W) (w w' : W) : Prop :=
  ∃ w₁, Cleared host w w₁ ∧ host.bindSocket w₁ = (w', .ok ())

/-- A start whose socket answers. -/
def Probed (host : Host W) (w w' : W) : Prop :=
  ∃ w₁, Bound host w w₁ ∧ host.probe w₁ = (w', .ok ())

/-- A start that has registered. -/
def Registered (host : Host W) (w w' : W) : Prop :=
  ∃ w₁, Probed host w w₁ ∧ host.register w₁ = (w', .ok ())

/-- **How a start fails once its socket is bound**, in which world and with which error. -/
inductive AnnounceFails (host : Host W) (p : Instance) (w : W) : W → PluginError → Prop
  | probe {w₁ w' : W} {reason : String} (hbound : Bound host w w₁)
      (hprobe : host.probe w₁ = (w', .error reason)) :
      AnnounceFails host p w w' (.serverNotReady p.socketPath reason)
  | register {w₁ w' : W} {reason : String} (hprobed : Probed host w w₁)
      (hregister : host.register w₁ = (w', .error reason)) :
      AnnounceFails host p w w' (.registrationFailed p.resource reason)
  | watch {w₁ w' : W} {fault : WatchFault} (hregistered : Registered host w w₁)
      (hwatch : host.watch p.hub.generations.length w₁ = (w', .error fault)) :
      AnnounceFails host p w w' (.watchFailed fault.path fault.reason)

/-- **How a start fails** after it has taken a stale socket away. -/
inductive StageFails (host : Host W) (p : Instance) (w : W) : PluginError → Prop
  | bind {w₁ w' : W} {cause : IoFailure} (hcleared : Cleared host w w₁)
      (hbind : host.bindSocket w₁ = (w', .error cause)) :
      StageFails host p w (.socketBind p.socketPath cause)
  | announce {w' : W} {e : PluginError} (hfails : AnnounceFails host p w w' e) :
      StageFails host p w e

/-- **What a start leads to.** -/
inductive StartEnds (host : Host W) (p : Instance) (w : W) :
    W × Instance × Except PluginError Unit → Prop
  /-- It is refused. -/
  | refused (hserving : p.serving.isSome = true) :
      StartEnds host p w (w, p, .error (.alreadyStarted p.className))
  /-- A stale socket cannot be taken away. -/
  | notCleared {w' : W} {cause : IoFailure} (hfree : p.serving = none)
      (hclear : host.clearSocket w = (w', .error cause)) (hcause : cause ≠ .notFound) :
      StartEnds host p w (w', p, .error (.io p.socketPath cause))
  /-- The socket cannot be bound. -/
  | notBound {w₁ w' : W} {cause : IoFailure} (hfree : p.serving = none)
      (hcleared : Cleared host w w₁) (hbind : host.bindSocket w₁ = (w', .error cause)) :
      StartEnds host p w (w', p, .error (.socketBind p.socketPath cause))
  /-- A later stage fails, and the socket is taken away. -/
  | withdrawn {w₁ w' : W} {e : PluginError} (hfree : p.serving = none)
      (hfails : AnnounceFails host p w w₁ e) (hcleared : Cleared host w₁ w') :
      StartEnds host p w (w', p.attemptInVain, .error e)
  /-- A later stage fails, and the socket cannot be taken away. -/
  | notWithdrawn {w₁ w' : W} {e : PluginError} {cause : IoFailure} (hfree : p.serving = none)
      (hfails : AnnounceFails host p w w₁ e) (hclear : host.clearSocket w₁ = (w', .error cause))
      (hcause : cause ≠ .notFound) :
      StartEnds host p w (w', p.attemptInVain, .error (.io p.socketPath cause))
  /-- The plugin serves. -/
  | served {w₁ w' : W} (hfree : p.serving = none) (hregistered : Registered host w w₁)
      (hwatch : host.watch p.hub.generations.length w₁ = (w', .ok ())) :
      StartEnds host p w (w', p.serveNext, .ok ())

/-- Taking the socket away ends well, or with the reason that it could not be taken away. -/
theorem clearSocket_cases (host : Host W) (p : Instance) (w : W) :
    (∃ w', Cleared host w w' ∧ clearSocket host p w = (w', .ok ())) ∨
      ∃ w' cause, host.clearSocket w = (w', .error cause) ∧ cause ≠ .notFound ∧
        clearSocket host p w = (w', .error (.io p.socketPath cause)) := by
  rw [clearSocket]
  rcases hclear : host.clearSocket w with ⟨w', cause | _⟩
  · dsimp only
    by_cases hcause : cause = .notFound
    · rw [if_pos hcause]
      exact .inl ⟨w', .inr (hcause ▸ hclear), rfl⟩
    · rw [if_neg hcause]
      exact .inr ⟨w', cause, rfl, hcause, rfl⟩
  · exact .inl ⟨w', .inl hclear, rfl⟩

/-- Clearing up ends with the gauge, or with the reason that the socket could not be taken away. -/
theorem clearUp_ends (host : Host W) (p : Instance) (w : W) :
    (∃ w', Cleared host w w' ∧ clearUp host p w = (w', p.gauge 0, .ok ())) ∨
      ∃ w' cause, host.clearSocket w = (w', .error cause) ∧ cause ≠ .notFound ∧
        clearUp host p w = (w', p, .error (.io p.socketPath cause)) := by
  rw [clearUp]
  obtain ⟨w', hcleared, hclear⟩ | ⟨w', cause, hfails, hcause, hclear⟩ := clearSocket_cases host p w
  · exact .inl ⟨w', hcleared, by rw [hclear]⟩
  · exact .inr ⟨w', cause, hfails, hcause, by rw [hclear]⟩

/-- Announcing fails at one of its stages, or comes to the watch. -/
theorem announce_ends {w₂ : W} (hbound : Bound host w w₂) (p q : Instance)
    (hpath : q.socketPath = p.socketPath) (hresource : q.resource = p.resource) :
    (∃ w' e, AnnounceFails host p w w' e ∧
        announce host p.hub.generations.length q w₂ = (w', .error e)) ∨
      ∃ w₁ w', Registered host w w₁ ∧
        host.watch p.hub.generations.length w₁ = (w', .ok ()) ∧
        announce host p.hub.generations.length q w₂ = (w', .ok ()) := by
  rw [announce, hpath, hresource]
  rcases hprobe : host.probe w₂ with ⟨w₃, reason | _⟩
  · exact .inl ⟨w₃, _, .probe hbound hprobe, rfl⟩
  · have hprobed : Probed host w w₃ := ⟨w₂, hbound, hprobe⟩
    dsimp only
    rcases hregister : host.register w₃ with ⟨w₄, reason | _⟩
    · exact .inl ⟨w₄, _, .register hprobed hregister, rfl⟩
    · have hregistered : Registered host w w₄ := ⟨w₃, hprobed, hregister⟩
      dsimp only
      rcases hwatch : host.watch p.hub.generations.length w₄ with ⟨w₅, fault | _⟩
      · exact .inl ⟨w₅, _, .watch hregistered hwatch, rfl⟩
      · exact .inr ⟨w₄, w₅, hregistered, hwatch, rfl⟩

/-- The instance that a start announces: its generation has begun. -/
def begun (p : Instance) : Instance := { p with hub := p.hub.renew }

/-- A start that fails once the socket is bound takes it away again. -/
theorem serve_of_error {w₂ w₃ : W} {e : PluginError}
    (hannounce : announce host p.hub.generations.length p.begun w₂ = (w₃, .error e)) :
    serve host p w₂ =
      match clearSocket host p.attemptInVain w₃ with
      | (w, .ok ()) => (w, p.attemptInVain, .error e)
      | (w, .error e') => (w, p.attemptInVain, .error e') := by
  rw [begun] at hannounce
  rw [serve]
  dsimp only
  rw [hannounce]
  rfl

/-- A start that announces itself serves. -/
theorem serve_of_ok {w₂ w₃ : W}
    (hannounce : announce host p.hub.generations.length p.begun w₂ = (w₃, .ok ())) :
    serve host p w₂ = (w₃, p.serveNext, .ok ()) := by
  rw [begun] at hannounce
  rw [serve]
  dsimp only
  rw [hannounce]
  rfl

/-- What is left to do once the socket is bound ends in one of three ways. -/
theorem startEnds_serve {w₂ : W} (hfree : p.serving = none) (hbound : Bound host w w₂) :
    StartEnds host p w (serve host p w₂) := by
  obtain ⟨w₃, e, hfails, hannounce⟩ | ⟨w₃, w', hregistered, hwatch, hannounce⟩ :=
    announce_ends hbound p p.begun rfl rfl
  · rw [serve_of_error hannounce]
    obtain ⟨w', hcleared, hclear⟩ | ⟨w', cause, hfails', hcause, hclear⟩ :=
      clearSocket_cases host p.attemptInVain w₃
    · rw [hclear]
      exact .withdrawn hfree hfails hcleared
    · rw [hclear]
      exact .notWithdrawn hfree hfails hfails' hcause
  · rw [serve_of_ok hannounce]
    exact .served hfree hregistered hwatch

/-- **A start ends in one of six ways.** -/
theorem startEnds_start (host : Host W) (p : Instance) (w : W) :
    StartEnds host p w (start host p w) := by
  cases hserving : p.serving with
  | some generation =>
    have hserves : p.serving.isSome = true := by rw [hserving]; rfl
    rw [start_of_serving hserves]
    exact .refused hserves
  | none =>
    rw [start, hserving, Option.isSome_none, if_neg Bool.false_ne_true]
    obtain ⟨w₁, hcleared, hclear⟩ | ⟨w', cause, hfails, hcause, hclear⟩ :=
      clearSocket_cases host p w
    · rw [hclear]
      dsimp only
      rcases hbind : host.bindSocket w₁ with ⟨w₂, cause | _⟩
      · exact .notBound hserving hcleared hbind
      · exact startEnds_serve hserving ⟨w₁, hcleared, hbind⟩
    · rw [hclear]
      exact .notCleared hserving hfails hcause

/-- No later stage refuses a start. -/
theorem AnnounceFails.ne_alreadyStarted {w' : W} {e : PluginError}
    (hfails : AnnounceFails host p w w' e) (className : String) :
    e ≠ .alreadyStarted className := by
  cases hfails <;> exact nofun

/-- An instance that does not serve is not refused to start. -/
theorem start_ne_alreadyStarted (host : Host W) (w : W) (hfree : p.serving = none)
    (className : String) : (start host p w).2.2 ≠ .error (.alreadyStarted className) := by
  have hends := startEnds_start host p w
  generalize start host p w = outcome at hends
  cases hends with
  | refused hserving =>
    rw [hfree] at hserving
    cases hserving
  | withdrawn _ hfails _ =>
    exact fun heq => hfails.ne_alreadyStarted className (Except.error.inj heq)
  | notCleared => exact nofun
  | notBound => exact nofun
  | notWithdrawn => exact nofun
  | served => exact nofun

/-! ### The error of a stage -/

/-- Whether a call failed because the socket could not be taken away. -/
def RemovalFailed (result : Except PluginError Unit) : Prop :=
  ∃ path cause, result = .error (.io path cause)

/-- A socket that was taken away does not stand in the way. -/
theorem clearSocket_of_cleared {w' : W} (hcleared : Cleared host w w') (p : Instance) :
    clearSocket host p w = (w', .ok ()) := by
  rw [clearSocket]
  obtain hclear | hclear := hcleared
  · rw [hclear]
  · rw [hclear]
    dsimp only
    rw [if_pos rfl]

/-- A start goes on once the socket is bound. -/
theorem start_of_bound {w₂ : W} (hfree : p.serving = none) (hbound : Bound host w w₂) :
    start host p w = serve host p w₂ := by
  obtain ⟨w₁, hcleared, hbind⟩ := hbound
  rw [start, hfree, Option.isSome_none, if_neg Bool.false_ne_true,
    clearSocket_of_cleared hcleared]
  dsimp only
  rw [hbind]

/-- A stage that fails is reached, and announcing fails there. -/
theorem AnnounceFails.exists_announce {w' : W} {e : PluginError}
    (hfails : AnnounceFails host p w w' e) (q : Instance) (hpath : q.socketPath = p.socketPath)
    (hresource : q.resource = p.resource) :
    ∃ w₂, Bound host w w₂ ∧ announce host p.hub.generations.length q w₂ = (w', .error e) := by
  cases hfails with
  | probe hbound hprobe => exact ⟨_, hbound, by rw [announce, hprobe, hpath]⟩
  | register hprobed hregister =>
    obtain ⟨w₂, hbound, hprobe⟩ := hprobed
    exact ⟨w₂, hbound, by simp only [announce, hprobe, hregister, hresource]⟩
  | watch hregistered hwatch =>
    obtain ⟨w₃, ⟨w₂, hbound, hprobe⟩, hregister⟩ := hregistered
    exact ⟨w₂, hbound, by simp only [announce, hprobe, hregister, hwatch]⟩

/-- **A start reports the stage that failed**, unless the socket could not be taken away again. -/
theorem start_of_stageFails {e : PluginError} (hfree : p.serving = none)
    (hfails : StageFails host p w e) :
    (start host p w).2.2 = .error e ∨ RemovalFailed (start host p w).2.2 := by
  cases hfails with
  | bind hcleared hbind =>
    rw [start, hfree, Option.isSome_none, if_neg Bool.false_ne_true,
      clearSocket_of_cleared hcleared]
    dsimp only
    rw [hbind]
    exact .inl rfl
  | announce hfails =>
    obtain ⟨w₂, hbound, hannounce⟩ := hfails.exists_announce p.begun rfl rfl
    rw [start_of_bound hfree hbound, serve_of_error hannounce]
    obtain ⟨w', -, hclear⟩ | ⟨w', cause, -, -, hclear⟩ :=
      clearSocket_cases host p.attemptInVain _
    · rw [hclear]
      exact .inl rfl
    · rw [hclear]
      exact .inr ⟨_, _, rfl⟩

/-- The generation that is served is withdrawn. -/
theorem withdraw?_of_some {generation : Nat} (hserving : p.serving = some generation) :
    p.withdraw? = some (p.withdraw generation) := by
  rw [withdraw?, hserving]
  rfl

/-! ### The generations that run -/

/-- Whether a generation runs: it has begun, and its signal has not been raised. -/
def Runs (p : Instance) (generation : Nat) : Prop :=
  ∃ signal, p.hub.generations[generation]? = some signal ∧ signal.raised = false

/-- A generation whose signal is raised does not run. -/
def HasEnded (p : Instance) (generation : Nat) : Prop :=
  ∃ signal, p.hub.generations[generation]? = some signal ∧ signal.raised = true

/-- Which generations run is told by their signals. -/
theorem runs_congr {q : Instance} (hsignals : q.hub.generations = p.hub.generations)
    (generation : Nat) : q.Runs generation ↔ p.Runs generation := by
  rw [Runs, Runs, hsignals]

/-- A generation that runs has begun. -/
theorem Runs.lt {generation : Nat} (hruns : p.Runs generation) :
    generation < p.hub.generations.length := by
  obtain ⟨signal, hsignal, -⟩ := hruns
  exact (List.getElem?_eq_some_iff.1 hsignal).1

/-- A generation that has begun runs or has ended. -/
theorem runs_or_hasEnded {generation : Nat} (hbegun : generation < p.hub.generations.length) :
    p.Runs generation ∨ p.HasEnded generation := by
  cases hraised : p.hub.generations[generation].raised with
  | false => exact .inl ⟨_, List.getElem?_eq_getElem hbegun, hraised⟩
  | true => exact .inr ⟨_, List.getElem?_eq_getElem hbegun, hraised⟩

/-- The end of a generation is the end of no other. -/
theorem runs_terminate {ended generation : Nat} {q : Instance}
    (hsignals : q.hub.generations = (p.hub.terminate ended).generations) :
    q.Runs generation ↔ p.Runs generation ∧ generation ≠ ended := by
  rw [Runs, hsignals, Hub.terminate, Hub.signal, Runs]
  by_cases hsame : ended = generation
  · subst hsame
    simp
  · simp [hsame, Ne.symm hsame]

/-- A generation that begins runs. -/
theorem runs_renew {generation : Nat} {q : Instance}
    (hsignals : q.hub.generations = p.hub.renew.generations) :
    q.Runs generation ↔ p.Runs generation ∨ generation = p.hub.generations.length := by
  have hnew : p.hub.renew.generations = p.hub.generations ++ [({} : Signal)] := rfl
  rw [Runs, hsignals, hnew]
  constructor
  · rintro ⟨signal, hsignal, hraised⟩
    obtain hlt | heq : generation < p.hub.generations.length ∨
        generation = p.hub.generations.length := by
      have hbound := (List.getElem?_eq_some_iff.1 hsignal).1
      rw [List.length_append, List.length_singleton] at hbound
      omega
    · rw [List.getElem?_append_left hlt] at hsignal
      exact .inl ⟨signal, hsignal, hraised⟩
    · exact .inr heq
  · rintro (hruns | rfl)
    · obtain ⟨signal, hsignal, hraised⟩ := hruns
      exact ⟨signal, by rw [List.getElem?_append_left (Runs.lt ⟨signal, hsignal, hraised⟩), hsignal],
        hraised⟩
    · exact ⟨{}, List.getElem?_concat_length, rfl⟩

/-- A start that serves begins a generation. -/
theorem runs_serveNext (p : Instance) (generation : Nat) :
    p.serveNext.Runs generation ↔ p.Runs generation ∨ generation = p.hub.generations.length :=
  runs_renew rfl

/-- A start that fails leaves no generation. -/
theorem runs_attemptInVain (p : Instance) (generation : Nat) :
    p.attemptInVain.Runs generation ↔ p.Runs generation := by
  have hterminate : p.attemptInVain.Runs generation ↔
      ({ p with hub := p.hub.renew } : Instance).Runs generation ∧
        generation ≠ p.hub.generations.length := runs_terminate rfl
  rw [hterminate, runs_renew rfl]
  constructor
  · rintro ⟨hruns | hlast, hne⟩
    · exact hruns
    · exact absurd hlast hne
  · intro hruns
    exact ⟨.inl hruns, Nat.ne_of_lt hruns.lt⟩

/-- A stop ends the generation that is served. -/
theorem runs_withdraw (p : Instance) (ended generation : Nat) :
    (p.withdraw ended).Runs generation ↔ p.Runs generation ∧ generation ≠ ended :=
  runs_terminate rfl

end GpuPassthrough.Instance
