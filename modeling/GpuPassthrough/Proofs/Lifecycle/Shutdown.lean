import GpuPassthrough.Proofs.Lifecycle.Turns

/-!
# After the Stop

Whether a plugin that is stopped for good stays stopped. Once the signal to stop is raised no
watcher begins a restart any more. But a restart that is under way looks at the signal only after an
attempt that failed, so its next attempt may bring the plugin back after it was stopped.

## Main results

* `servesAgain_iff`: exactly when a plugin serves again after it was stopped for good.
* `not_final_of_restartUnderway`: a plugin that was stopped for good can serve.
-/

namespace GpuPassthrough

namespace Deployment

/-! ### Restarts under way -/

/-- Whether a watcher is gone and how far its restart has come. -/
def restartOf? (d : Deployment) (k : Nat) : Option (Bool × Option RestartPhase) :=
  (d.site.watchers[k]?).map fun w => (w.gone, w.restart)

/-- **Watcher `k` carries out a restart** that is not finished. -/
def Restarts (d : Deployment) (k : Nat) : Prop :=
  ∃ phase, d.restartOf? k = some (false, some phase) ∧ phase.result? = none

/-- **Watcher `k` has restarted the plugin.** -/
def Restarted (d : Deployment) (k : Nat) : Prop :=
  ∃ gone, d.restartOf? k = some (gone, some (.finished (.ok ())))

/-- A restart that is under way has not ended well. -/
theorem Restarts.not_restarted {d : Deployment} {k : Nat} (hrestarts : d.Restarts k) :
    ¬ d.Restarted k := by
  obtain ⟨phase, hphase, hresult⟩ := hrestarts
  rintro ⟨gone, hfinished⟩
  rw [hphase] at hfinished
  cases hfinished
  cases hresult

/-- What watchers hear does not change their restarts; a new watcher has none. -/
theorem restartOf?_of_grows {d d' : Deployment} (hgrows : d.site.Grows d'.site) (k : Nat) :
    d'.restartOf? k = d.restartOf? k ∨
      d.restartOf? k = none ∧ d'.restartOf? k = some (false, none) := by
  obtain ⟨s₀, new, hhears, hwatchers, hnew⟩ := hgrows
  rw [restartOf?, restartOf?, hwatchers]
  by_cases hk : k < s₀.watchers.length
  · obtain ⟨w, hw, hhear⟩ := hhears.heard (List.getElem?_eq_getElem hk)
    rw [List.getElem?_append_left hk, List.getElem?_eq_getElem hk, hw]
    exact .inl (by simp [hhear.gone, hhear.restart])
  · have hd : d.site.watchers[k]? = none :=
      List.getElem?_eq_none (hhears.length ▸ Nat.le_of_not_lt hk)
    rw [List.getElem?_append_right (Nat.le_of_not_lt hk), hd]
    cases hw : new[k - s₀.watchers.length]? with
    | none => exact .inl rfl
    | some w =>
      obtain ⟨hthere, hfree⟩ := hnew w (List.mem_of_getElem? hw)
      exact .inr ⟨rfl, by simp [hthere, hfree]⟩

/-- A change of one watcher does not change the restarts of the others. -/
theorem restartOf?_onWatcher_of_ne (d : Deployment) {k j : Nat} (hne : k ≠ j)
    (f : Watcher → Watcher) : (d.onWatcher k f).restartOf? j = d.restartOf? j := by
  rw [restartOf?, restartOf?, watchers_onWatcher_of_ne d hne]

/-- The restart of the watcher that is changed. -/
theorem restartOf?_onWatcher_self {d : Deployment} {k : Nat} {w : Watcher}
    (hw : d.site.watchers[k]? = some w) (f : Watcher → Watcher) :
    (d.onWatcher k f).restartOf? k = some ((f w).gone, (f w).restart) := by
  rw [restartOf?, watchers_onWatcher_self hw, Option.map_some]

/-- A change that keeps the restart of a watcher. -/
theorem restartOf?_onWatcher_of_keeps (d : Deployment) {k : Nat} {f : Watcher → Watcher}
    (hf : ∀ w, (f w).gone = w.gone ∧ (f w).restart = w.restart) (j : Nat) :
    (d.onWatcher k f).restartOf? j = d.restartOf? j := by
  by_cases hne : k = j
  · subst hne
    cases hw : d.site.watchers[k]? with
    | none => simp [restartOf?, onWatcher, hw]
    | some w => rw [restartOf?_onWatcher_self hw, restartOf?, hw, (hf w).1, (hf w).2]; rfl
  · exact restartOf?_onWatcher_of_ne d hne f

/-! ### One move -/

/-- **What a move can do after the signal to stop was raised**, if it is not a start. -/
structure Winds (d d' : Deployment) : Prop where
  /-- The signal stays raised. -/
  raised : d'.plugin.hub.stop.raised = true
  /-- No restart begins. -/
  restarts : ∀ k, d'.Restarts k → d.Restarts k
  /-- A restart that ended well stays so. -/
  kept : ∀ k, d.Restarted k → d'.Restarted k
  /-- Only a restart that was under way makes the plugin serve. -/
  serving : d'.plugin.serving.isSome = true →
    d.plugin.serving.isSome = true ∨ ∃ k, d.Restarts k ∧ d'.Restarted k
  /-- A restart that ends well was under way, and the plugin serves. -/
  restarted : ∀ k, d'.Restarted k →
    d.Restarted k ∨ d.Restarts k ∧ d'.plugin.serving.isSome = true

/-- A move that changes no restart and does not make the plugin serve. -/
theorem Winds.of_eq {d d' : Deployment} (hraised : d'.plugin.hub.stop.raised = true)
    (hserving : d'.plugin.serving.isSome = true → d.plugin.serving.isSome = true)
    (hsame : ∀ k, d'.restartOf? k = d.restartOf? k) : Winds d d' where
  raised := hraised
  restarts k := by rw [Restarts, hsame, Restarts]; exact id
  kept k := by rw [Restarted, Restarted, hsame]; exact id
  serving h := .inl (hserving h)
  restarted k := by rw [Restarted, hsame, Restarted]; exact .inl

/-- A watcher goes. -/
theorem Winds.go {d : Deployment} (hraised : d.plugin.hub.stop.raised = true) {k : Nat}
    {w : Watcher} (hw : d.site.watchers[k]? = some w) :
    Winds d (d.onWatcher k fun w => { w with gone := true }) := by
  have hself := restartOf?_onWatcher_self hw fun w => { w with gone := true }
  have hbefore : d.restartOf? k = some (w.gone, w.restart) := by simp [restartOf?, hw]
  have hiff : ∀ j, (d.onWatcher k fun w => { w with gone := true }).Restarted j ↔
      d.Restarted j := by
    intro j
    by_cases hj : k = j
    · subst hj
      simp [Restarted, hself, hbefore]
    · rw [Restarted, restartOf?_onWatcher_of_ne d hj, Restarted]
  refine ⟨hraised, fun j hj => ?_, fun j => (hiff j).2, .inl, fun j hj => .inl ((hiff j).1 hj)⟩
  by_cases hne : k = j
  · subst hne
    obtain ⟨phase, hphase, -⟩ := hj
    simp [hself] at hphase
  · rwa [Restarts, restartOf?_onWatcher_of_ne d hne] at hj

/-- The restart of watcher `k` goes on, and brings the plugin back or not. -/
theorem Winds.restart {d d₁ : Deployment} {k : Nat} {w : Watcher} {phase next : RestartPhase}
    (hw : d.site.watchers[k]? = some w) (hthere : w.gone = false)
    (hphase : w.restart = some phase) (hunfinished : phase.result? = none)
    (hraised : d₁.plugin.hub.stop.raised = true)
    (hserving : d₁.plugin.serving.isSome = true →
      d.plugin.serving.isSome = true ∨ next = .finished (.ok ()))
    (hserves : next = .finished (.ok ()) → d₁.plugin.serving.isSome = true)
    (hgrows : d.site.Grows d₁.site) :
    Winds d (d₁.onWatcher k fun w => { w with restart := some next }) := by
  have hbefore : d.restartOf? k = some (false, some phase) := by
    simp [restartOf?, hw, hthere, hphase]
  have hrestarts : d.Restarts k := ⟨phase, hbefore, hunfinished⟩
  have hafter : (d₁.onWatcher k fun w => { w with restart := some next }).restartOf? k =
      some (false, some next) := by
    have hsame := (restartOf?_of_grows hgrows k).resolve_right (by simp [hbefore])
    obtain ⟨w₁, hw₁, hpair⟩ := Option.map_eq_some_iff.1 (hsame.trans hbefore)
    rw [restartOf?_onWatcher_self hw₁, (Prod.mk.inj hpair).1]
  have hothers : ∀ {j : Nat} {gone : Bool} {other : RestartPhase}, k ≠ j →
      ((d₁.onWatcher k fun w => { w with restart := some next }).restartOf? j =
        some (gone, some other) ↔ d.restartOf? j = some (gone, some other)) := by
    intro j gone other hne
    rw [restartOf?_onWatcher_of_ne d₁ hne]
    rcases restartOf?_of_grows hgrows j with hsame | ⟨hnone, hnew⟩
    · rw [hsame]
    · simp [hnone, hnew]
  refine ⟨hraised, fun j hj => ?_, fun j hj => ?_, fun hserves' => ?_, fun j hj => ?_⟩
  · by_cases hne : k = j
    · exact hne ▸ hrestarts
    · obtain ⟨other, hother, hresult⟩ := hj
      exact ⟨other, (hothers hne).1 hother, hresult⟩
  · obtain ⟨gone, hfinished⟩ := hj
    by_cases hne : k = j
    · subst hne
      exact absurd ⟨gone, hfinished⟩ hrestarts.not_restarted
    · exact ⟨gone, (hothers hne).2 hfinished⟩
  · rcases hserving hserves' with hserved | rfl
    · exact .inl hserved
    · exact .inr ⟨k, hrestarts, false, hafter⟩
  · obtain ⟨gone, hfinished⟩ := hj
    by_cases hne : k = j
    · subst hne
      rw [hafter] at hfinished
      exact .inr ⟨hrestarts, hserves (by simpa using (Prod.mk.inj (Option.some.inj hfinished)).2)⟩
    · exact .inl ⟨gone, (hothers hne).1 hfinished⟩

/-- **Every move but a start winds down** once the signal to stop is raised. -/
theorem winds_of_move? {d d' : Deployment} {m : DeploymentMove}
    (hraised : d.plugin.hub.stop.raised = true) (hm : m ≠ .start)
    (hmove : d.move? m = some d') : Winds d d' := by
  have hheard : ∀ {s : Site}, d.site.Hears s → ∀ k,
      restartOf? { d with site := s } k = d.restartOf? k := by
    intro s hhears k
    have hgrows : d.site.Grows ({ d with site := s } : Deployment).site := hhears.grows
    rcases restartOf?_of_grows hgrows k with hsame | ⟨hd, hnew⟩
    · exact hsame
    · have hnone : s.watchers[k]? = none := by
        rw [restartOf?, Option.map_eq_none_iff, List.getElem?_eq_none_iff] at hd
        exact List.getElem?_eq_none (hhears.length.symm ▸ hd)
      rw [restartOf?, hnone] at hnew
      cases hnew
  have hraised' : d'.plugin.hub.stop.raised = true := by
    rcases stop_of_move? hmove with hsame | hhalted
    · rw [hsame, hraised]
    · rw [hhalted]
  cases acts_of_move? hmove with
  | hub hgoes => exact .of_eq hraised' id fun _ => rfl
  | site hhears => exact .of_eq hraised' id (hheard hhears)
  | start hstarts => exact absurd rfl hm
  | beginStop hserving => exact .of_eq hraised' (by simp [Instance.withdraw]) fun _ => rfl
  | endStop hhears hsame =>
    rcases hsame with rfl | rfl
    · exact .of_eq hraised' id (hheard hhears)
    · exact .of_eq hraised' id (hheard hhears)
  | @resume k left w e hw hthere hphase =>
    refine .restart hw hthere hphase rfl hraised' .inl ?_ (Site.hears_of_eq rfl).grows
    cases left <;> simp [RestartPhase.resume]
  | turn hw hthere hturn =>
    cases hturn with
    | go hend => exact .go hraised hw
    | handOn hfree hpending hlive hoffer =>
      exact .of_eq hraised' id (restartOf?_onWatcher_of_keeps (onHub d _) fun _ => ⟨rfl, rfl⟩)
    | look hfree hpending hinbox hlive =>
      simp [Hub.isOver, Signal.isUp, hraised] at hlive
    | restart hphase hsteps =>
      obtain ⟨hunfinished, -, hserving, hserves, hgrows⟩ := hsteps.effect
      exact .restart hw hthere hphase hunfinished hraised' hserving hserves hgrows

/-! ### Runs -/

/-- What a run can do after the signal to stop was raised, if nobody starts the plugin. -/
theorem winds_down {d d' : Deployment} {moves : List DeploymentMove}
    (hraised : d.plugin.hub.stop.raised = true) (hmoves : .start ∉ moves)
    (hrun : d.run? moves = some d') :
    (∀ k, d.Restarted k → d'.Restarted k) ∧
      ∀ k, d'.Restarted k → d.Restarted k ∨ d.Restarts k := by
  induction moves generalizing d with
  | nil =>
    cases hrun
    exact ⟨fun _ => id, fun _ => .inl⟩
  | cons m moves ih =>
    obtain ⟨hm, hrest⟩ := not_or.1 (List.mem_cons.not.1 hmoves)
    obtain ⟨d₁, hmove, hthen⟩ := Option.bind_eq_some_iff.1 hrun
    have hwinds := winds_of_move? hraised (Ne.symm hm) hmove
    obtain ⟨hkept, horigin⟩ := ih hwinds.raised hrest hthen
    refine ⟨fun k hk => hkept k (hwinds.kept k hk), fun k hk => ?_⟩
    rcases horigin k hk with hrestarted | hrestarts
    · exact (hwinds.restarted k hrestarted).imp_right And.left
    · exact .inr (hwinds.restarts k hrestarts)

/-- A run on the way of which the plugin serves: it did so at the start, or a restart that was under
way then has ended well. -/
theorem passes_serving_iff {d d' : Deployment} {moves : List DeploymentMove}
    (hraised : d.plugin.hub.stop.raised = true) (hmoves : .start ∉ moves)
    (hrun : d.run? moves = some d') :
    d.Passes moves (fun now => now.plugin.serving.isSome = true) ↔
      d.plugin.serving.isSome = true ∨ ∃ k, d.Restarts k ∧ d'.Restarted k := by
  induction moves generalizing d with
  | nil =>
    cases hrun
    rw [passes_nil]
    constructor
    · exact .inl
    · rintro (hserving | ⟨k, hrestarts, hrestarted⟩)
      · exact hserving
      · exact absurd hrestarted hrestarts.not_restarted
  | cons m moves ih =>
    obtain ⟨hm, hrest⟩ := not_or.1 (List.mem_cons.not.1 hmoves)
    obtain ⟨d₁, hmove, hthen⟩ := Option.bind_eq_some_iff.1 hrun
    have hwinds := winds_of_move? hraised (Ne.symm hm) hmove
    obtain ⟨hkept, horigin⟩ := winds_down hwinds.raised hrest hthen
    rw [passes_cons hmove, ih hwinds.raised hrest hthen]
    constructor
    · rintro (hserving | hserving | ⟨k, hrestarts, hrestarted⟩)
      · exact .inl hserving
      · rcases hwinds.serving hserving with hserved | ⟨k, hrestarts, hrestarted⟩
        · exact .inl hserved
        · exact .inr ⟨k, hrestarts, hkept k hrestarted⟩
      · exact .inr ⟨k, hwinds.restarts k hrestarts, hrestarted⟩
    · rintro (hserving | ⟨k, hrestarts, hrestarted⟩)
      · exact .inl hserving
      · rcases horigin k hrestarted with hended | hunder
        · rcases hwinds.restarted k hended with hbefore | ⟨-, hserving⟩
          · exact absurd hbefore hrestarts.not_restarted
          · exact .inr (.inl hserving)
        · exact .inr (.inr ⟨k, hunder, hrestarted⟩)

/-- **Exactly when a plugin serves again** after it was stopped for good: when a restart that was
under way at the stop ends well. -/
theorem servesAgain_iff {d d' : Deployment} {moves : List DeploymentMove}
    (hraised : d.plugin.hub.stop.raised = true) (hmoves : .start ∉ moves)
    (hrun : d.beginStop.run? moves = some d') :
    d.beginStop.Passes moves (fun now => now.plugin.serving.isSome = true) ↔
      ∃ k, d.Restarts k ∧ d'.Restarted k := by
  have hstopped : d.beginStop.plugin.hub.stop.raised = true := by rw [stop_beginStop, hraised]
  have hsame : ∀ k, d.beginStop.Restarts k ↔ d.Restarts k := by
    intro k
    rw [Restarts, Restarts, restartOf?, restartOf?, site_beginStop]
  rw [passes_serving_iff hstopped hmoves hrun, serving_beginStop]
  simp [hsame]

/-! ### A plugin that comes back -/

/-- A plugin serves, someone removes its socket, its watcher begins a restart, and the signal to stop
is raised. -/
def restartUnderway : List DeploymentMove :=
  [.startKubelet, .start, .removeSocket, .watcher 0, .halt]

/-- A stop clears up, and the restart goes on: there is nothing to stop, and the attempt succeeds.
The watchers go. -/
def restartGoesOn : List DeploymentMove :=
  [.endStop, .watcher 0, .watcher 0, .watcher 0, .watcher 1]

/-- The plugin is stopped between the two. -/
theorem exists_run?_restartGoesOn :
    ∃ d d', single.run? restartUnderway = some d ∧ d.plugin.hub.stop.raised = true ∧
      d.beginStop.run? restartGoesOn = some d' ∧ d'.plugin.serving.isSome = true ∧
      d'.next? = none := by
  have hrun : ((single.run? restartUnderway).bind fun d =>
      (d.beginStop.run? restartGoesOn).map fun d' =>
        (d.plugin.hub.stop.raised, d'.plugin.serving.isSome, d'.next?.isNone)) =
      some (true, true, true) := by decide +kernel
  obtain ⟨d, hd, hthen⟩ := Option.bind_eq_some_iff.1 hrun
  obtain ⟨d', hd', hall⟩ := Option.map_eq_some_iff.1 hthen
  obtain ⟨hraised, hserving, hnext⟩ : d.plugin.hub.stop.raised = true ∧
      d'.plugin.serving.isSome = true ∧ d'.next?.isNone = true := by simpa using hall
  exact ⟨d, d', hd, hraised, hd', hserving, Option.isNone_iff_eq_none.1 hnext⟩

/-- The condition at this run. -/
theorem servesAgain_iff_restartGoesOn :
    ∃ d d', single.run? restartUnderway = some d ∧ d.plugin.hub.stop.raised = true ∧
      .start ∉ restartGoesOn ∧ d.beginStop.run? restartGoesOn = some d' ∧
      (d.beginStop.Passes restartGoesOn (fun now => now.plugin.serving.isSome = true) ↔
        ∃ k, d.Restarts k ∧ d'.Restarted k) := by
  obtain ⟨d, d', hd, hraised, hd', -, -⟩ := exists_run?_restartGoesOn
  have hmoves : .start ∉ restartGoesOn := by decide
  exact ⟨d, d', hd, hraised, hmoves, hd', servesAgain_iff hraised hmoves hd'⟩

/-- **Not every stop for good is final**: a plugin can serve after its stop has cleared up, even
where nothing is left to do that would end it. -/
theorem not_final_of_restartUnderway :
    ¬ ∀ (before after : List DeploymentMove) (d d' : Deployment), single.run? before = some d →
        d.plugin.hub.stop.raised = true → .start ∉ after →
        d.beginStop.run? (.endStop :: after) = some d' → d'.next? = none →
        d'.plugin.serving = none := by
  intro hfinal
  obtain ⟨d, d', hd, hraised, hd', hserving, hnext⟩ := exists_run?_restartGoesOn
  have hnone := hfinal restartUnderway restartGoesOn.tail d d' hd hraised (by decide) hd' hnext
  simp [hnone] at hserving

end Deployment

end GpuPassthrough
