import GpuPassthrough.Proofs.Lifecycle.Generations
import GpuPassthrough.Proofs.Lifecycle.Wiring

/-!
# What the Watcher on Duty Knows

A watcher is told of every change that is made while it is there. What it has heard and not handed
on, after the events that the queue has accepted, are its prospects: the health that is to be
expected of a unit. Once the node of a unit has changed since the server started, they are what the
node tells; until then they are what the queue had accepted at the start.

## Main results

* `Minds.prospect?`: how a move changes the prospects.
* `Owes.unique`: a deployment that serves owes its server to one start.
* `informed_run?`: in every run whose changes are reported the watcher on duty is informed.
-/

namespace GpuPassthrough

/-- The health that is to be expected of a unit when its watcher has handed on all that it has
heard, after the events that the queue has accepted. -/
def Watcher.prospect? (w : Watcher) (accepted : List HealthEvent) (key : String) : Option Health :=
  latest? key (accepted ++ w.pending ++ w.inbox.flatMap (w.targets.healthEvents .empty))

namespace Deployment

/-! ### Nodes and reports -/

/-- The path of the node of a unit. -/
def nodePath (d : Deployment) (key : String) : String := Path.join d.plugin.deviceRoot key

/-- Whether the node of a unit is there. -/
def hasNode (d : Deployment) (key : String) : Bool := d.site.tree.isPresent (d.nodePath key)

/-- The health that the node of a unit tells. -/
def nodeHealth (d : Deployment) (key : String) : Health :=
  if d.hasNode key then .healthy else .unhealthy

/-- What has happened to the node of a unit. -/
def changeOf (d d' : Deployment) (key : String) : List FileChange :=
  if d'.hasNode key = d.hasNode key then []
  else [if d'.hasNode key then .created else .removed]

/-- **Changes are reported** to every watcher that is there: what comes in about the node of a unit
is what has happened to it. -/
def Tells (d d' : Deployment) : Prop :=
  ∀ pair ∈ d.site.watchers.zip d'.site.watchers, pair.1.gone = false → ∀ key ∈ d.keys,
    changesAt (d.nodePath key) (pair.2.inbox.drop pair.1.inbox.length) = d.changeOf d' key

instance (d d' : Deployment) : Decidable (d.Tells d') :=
  inferInstanceAs (Decidable (∀ pair ∈ d.site.watchers.zip d'.site.watchers, _ → ∀ key ∈ d.keys, _))

/-- **Every change on the way of a run is reported.** -/
def IsReported (d : Deployment) : List DeploymentMove → Prop
  | [] => True
  | m :: moves => ∀ d', d.move? m = some d' → d.Tells d' ∧ d'.IsReported moves

/-- Whether every change is reported can be found out. -/
instance decidableIsReported :
    (d : Deployment) → (moves : List DeploymentMove) → Decidable (d.IsReported moves)
  | _, [] => isTrue trivial
  | d, m :: moves =>
    match hmove : d.move? m with
    | none => isTrue fun _ hmove' => nomatch hmove.symm.trans hmove'
    | some d' =>
      have := decidableIsReported d' moves
      decidable_of_iff (d.Tells d' ∧ d'.IsReported moves)
        ⟨fun h _ hmove' => Option.some.inj (hmove.symm.trans hmove') ▸ h, fun h => h d' hmove⟩

/-- In a run whose changes are reported, each move reports its own. -/
theorem isReported_concat {d₀ d : Deployment} {moves : List DeploymentMove} {m : DeploymentMove}
    (hreported : d₀.IsReported (moves ++ [m])) (hrun : d₀.run? moves = some d) :
    d₀.IsReported moves ∧ ∀ d', d.move? m = some d' → d.Tells d' := by
  induction moves generalizing d₀ with
  | nil =>
    cases hrun
    exact ⟨trivial, fun d' hmove => (hreported d' hmove).1⟩
  | cons first moves ih =>
    obtain ⟨d₁, hmove, hthen⟩ := Option.bind_eq_some_iff.1 hrun
    obtain ⟨htells, hrest⟩ := hreported d₁ hmove
    obtain ⟨hbefore, hlast⟩ := ih hrest hthen
    refine ⟨fun d' hmove' => ?_, hlast⟩
    obtain rfl := Option.some.inj (hmove.symm.trans hmove')
    exact ⟨htells, hbefore⟩

/-- What a watcher that is there hears of a node. -/
theorem Tells.changesAt_eq {d d' : Deployment} (htells : d.Tells d') {k : Nat} {w w' : Watcher}
    (hw : d.site.watchers[k]? = some w) (hw' : d'.site.watchers[k]? = some w')
    (hthere : w.gone = false) {key : String} (hkey : key ∈ d.keys) :
    changesAt (d.nodePath key) (w'.inbox.drop w.inbox.length) = d.changeOf d' key := by
  have hpair : (d.site.watchers.zip d'.site.watchers)[k]? = some (w, w') :=
    List.getElem?_zip_eq_some.2 ⟨hw, hw'⟩
  exact htells _ (List.mem_of_getElem? hpair) hthere key hkey

/-! ### The prospects of the watcher on duty -/

/-- What a change of its node tells of a unit. -/
theorem getLast?_changeOf (d d' : Deployment) (key : String) :
    ((d.changeOf d' key).getLast?).map FileChange.health =
      if d'.hasNode key = d.hasNode key then none else some (d'.nodeHealth key) := by
  rw [changeOf, nodeHealth]
  by_cases hsame : d'.hasNode key = d.hasNode key
  · simp [hsame]
  · simp only [if_neg hsame, List.getLast?_singleton, Option.map_some]
    cases d'.hasNode key <;> rfl

/-- **The watcher on duty keeps up**: after a move it is about to restart the plugin, or its
prospects are what has happened to the node, if anything has. -/
theorem Minds.prospect? {d d' : Deployment} {w w' : Watcher} (hminds : Minds d d' w w')
    (htargets : w.targets = d.targets) (hplain : ∀ e ∈ w.inbox, e.IsPlain)
    (hapart : NodesApart d.plugin.deviceRoot d.keys d.plugin.socketPath) {key : String}
    (hkey : key ∈ d.keys)
    (hnews : changesAt (d.nodePath key) (w'.inbox.drop w.inbox.length) = d.changeOf d' key) :
    w'.restart = some .stopping ∨
      w'.prospect? d'.plugin.hub.accepted key =
        if d'.hasNode key = d.hasNode key then w.prospect? d.plugin.hub.accepted key
        else some (d'.nodeHealth key) := by
  have hquiet : w'.inbox.drop w.inbox.length = [] → d'.hasNode key = d.hasNode key := by
    intro hnone
    rw [hnone, changeOf] at hnews
    by_contra hdiffers
    rw [if_neg hdiffers] at hnews
    cases hnews
  cases hminds with
  | hears haccepted hhears =>
    right
    obtain ⟨news, hinbox, hplain'⟩ := hhears.inbox
    have hlatest : latest? key (news.flatMap (d.targets.healthEvents .empty)) =
        if d'.hasNode key = d.hasNode key then none else some (d'.nodeHealth key) := by
      rw [hinbox, List.drop_left] at hnews
      rw [targets, WatchTargets.latest?_flatMap_healthEvents hapart hkey _ hplain',
        ← getLast?_changeOf, ← hnews]
      rfl
    rw [Watcher.prospect?, Watcher.prospect?, haccepted, hhears.pending, hhears.targets, hinbox,
      htargets, List.flatMap_append, ← List.append_assoc, latest?_append, hlatest]
    split <;> rfl
  | @handsOn e rest hpending haccepted =>
    right
    rw [if_pos (hquiet (List.drop_length))]
    simp [Watcher.prospect?, haccepted, hpending]
  | @looks e rest hpending hinbox haccepted =>
    have hrest : (look d.site.tree w e rest).inbox = rest := by
      rcases look_cases d.site.tree w e rest with hlook | hlook <;> rw [hlook]
    have hsame : d'.hasNode key = d.hasNode key := by
      refine hquiet ?_
      rw [hrest, hinbox]
      exact List.drop_eq_nil_of_le (Nat.le_succ _)
    rcases look_cases d.site.tree w e rest with hlook | hlook
    · exact .inl (by rw [hlook])
    · right
      have he : e.IsPlain := hplain e (hinbox ▸ List.mem_cons_self)
      rw [if_pos hsame, hlook, Watcher.prospect?, Watcher.prospect?, haccepted, hpending, hinbox,
        List.flatMap_cons, w.targets.healthEvents_congr he d.site.tree .empty]
      simp

/-! ### Since the server started -/

/-- **The start to which a deployment owes its server**, and the moves since then: it led to `d₁`,
and the plugin has served the same generation ever since. -/
structure Owes (d₀ : Deployment) (moves : List DeploymentMove) (d₁ : Deployment)
    (since : List DeploymentMove) (d : Deployment) : Prop where
  started : ∃ before m e, moves = before ++ m :: since ∧ d₀.run? before = some e ∧
    e.plugin.serving = none ∧ e.move? m = some d₁
  run : d₁.run? since = some d
  serves : ¬ d₁.Passes since fun now => now.plugin.serving ≠ d.plugin.serving

/-- A deployment that serves has not been idle since the start to which it owes its server. -/
theorem Owes.not_idle {d₀ d₁ d e : Deployment} {moves since mid : List DeploymentMove}
    (howes : Owes d₀ moves d₁ since d) {generation : Nat}
    (hserving : d.plugin.serving = some generation) (hmid : mid <+: since)
    (hrun : d₁.run? mid = some e) : e.plugin.serving ≠ none := by
  intro hidle
  exact howes.serves ⟨mid, e, hmid, hrun, by simp [hidle, hserving]⟩

/-- **A deployment that serves owes its server to one start.** -/
theorem Owes.unique {d₀ d₁ d₂ d : Deployment} {moves since₁ since₂ : List DeploymentMove}
    (h₁ : Owes d₀ moves d₁ since₁ d) (h₂ : Owes d₀ moves d₂ since₂ d) {generation : Nat}
    (hserving : d.plugin.serving = some generation) : d₁ = d₂ ∧ since₁ = since₂ := by
  obtain ⟨before₁, m₁, e₁, hmoves₁, hrun₁, hidle₁, hmove₁⟩ := h₁.started
  obtain ⟨before₂, m₂, e₂, hmoves₂, hrun₂, hidle₂, hmove₂⟩ := h₂.started
  -- The later of two starts would be one of a plugin that serves.
  rcases List.append_eq_append_iff.1 (hmoves₁.symm.trans hmoves₂) with
    ⟨mid, rfl, hrest⟩ | ⟨mid, rfl, hrest⟩ <;>
    rcases List.cons_eq_append_iff.1 hrest with ⟨rfl, hsame⟩ | ⟨rest, rfl, rfl⟩
  · cases hsame
    rw [List.append_nil] at hrun₂
    obtain rfl := Option.some.inj (hrun₁.symm.trans hrun₂)
    exact ⟨Option.some.inj (hmove₁.symm.trans hmove₂), rfl⟩
  · rw [run?_append, hrun₁, Option.bind_some, run?_cons, hmove₁, Option.bind_some] at hrun₂
    exact absurd hidle₂ (h₁.not_idle hserving (List.prefix_append _ _) hrun₂)
  · cases hsame
    rw [List.append_nil] at hrun₁
    obtain rfl := Option.some.inj (hrun₁.symm.trans hrun₂)
    exact ⟨Option.some.inj (hmove₁.symm.trans hmove₂), rfl⟩
  · rw [run?_append, hrun₂, Option.bind_some, run?_cons, hmove₂, Option.bind_some] at hrun₁
    exact absurd hidle₁ (h₂.not_idle hserving (List.prefix_append _ _) hrun₁)

/-- A deployment that goes on serving owes its server to the same start. -/
theorem Owes.concat {d₀ d₁ d d' : Deployment} {moves since : List DeploymentMove}
    {m : DeploymentMove} (howes : Owes d₀ moves d₁ since d) (hmove : d.move? m = some d')
    (hserving : d'.plugin.serving = d.plugin.serving) :
    Owes d₀ (moves ++ [m]) d₁ (since ++ [m]) d' where
  started := by
    obtain ⟨before, first, e, rfl, hrun, hidle, hfirst⟩ := howes.started
    exact ⟨before, first, e, by simp, hrun, hidle, hfirst⟩
  run := by
    rw [run?_append, howes.run, Option.bind_some, run?_cons, hmove]
    rfl
  serves := by
    rw [passes_concat howes.run hmove, hserving]
    exact not_or.2 ⟨howes.serves, not_not.2 rfl⟩

/-- The node of a unit is not always as it was at the start of the server. -/
def Changed (d₁ : Deployment) (since : List DeploymentMove) (key : String) : Prop :=
  d₁.Passes since fun now => now.hasNode key ≠ d₁.hasNode key

/-- **What the watcher on duty knows**: it is about to restart the plugin, or its prospects are what
the node of a unit tells, if that has changed since the server started, and otherwise what the queue
had accepted by then. -/
def Informed (d₁ : Deployment) (since : List DeploymentMove) (d : Deployment) (w : Watcher) : Prop :=
  w.restart = some .stopping ∨ ∀ key ∈ d₁.keys,
    (Changed d₁ since key →
      w.prospect? d.plugin.hub.accepted key = some (d.nodeHealth key)) ∧
    (¬ Changed d₁ since key →
      w.prospect? d.plugin.hub.accepted key = latest? key d₁.plugin.hub.accepted)

/-- When the server has just started. -/
theorem informed_of_begins {d d₁ : Deployment} {generation : Nat}
    (hbegins : Begins d d₁ generation) :
    ∃ (k : Nat) (w : Watcher), d₁.site.watchers[k]? = some w ∧ w.generation = generation ∧
      Informed d₁ [] d₁ w := by
  obtain ⟨-, -, w, hw, hgeneration, -, hpending, hinbox⟩ := hbegins
  refine ⟨_, w, hw, hgeneration, .inr fun key _ => ⟨fun hchanged => ?_, fun _ => ?_⟩⟩
  · exact absurd rfl (passes_nil.1 hchanged)
  · simp [Watcher.prospect?, hpending, hinbox]

/-- A watcher that is about to restart the plugin stays so while it minds its generation. -/
theorem Minds.stopping {d d' : Deployment} {w w' : Watcher} (hminds : Minds d d' w w')
    (hstopping : w.restart = some .stopping) : w'.restart = some .stopping := by
  cases hminds with
  | hears _ hhears => rw [hhears.restart, hstopping]
  | handsOn _ _ => exact hstopping
  | @looks e rest _ _ _ =>
    rcases look_cases d.site.tree w e rest with hlook | hlook
    · rw [hlook]
    · rw [hlook, hstopping]

/-- A watcher stays with its generation. -/
theorem Minds.generation {d d' : Deployment} {w w' : Watcher} (hminds : Minds d d' w w') :
    w'.generation = w.generation := by
  cases hminds with
  | hears _ hhears => exact hhears.generation
  | handsOn _ _ => rfl
  | @looks e rest _ _ _ =>
    rcases look_cases d.site.tree w e rest with hlook | hlook <;> rw [hlook]

/-- **A move of a deployment that serves** keeps the watcher on duty informed. -/
theorem Informed.minds {d₁ d d' : Deployment} {since : List DeploymentMove} {m : DeploymentMove}
    {w w' : Watcher} (hinformed : Informed d₁ since d w) (hrun : d₁.run? since = some d)
    (hmove : d.move? m = some d') (hminds : Minds d d' w w') (hkeys : d.keys = d₁.keys)
    (htargets : w.targets = d.targets) (hplain : ∀ e ∈ w.inbox, e.IsPlain)
    (hapart : NodesApart d.plugin.deviceRoot d.keys d.plugin.socketPath)
    (hnews : ∀ key ∈ d.keys,
      changesAt (d.nodePath key) (w'.inbox.drop w.inbox.length) = d.changeOf d' key) :
    Informed d₁ (since ++ [m]) d' w' := by
  by_cases hstopping : w'.restart = some .stopping
  · exact .inl hstopping
  have hknows := hinformed.resolve_left fun h => hstopping (hminds.stopping h)
  refine .inr fun key hkey => ?_
  have hkey' : key ∈ d.keys := hkeys ▸ hkey
  have hprospect := (hminds.prospect? htargets hplain hapart hkey' (hnews key hkey')).resolve_left
    hstopping
  obtain ⟨hchanged, hunchanged⟩ := hknows key hkey
  rw [Changed, passes_concat hrun hmove]
  by_cases hsame : d'.hasNode key = d.hasNode key
  · -- The move leaves the node alone, so it changes nothing about what the watcher knows.
    rw [hprospect, if_pos hsame, nodeHealth, hsame]
    have hend : d.hasNode key ≠ d₁.hasNode key → Changed d₁ since key :=
      fun hne => passes_of_end hrun hne
    refine ⟨fun h => hchanged (h.elim id hend), fun h => hunchanged fun h' => h (.inl h')⟩
  · rw [hprospect, if_neg hsame]
    refine ⟨fun _ => rfl, fun h => absurd ?_ hsame⟩
    -- A node that is as it was at the start before and after the move was left alone.
    have hbefore : d.hasNode key = d₁.hasNode key := by
      by_contra hne
      exact h (.inl (passes_of_end hrun hne))
    have hafter : d'.hasNode key = d₁.hasNode key := by
      by_contra hne
      exact h (.inr hne)
    exact hafter.trans hbefore.symm

/-- **In every run whose changes are reported the watcher on duty is informed.** -/
theorem informed_run? {d₀ d : Deployment} {moves : List DeploymentMove} {generation : Nat}
    (hnew : d₀.IsNew)
    (hapart : NodesApart d₀.plugin.deviceRoot d₀.keys d₀.plugin.socketPath)
    (hrun : d₀.run? moves = some d) (hreported : d₀.IsReported moves)
    (hserving : d.plugin.serving = some generation)
    (hstop : d.plugin.hub.stop.isUp = false) :
    ∃ (d₁ : Deployment) (since : List DeploymentMove) (k : Nat) (w : Watcher),
      Owes d₀ moves d₁ since d ∧ d.site.watchers[k]? = some w ∧ w.generation = generation ∧
        Informed d₁ since d w := by
  induction moves using List.reverseRecOn generalizing d with
  | nil =>
    cases hrun
    rw [hnew.idle] at hserving
    cases hserving
  | append_singleton moves m ih =>
    rw [run?_append] at hrun
    obtain ⟨e, hbefore, hlast⟩ := Option.bind_eq_some_iff.1 hrun
    obtain ⟨d', hmove, hend⟩ := Option.bind_eq_some_iff.1 hlast
    cases hend
    obtain ⟨hreported', htells⟩ := isReported_concat hreported hbefore
    rcases serving_or_begins_of_move? hmove hserving with hserved | hbegins
    · -- The server was there before the move.
      obtain ⟨d₁, since, k, w, howes, hw, rfl, hinformed⟩ :=
        ih hbefore hreported' hserved (isUp_of_move? hmove hstop)
      have hmanned := manned_run? hnew.idle hnew.unwatched hbefore
      have hwired := wired_run? hnew hbefore
      obtain ⟨w', hw', hminds⟩ := minds_of_move? hmanned hmove hw hserved hserving hstop
      have hthere : w.gone = false := by
        obtain ⟨-, -, hgone⟩ := hmanned.duty hw hserved
        by_contra hne
        rw [isUp_of_move? hmove hstop] at hgone
        exact absurd (hgone (by simpa using hne)) Bool.false_ne_true
      obtain ⟨before, first, e₀, -, hrun₀, -, hfirst⟩ := howes.started
      have hwired₁ : Wired d₀ d₁ := (wired_run? hnew hrun₀).move? hfirst
      have hapart' : NodesApart e.plugin.deviceRoot e.keys e.plugin.socketPath := by
        rwa [hwired.deviceRoot, hwired.keys_eq, hwired.socketPath]
      have hinformed' : Informed d₁ (since ++ [m]) d w' :=
        hinformed.minds howes.run hmove hminds (hwired.keys_eq.trans hwired₁.keys_eq.symm)
          ((hwired.targets hw).trans hwired.targets_eq.symm) (hwired.plain hw) hapart'
          fun key hkey => (htells d hmove).changesAt_eq hw hw' hthere hkey
      have howes' := howes.concat hmove (hserving.trans hserved.symm)
      exact ⟨d₁, since ++ [m], k, w', howes', hw', hminds.generation, hinformed'⟩
    · obtain ⟨k, w, hw, hgeneration, hinformed⟩ := informed_of_begins hbegins
      have hserves : ¬ d.Passes [] fun now => now.plugin.serving ≠ d.plugin.serving :=
        fun h => passes_nil.1 h rfl
      exact ⟨d, [], k, w, ⟨⟨moves, m, e, rfl, hbefore, hbegins.1, hmove⟩, rfl, hserves⟩, hw,
        hgeneration, hinformed⟩

end Deployment

end GpuPassthrough
