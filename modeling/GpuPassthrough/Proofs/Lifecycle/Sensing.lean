import GpuPassthrough.Proofs.Lifecycle.Prospects
import GpuPassthrough.Proofs.Session.Rest

/-!
# Health and Nodes

Whether the health of the units follows their nodes while the plugin is stopped, started and
restarted. A watcher hears of every change that is made while it watches, but nothing compares the
units with the directory when a server starts. So a change that is made between two servers goes
unnoticed until the node changes once more.

## Main results

* `agrees_iff`: exactly when a unit is healthy if and only if its node is there.
* `not_agrees_gap`: a unit can be healthy without a node.
-/

namespace GpuPassthrough

/-- The health that a unit will have once all events were applied that the queue has accepted. -/
def Hub.foreseen? (h : Hub) (key : String) : Option Health :=
  healthOf? (unitsAfter h.units (h.taken ++ h.queue.toList)) key

/-- Where no session can move, no event is taken and not applied. -/
theorem Hub.IsQuiet.taken_eq_nil {h : Hub} (hquiet : h.IsQuiet) : h.taken = [] := by
  rw [taken, List.filterMap_eq_nil_iff]
  intro p hp
  obtain ⟨i, hi⟩ := List.getElem?_of_mem hp
  rw [phases_getElem?] at hi
  obtain ⟨s, hs, rfl⟩ := Option.map_eq_some_iff.1 hi
  cases hquiet.atRest hs with
  | ended hphase | behind hphase _ _ | idle hphase _ _ | blocked _ hphase _ _ => rw [hphase]; rfl

namespace Deployment

/-! ### At rest -/

/-- **Nothing moves on its own**: every session and every watcher waits, has ended or is gone. Clients
may still have lists to read, and a restart may pause. -/
structure IsQuiet (d : Deployment) : Prop where
  sessions : ∀ i, d.advanceSession? i = none
  watchers : ∀ k, d.advanceWatcher? k = none

/-- Where nothing moves on its own, no session can move. -/
theorem IsQuiet.hub {d : Deployment} (hquiet : d.IsQuiet) : d.plugin.hub.IsQuiet :=
  fun i => Option.map_eq_none_iff.1 (hquiet.sessions i)

/-- Where nothing moves and the queue has room, the watcher on duty has nothing left to do. -/
theorem IsQuiet.watcher {d : Deployment} (hquiet : d.IsQuiet) (hmanned : d.Manned)
    (hempty : d.plugin.hub.queue = none) (hstop : d.plugin.hub.stop.isUp = false) {k : Nat}
    {w : Watcher} (hw : d.site.watchers[k]? = some w)
    (hserving : d.plugin.serving = some w.generation) :
    w.restart = none ∧ w.pending = [] ∧ w.inbox = [] := by
  have hwaits := hquiet.watchers k
  obtain ⟨-, hrestart, hgone⟩ := hmanned.duty hw hserving
  obtain ⟨hlive, -⟩ := hmanned.served hserving
  have hthere : w.gone = false := by
    by_contra hne
    rw [hgone (by simpa using hne)] at hstop
    cases hstop
  have hover : d.plugin.hub.isOver w.generation = false := by simp [Hub.isOver, hstop, hlive]
  rw [advanceWatcher?, hw] at hwaits
  rcases hrestart with hnone | hstopping
  · cases hpending : w.pending with
    | cons e rest =>
      simp [hthere, hnone, hpending, hlive, Hub.offer?, hempty] at hwaits
    | nil =>
      cases hinbox : w.inbox with
      | cons e rest => simp [hthere, hnone, hpending, hinbox, hover] at hwaits
      | nil => exact ⟨hnone, rfl, rfl⟩
  · simp [hthere, hstopping, advanceRestart?, RestartPhase.step?, Instance.withdraw?, hserving]
      at hwaits

/-- At rest the units have the health of the last events that the queue has accepted. -/
theorem healthOf?_of_quiet {d₀ d : Deployment} (hwired : Wired d₀ d)
    (hquiet : d.plugin.hub.IsQuiet) (hempty : d.plugin.hub.queue = none) (key : String) :
    healthOf? d.plugin.hub.units key = (healthOf? d₀.plugin.hub.units key).map fun health =>
      (latest? key d.plugin.hub.accepted).getD health := by
  have haccepted : d.plugin.hub.accepted = d.plugin.hub.applied.map Prod.snd := by
    rw [hwired.conserved, hquiet.taken_eq_nil, hempty]
    simp
  rw [hwired.units, healthOf?_unitsAfter, haccepted]

/-- The health that is foreseen is that of the last events that the queue has accepted. -/
theorem foreseen?_eq {d₀ d : Deployment} (hwired : Wired d₀ d) (key : String) :
    d.plugin.hub.foreseen? key = (healthOf? d₀.plugin.hub.units key).map fun health =>
      (latest? key d.plugin.hub.accepted).getD health := by
  rw [Hub.foreseen?, hwired.units, ← unitsAfter_append, healthOf?_unitsAfter, hwired.conserved,
    List.append_assoc]

/-- **Exactly when health follows the nodes**: at rest a unit is healthy if and only if its node is
there, exactly if the node has changed since the server started, or if then, as far as the queue had
accepted events, the unit was healthy if and only if its node was there. There is such a start. -/
theorem agrees_iff {d₀ d : Deployment} {moves : List DeploymentMove} {generation : Nat}
    (hnew : d₀.IsNew) (hnodup : d₀.keys.Nodup)
    (hapart : NodesApart d₀.plugin.deviceRoot d₀.keys d₀.plugin.socketPath)
    (hrun : d₀.run? moves = some d) (hreported : d₀.IsReported moves)
    (hserving : d.plugin.serving = some generation) (hquiet : d.IsQuiet)
    (hempty : d.plugin.hub.queue = none) (hstop : d.plugin.hub.stop.isUp = false) :
    (∃ d₁ since, Owes d₀ moves d₁ since d) ∧ ∀ d₁ since, Owes d₀ moves d₁ since d →
      ∀ u ∈ d.plugin.hub.units,
        ((u.health = .healthy ↔ d.hasNode u.key = true) ↔
          Changed d₁ since u.key ∨
            (d₁.plugin.hub.foreseen? u.key = some .healthy ↔ d₁.hasNode u.key = true)) := by
  obtain ⟨d₁, since, k, w, howes, hw, rfl, hinformed⟩ :=
    informed_run? hnew hapart hrun hreported hserving hstop
  refine ⟨⟨d₁, since, howes⟩, fun d₂ since₂ howes₂ u hu => ?_⟩
  obtain ⟨rfl, rfl⟩ := howes.unique howes₂ hserving
  have hmanned := manned_run? hnew.idle hnew.unwatched hrun
  have hwired := wired_run? hnew hrun
  obtain ⟨before, first, e, -, hrun₀, -, hfirst⟩ := howes.started
  have hwired₁ : Wired d₀ d₁ := (wired_run? hnew hrun₀).move? hfirst
  obtain ⟨hfree, hpending, hinbox⟩ := hquiet.watcher hmanned hempty hstop hw hserving
  have hknows := hinformed.resolve_left (by simp [hfree])
  have hprospect : ∀ key, w.prospect? d.plugin.hub.accepted key =
      latest? key d.plugin.hub.accepted := by
    intro key
    simp [Watcher.prospect?, hpending, hinbox]
  have hkeys : d.keys.Nodup := hwired.keys_eq ▸ hnodup
  have hhealth : some u.health = (healthOf? d₀.plugin.hub.units u.key).map fun health =>
      (latest? u.key d.plugin.hub.accepted).getD health := by
    rw [← healthOf?_of_mem hkeys hu, healthOf?_of_quiet hwired hquiet.hub hempty]
  have hkey : u.key ∈ d₁.keys := by
    rw [hwired₁.keys_eq, ← hwired.keys_eq]
    exact List.mem_map_of_mem hu
  obtain ⟨hchanged, hunchanged⟩ := hknows u.key hkey
  rw [hprospect] at hchanged hunchanged
  by_cases hchange : Changed d₁ since u.key
  · -- The watcher has handed the last change on.
    rw [hchanged hchange] at hhealth
    obtain ⟨first, -, hlast⟩ := Option.map_eq_some_iff.1 hhealth.symm
    have hu' : u.health = d.nodeHealth u.key := hlast.symm
    refine ⟨fun _ => .inl hchange, fun _ => ?_⟩
    rw [hu', nodeHealth]
    cases d.hasNode u.key <;> simp
  · have hsame : d.hasNode u.key = d₁.hasNode u.key := by
      by_contra hne
      exact hchange (passes_of_end howes.run hne)
    rw [hunchanged hchange, ← foreseen?_eq hwired₁] at hhealth
    rw [← hhealth, hsame, Option.some.injEq]
    exact ⟨.inr, fun h => h.resolve_left hchange⟩

/-! ### A change that goes unnoticed -/

/-- Where nothing is next, nothing moves on its own. -/
theorem isQuiet_of_next?_eq_none {d : Deployment} (hnext : d.next? = none) : d.IsQuiet := by
  simp only [next?, Option.or_eq_none_iff] at hnext
  obtain ⟨hsessions, -, hwatchers⟩ := hnext
  refine ⟨fun i => ?_, fun k => ?_⟩
  · by_cases hi : i < d.plugin.hub.sessions.length
    · exact List.findSome?_eq_none_iff.1 hsessions i (List.mem_range.2 hi)
    · have hnone : d.plugin.hub.sessions[i]? = none := List.getElem?_eq_none (Nat.le_of_not_lt hi)
      simp [advanceSession?, Hub.advance?, hnone]
  · by_cases hk : k < d.site.watchers.length
    · exact List.findSome?_eq_none_iff.1 hwatchers k (List.mem_range.2 hk)
    · have hnone : d.site.watchers[k]? = none := List.getElem?_eq_none (Nat.le_of_not_lt hk)
      simp [advanceWatcher?, hnone]

/-- A plugin serves, and someone removes its socket. While its watcher restarts it, the node of its
unit disappears. Then a client comes and reads. -/
def gap : List DeploymentMove :=
  [.startKubelet, .start, .removeSocket, .watcher 0, .removeNode "1", .watcher 0, .watcher 0,
    .watcher 0, .watcher 0, .connect, .session 0, .session 0, .session 0, .read 0]

/-- The small deployment is new, and its unit has a node of its own. -/
theorem isNew_single : single.IsNew := ⟨⟨_, _, _, _, rfl⟩, rfl, rfl⟩

/-- The only node of the small deployment is not its socket. -/
theorem nodesApart_single :
    NodesApart single.plugin.deviceRoot single.keys single.plugin.socketPath where
  own := by decide +kernel
  notSocket := by decide +kernel

/-- Every change on the way is reported. -/
theorem isReported_gap : single.IsReported gap := by decide +kernel

/-- After that the plugin serves, its client is told of every event, and nothing is left to do. But
the unit is healthy, and its node is not there. -/
theorem exists_run?_gap :
    ∃ d, single.run? gap = some d ∧ d.plugin.serving = some 1 ∧ d.plugin.hub.queue = none ∧
      d.plugin.hub.stop.isUp = false ∧ d.plugin.hub.units = [⟨"1", .healthy, none⟩] ∧
      d.hasNode "1" = false ∧ d.plugin.hub.phases = [.listening] ∧ d.IsQuiet := by
  have hrest : ((single.run? gap).map fun d => (d.plugin.serving, d.plugin.hub.queue,
      d.plugin.hub.stop.isUp, d.next?.isNone)) = some (some 1, none, false, true) := by
    decide +kernel
  have hshown : ((single.run? gap).map fun d => (d.plugin.hub.units, d.hasNode "1",
      d.plugin.hub.phases)) = some ([⟨"1", .healthy, none⟩], false, [.listening]) := by
    decide +kernel
  obtain ⟨d, hd, hall⟩ := Option.map_eq_some_iff.1 hrest
  rw [hd, Option.map_some] at hshown
  simp only [Prod.mk.injEq, Option.isNone_iff_eq_none, Option.some.injEq] at hall hshown
  obtain ⟨hserving, hempty, hstop, hnext⟩ := hall
  obtain ⟨hunits, hnode, hphases⟩ := hshown
  exact ⟨d, hd, hserving, hempty, hstop, hunits, hnode, hphases, isQuiet_of_next?_eq_none hnext⟩

/-- The condition at this run. -/
theorem agrees_iff_gap :
    ∃ d, single.IsNew ∧ single.keys.Nodup ∧
      NodesApart single.plugin.deviceRoot single.keys single.plugin.socketPath ∧
      single.run? gap = some d ∧ single.IsReported gap ∧ d.plugin.serving = some 1 ∧
      d.IsQuiet ∧ d.plugin.hub.queue = none ∧ d.plugin.hub.stop.isUp = false ∧
      (∃ d₁ since, Owes single gap d₁ since d) ∧ ∀ d₁ since, Owes single gap d₁ since d →
        ∀ u ∈ d.plugin.hub.units,
          ((u.health = .healthy ↔ d.hasNode u.key = true) ↔
            Changed d₁ since u.key ∨
              (d₁.plugin.hub.foreseen? u.key = some .healthy ↔ d₁.hasNode u.key = true)) := by
  obtain ⟨d, hd, hserving, hempty, hstop, -, -, -, hquiet⟩ := exists_run?_gap
  have hnodup : single.keys.Nodup := by decide
  exact ⟨d, isNew_single, hnodup, nodesApart_single, hd, isReported_gap, hserving, hquiet, hempty,
    hstop, agrees_iff isNew_single hnodup nodesApart_single hd isReported_gap hserving hquiet hempty
      hstop⟩

/-- **A unit can be healthy without a node**: its node was there and it was healthy when the plugin
was new, every change was reported to the watchers that were there, the plugin serves, its client is
told of events, and nothing is left to do. -/
theorem not_agrees_gap :
    ∃ d, single.IsNew ∧ (∀ u ∈ single.plugin.hub.units, u.health = .healthy ∧
        single.hasNode u.key = true) ∧
      single.run? gap = some d ∧ single.IsReported gap ∧ d.plugin.serving = some 1 ∧
      d.plugin.hub.phases = [.listening] ∧ d.IsQuiet ∧ d.plugin.hub.queue = none ∧
      ∃ u ∈ d.plugin.hub.units, ¬ (u.health = .healthy ↔ d.hasNode u.key = true) := by
  obtain ⟨d, hd, hserving, hempty, -, hunits, hnode, hphases, hquiet⟩ := exists_run?_gap
  have hbefore : ∀ u ∈ single.plugin.hub.units, u.health = .healthy ∧
      single.hasNode u.key = true := by decide +kernel
  refine ⟨d, isNew_single, hbefore, hd, isReported_gap, hserving, hphases, hquiet, hempty,
    ⟨"1", .healthy, none⟩, by simp [hunits], ?_⟩
  simp [hnode]

end Deployment

end GpuPassthrough
