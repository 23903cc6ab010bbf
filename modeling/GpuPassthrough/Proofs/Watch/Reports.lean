import GpuPassthrough.Proofs.Health.History
import GpuPassthrough.Watch.Targets

/-!
# What Reports Say

The health events that a plugin draws from reports of the file system, against what the reports say
about the node of a unit. Where every unit has a node of its own and none of them is the socket, the
last word of the health events on a unit is the last change of its node.

## Main results

* `WatchTargets.unit?_ofUnits`: a path belongs to the unit whose node it names.
* `WatchTargets.latest?_healthEvents`: the last word on a unit is the last change of its node.
* `WatchTargets.restart_mem_classify_iff`: a restart is asked for exactly if the socket was removed.
-/

namespace GpuPassthrough

/-- A report that one path appeared or disappeared. -/
def FileEvent.IsPlain (e : FileEvent) : Prop :=
  (e.change = .created ∨ e.change = .removed) ∧ ∃ path, e.paths = [path]

/-- What reports say about a path, in order. -/
def changesAt (path : String) (reports : List FileEvent) : List FileChange :=
  (reports.filter fun e => e.paths.any fun other => SamePath path other).map FileEvent.change

/-- The health of a unit whose node has changed. -/
def FileChange.health : FileChange → Health
  | .created => .healthy
  | _ => .unhealthy

/-- **Every unit has a node of its own** in a directory, and none of the nodes is the socket. -/
structure NodesApart (deviceRoot : String) (keys : List String) (socket : String) : Prop where
  own : ∀ a ∈ keys, ∀ b ∈ keys,
    SamePath (Path.join deviceRoot a) (Path.join deviceRoot b) → a = b
  notSocket : ∀ a ∈ keys, ¬ SamePath (Path.join deviceRoot a) socket

namespace WatchTargets

/-- The health events of a report. -/
def healthEvents (w : WatchTargets) (t : FileTree) (e : FileEvent) : List HealthEvent :=
  (w.classify t e).filterMap fun
    | .health event => some event
    | .restart => none

/-- **A path belongs to the unit whose node it names**, if every unit has a node of its own. -/
theorem unit?_ofUnits {deviceRoot socket : String} {keys : List String}
    (hapart : NodesApart deviceRoot keys socket) {key path : String} :
    (ofUnits deviceRoot keys socket).unit? path = some key ↔
      key ∈ keys ∧ SamePath (Path.join deviceRoot key) path := by
  rw [unit?, Option.map_eq_some_iff]
  constructor
  · rintro ⟨node, hfind, rfl⟩
    have hsame : SamePath node.1 path := by simpa using List.find?_some hfind
    have hmem : node ∈ (ofUnits deviceRoot keys socket).nodes :=
      List.mem_reverse.1 (List.mem_of_find?_eq_some hfind)
    obtain ⟨key, hkey, rfl⟩ := List.mem_map.1 hmem
    exact ⟨hkey, hsame⟩
  · rintro ⟨hkey, hsame⟩
    have hmem : (Path.join deviceRoot key, key) ∈
        (ofUnits deviceRoot keys socket).nodes.reverse :=
      List.mem_reverse.2 (List.mem_map.2 ⟨key, hkey, rfl⟩)
    cases hfind : (ofUnits deviceRoot keys socket).nodes.reverse.find? fun node =>
        SamePath node.1 path with
    | none => exact absurd hsame (by simpa using List.find?_eq_none.1 hfind _ hmem)
    | some node =>
      have hsame' : SamePath node.1 path := by simpa using List.find?_some hfind
      have hmem' : node ∈ (ofUnits deviceRoot keys socket).nodes :=
        List.mem_reverse.1 (List.mem_of_find?_eq_some hfind)
      obtain ⟨other, hother, rfl⟩ := List.mem_map.1 hmem'
      exact ⟨_, rfl, hapart.own other hother key hkey (hsame'.trans hsame.symm)⟩

/-- **A restart is asked for exactly if the socket was removed.** -/
theorem restart_mem_classify_iff {w : WatchTargets} {t : FileTree} {e : FileEvent} :
    .restart ∈ w.classify t e ↔ e.change = .removed ∧ ∃ path ∈ e.paths, SamePath path w.socket := by
  have hnever : ∀ {health : Health} {path : String}, w.event? health path ≠ some .restart := by
    intro health path
    cases hunit : w.unit? path <;> simp [event?, hunit]
  have hnone : ∀ {f : String → Option WatchAction} {paths : List String},
      (∀ path, f path ≠ some .restart) → .restart ∉ paths.filterMap f := by
    intro f paths hf hmem
    obtain ⟨path, -, hpath⟩ := List.mem_filterMap.1 hmem
    exact hf path hpath
  have hbind : ∀ {health : Health} {path? : Option String},
      path?.bind (w.event? health) ≠ some .restart := by
    intro health path? heq
    obtain ⟨path, -, hpath⟩ := Option.bind_eq_some_iff.1 heq
    exact hnever hpath
  obtain ⟨change, paths⟩ := e
  cases change with
  | removed =>
    by_cases hsocket : ∃ path ∈ paths, SamePath path w.socket
    · obtain ⟨path, hpath, hsame⟩ := hsocket
      rw [classify_remove_socket hpath hsame]
      exact iff_of_true (List.mem_singleton_self _) ⟨rfl, path, hpath, hsame⟩
    · have hany : (paths.any fun path => decide (SamePath path w.socket)) = false := by
        simpa using hsocket
      simp only [classify, hany, if_neg Bool.false_ne_true]
      exact iff_of_false (hnone fun _ => hnever) fun h => hsocket h.2
  | created | renamedFrom | renamedTo | renamedEither =>
    exact iff_of_false (hnone fun _ => hnever) (by simp)
  | renamedBoth =>
    have hfirst := @hbind .unhealthy paths.head?
    have hsecond := @hbind .healthy paths[1]?
    simpa [classify] using ⟨hfirst, hsecond⟩
  | touched => exact iff_of_false List.not_mem_nil (by simp)

/-- What a plain report means does not depend on the tree. -/
theorem healthEvents_congr (w : WatchTargets) {e : FileEvent} (hplain : e.IsPlain)
    (t t' : FileTree) : w.healthEvents t e = w.healthEvents t' e := by
  obtain ⟨hchange, -⟩ := hplain
  rcases hchange with hchange | hchange <;> simp only [healthEvents, classify, hchange]

/-- The last word on a unit of the health events of one path. -/
theorem latest?_event? {deviceRoot socket : String} {keys : List String}
    (hapart : NodesApart deviceRoot keys socket) {key : String} (hkey : key ∈ keys)
    (health : Health) (path : String) :
    latest? key (([path].filterMap ((ofUnits deviceRoot keys socket).event? health)).filterMap fun
        | .health event => some event
        | .restart => none) =
      if SamePath (Path.join deviceRoot key) path then some health else none := by
  cases hunit : (ofUnits deviceRoot keys socket).unit? path with
  | none =>
    have hdiffers : ¬ SamePath (Path.join deviceRoot key) path := by
      intro hsame
      rw [(unit?_ofUnits hapart).2 ⟨hkey, hsame⟩] at hunit
      cases hunit
    simp [event?, hunit, hdiffers]
  | some unit =>
    obtain ⟨hmem, hsame⟩ := (unit?_ofUnits hapart).1 hunit
    have hiff : unit = key ↔ SamePath (Path.join deviceRoot key) path := by
      constructor
      · rintro rfl
        exact hsame
      · intro hsame'
        exact hapart.own unit hmem key hkey (hsame.trans hsame'.symm)
    simp [event?, hunit, latest?_singleton, hiff]

/-- The last word of a plain report on a unit is what happened to its node. -/
theorem latest?_healthEvents {deviceRoot socket : String} {keys : List String}
    (hapart : NodesApart deviceRoot keys socket) {key : String} (hkey : key ∈ keys)
    {e : FileEvent} (hplain : e.IsPlain) (t : FileTree) :
    latest? key ((ofUnits deviceRoot keys socket).healthEvents t e) =
      ((changesAt (Path.join deviceRoot key) [e]).getLast?).map FileChange.health := by
  obtain ⟨hchange, path, hpaths⟩ := hplain
  have hnode : (changesAt (Path.join deviceRoot key) [e]).getLast? =
      if SamePath (Path.join deviceRoot key) path then some e.change else none := by
    by_cases hsame : SamePath (Path.join deviceRoot key) path <;>
      simp [changesAt, hpaths, hsame]
  rw [hnode]
  rcases hchange with hchange | hchange
  · simp only [healthEvents, classify, hchange, hpaths]
    rw [latest?_event? hapart hkey]
    split <;> rfl
  · simp only [healthEvents, classify, hchange, hpaths]
    by_cases hsocket : SamePath path socket
    · -- The removal of the socket says nothing about a node.
      have hdiffers : ¬ SamePath (Path.join deviceRoot key) path :=
        fun hsame => hapart.notSocket key hkey (hsame.trans hsocket)
      simp [ofUnits, hsocket, hdiffers]
    · have hany : ([path].any fun path => decide
          (SamePath path (ofUnits deviceRoot keys socket).socket)) = false := by
        rw [List.any_cons, List.any_nil, Bool.or_false]
        exact decide_eq_false hsocket
      rw [hany, if_neg Bool.false_ne_true, latest?_event? hapart hkey]
      split <;> rfl

/-- **The last word of plain reports on a unit is the last change of its node.** -/
theorem latest?_flatMap_healthEvents {deviceRoot socket : String} {keys : List String}
    (hapart : NodesApart deviceRoot keys socket) {key : String} (hkey : key ∈ keys)
    (t : FileTree) {reports : List FileEvent} (hplain : ∀ e ∈ reports, e.IsPlain) :
    latest? key (reports.flatMap ((ofUnits deviceRoot keys socket).healthEvents t)) =
      ((changesAt (Path.join deviceRoot key) reports).getLast?).map FileChange.health := by
  induction reports with
  | nil => rfl
  | cons e rest ih =>
    obtain ⟨he, hrest⟩ := List.forall_mem_cons.1 hplain
    have hsplit : changesAt (Path.join deviceRoot key) (e :: rest) =
        changesAt (Path.join deviceRoot key) [e] ++ changesAt (Path.join deviceRoot key) rest := by
      rw [changesAt, changesAt, changesAt, ← List.map_append, ← List.filter_append]
      rfl
    rw [List.flatMap_cons, latest?_append, ih hrest, latest?_healthEvents hapart hkey he, hsplit,
      List.getLast?_append]
    cases (changesAt (Path.join deviceRoot key) rest).getLast? <;> rfl

end WatchTargets

end GpuPassthrough
