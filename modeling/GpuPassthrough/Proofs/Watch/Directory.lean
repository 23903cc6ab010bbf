import GpuPassthrough.Proofs.Path
import GpuPassthrough.Proofs.Watch.Reports
import Mathlib.Data.List.Forall2
import Mathlib.Data.Set.BooleanAlgebra
import Mathlib.Data.Set.Insert

/-!
# Units Follow their Directory

Entries of a directory come, go and get other names, inside the directory, into it or out of it. A
rename is told of as two changes, the loss of the old name and the gain of the new one, and perhaps
once more by both names. A plugin that goes through the reports of all this marks exactly the units
healthy whose nodes are entries of the directory.

Of one entry a report says at most that it is there now, or that it is not; a rename that is told of
twice says the same again. So it is enough to know the last word on each name, change by change.

## Main results

* `WatchTargets.settles_entryChange`: one change leaves each unit with the health of its node.
* `WatchTargets.agreeWith_follow`: so does every run of changes.
* `WatchTargets.followsDirectory_ofUnits`: what a plugin does about reports of its directory.
-/

namespace GpuPassthrough

/-! ### How a directory changes -/

/-- What else may be reported of a rename: nothing, or both paths once more. -/
def IsEcho (source target : String) (reports : List FileEvent) : Prop :=
  reports = [] ∨ reports = [⟨.renamedBoth, [source, target]⟩]

/-- **One change of the entries of a directory**, with what is reported of it. A report may spell
the path of an entry in any way. -/
inductive EntryChange (root : String) : Set String → List FileEvent → Set String → Prop
  | create {names : Set String} {name path : String} (hname : Path.IsName name)
      (hnew : name ∉ names) (hpath : SamePath (Path.join root name) path) :
      EntryChange root names [⟨.created, [path]⟩] (insert name names)
  | remove {names : Set String} {name path : String} (hname : Path.IsName name)
      (hold : name ∈ names) (hpath : SamePath (Path.join root name) path) :
      EntryChange root names [⟨.removed, [path]⟩] (names \ {name})
  /-- An entry gets another name, which may be that of an entry that is lost by it. -/
  | rename {names : Set String} {old new source target : String} {echo : List FileEvent}
      (hname : Path.IsName old) (hname' : Path.IsName new) (hold : old ∈ names)
      (hsource : SamePath (Path.join root old) source)
      (htarget : SamePath (Path.join root new) target) (hecho : IsEcho source target echo) :
      EntryChange root names (⟨.renamedFrom, [source]⟩ :: ⟨.renamedTo, [target]⟩ :: echo)
        (insert new (names \ {old}))
  | moveOut {names : Set String} {old source target : String} {echo : List FileEvent}
      (hname : Path.IsName old) (hold : old ∈ names)
      (hsource : SamePath (Path.join root old) source) (houtside : ¬ Path.IsChild root target)
      (hecho : IsEcho source target echo) :
      EntryChange root names (⟨.renamedFrom, [source]⟩ :: echo) (names \ {old})
  /-- Something gets into the directory, and an entry of that name is lost by it. -/
  | moveIn {names : Set String} {new source target : String} {echo : List FileEvent}
      (hname : Path.IsName new) (houtside : ¬ Path.IsChild root source)
      (htarget : SamePath (Path.join root new) target) (hecho : IsEcho source target echo) :
      EntryChange root names (⟨.renamedTo, [target]⟩ :: echo) (insert new names)

/-- **Any number of changes**, with all that is reported of them, in order. -/
inductive EntryChanges (root : String) : Set String → List FileEvent → Set String → Prop
  | refl (names : Set String) : EntryChanges root names [] names
  | cons {names names' names'' : Set String} {reports reports' : List FileEvent}
      (hfirst : EntryChange root names reports names')
      (hrest : EntryChanges root names' reports' names'') :
      EntryChanges root names (reports ++ reports') names''

/-- **Units agree with a directory**: exactly those are healthy whose keys are names in it. -/
def AgreeWith (names : Set String) (units : List AdvertisedUnit) : Prop :=
  ∀ u ∈ units, u.health = .healthy ↔ u.key ∈ names

/-! ### How units follow -/

/-- The units after what a plugin did. -/
def WatchAction.act (units : List AdvertisedUnit) : WatchAction → List AdvertisedUnit
  | .health event => event.apply units
  | .restart => units

/-- Whether a path names the node of a unit. -/
def NamesNode (root : String) (keys : List String) (path : String) : Prop :=
  ∃ key ∈ keys, SamePath (Path.join root key) path

instance (root : String) (keys : List String) : DecidablePred (NamesNode root keys) :=
  fun path => inferInstanceAs (Decidable (∃ key ∈ keys, SamePath (Path.join root key) path))

/-- **What is done for a path**: the unit whose node it names gets a health. -/
def IsDoneFor (root : String) (keys : List String) (health : Health) (path : String)
    (action : WatchAction) : Prop :=
  ∃ key ∈ keys, SamePath (Path.join root key) path ∧ action = .health ⟨key, health⟩

/-- **Events about a unit settle a fact**: if the health of the unit said whether it held before,
then after the events it says whether it holds now. -/
def Settles (key : String) (events : List HealthEvent) (before now : Prop) : Prop :=
  ∀ health : Health, (health = .healthy ↔ before) →
    (((latest? key events).getD health) = .healthy ↔ now)

namespace Settles

variable {key : String} {first second : List HealthEvent} {p q r : Prop}

/-- What is settled in two steps is settled. -/
theorem append (hfirst : Settles key first p q) (hsecond : Settles key second q r) :
    Settles key (first ++ second) p r := by
  intro health hbefore
  have hnow := hsecond _ (hfirst health hbefore)
  rw [latest?_append]
  cases hlatest : latest? key second <;> simpa [hlatest] using hnow

/-- No event settles what did not change. -/
theorem refl (key : String) (p : Prop) : Settles key [] p p := fun _ hbefore => hbefore

end Settles

namespace WatchTargets

variable {root socket key path : String} {keys : List String} {names : Set String}
  {reports : List FileEvent} {units : List AdvertisedUnit}

/-- The units after some reports, each looked at while the files were in some state. -/
def follow (w : WatchTargets) (units : List AdvertisedUnit)
    (seen : List (FileTree × FileEvent)) : List AdvertisedUnit :=
  seen.foldl (fun units report => (w.classify report.1 report.2).foldl WatchAction.act units) units

/-- The health events of some reports. -/
def eventsOf (w : WatchTargets) (seen : List (FileTree × FileEvent)) : List HealthEvent :=
  seen.flatMap fun report => w.healthEvents report.1 report.2

/-- Following reports is applying their health events. -/
theorem follow_eq_unitsAfter (w : WatchTargets) (units : List AdvertisedUnit)
    (seen : List (FileTree × FileEvent)) :
    w.follow units seen = unitsAfter units (w.eventsOf seen) := by
  have hactions : ∀ (actions : List WatchAction) (units : List AdvertisedUnit),
      actions.foldl WatchAction.act units = unitsAfter units (actions.filterMap fun
        | .health event => some event
        | .restart => none) := by
    intro actions
    induction actions with
    | nil => exact fun _ => rfl
    | cons action rest ih =>
      intro units
      cases action with
      | health event =>
        rw [List.foldl_cons, ih]
        exact (unitsAfter_cons units event _).symm
      | restart => exact ih units
  induction seen generalizing units with
  | nil => rfl
  | cons report rest ih =>
    rw [eventsOf, List.flatMap_cons, unitsAfter_append]
    exact (ih _).trans (congrArg (unitsAfter · (w.eventsOf rest)) (hactions _ _))

/-! ### The last word on a name -/

/-- What is said of a path: the unit whose node it names has a health. -/
def words (w : WatchTargets) (health : Health) (path : String) : List HealthEvent :=
  (w.unit? path).toList.map fun unit => ⟨unit, health⟩

/-- The last word on a unit of what is said of a path. -/
theorem latest?_words (hapart : NodesApart root keys socket) (hkey : key ∈ keys) (health : Health)
    (path : String) : latest? key ((ofUnits root keys socket).words health path) =
      if SamePath (Path.join root key) path then some health else none := by
  rw [← latest?_event? hapart hkey]
  refine congrArg (latest? key) ?_
  cases hunit : (ofUnits root keys socket).unit? path <;> simp [event?, words, hunit]

/-- What is said of a path settles a fact, if it is right about the unit whose node the path names
and the fact did not change for another. -/
theorem settles_words (hapart : NodesApart root keys socket) (hkey : key ∈ keys) {health : Health}
    {before now : Prop} (hnamed : SamePath (Path.join root key) path → (health = .healthy ↔ now))
    (hother : ¬ SamePath (Path.join root key) path → (before ↔ now)) :
    Settles key ((ofUnits root keys socket).words health path) before now := by
  intro previous hbefore
  rw [latest?_words hapart hkey]
  by_cases hsame : SamePath (Path.join root key) path
  · simpa [hsame] using hnamed hsame
  · simpa [hsame] using hbefore.trans (hother hsame)

/-- Of a path outside a directory nothing is said that matters. -/
theorem settles_outside (hapart : NodesApart root keys socket) (hkey : key ∈ keys)
    (hname : Path.IsName key) (houtside : ¬ Path.IsChild root path) (health : Health) (p : Prop) :
    Settles key ((ofUnits root keys socket).words health path) p p :=
  settles_words hapart hkey
    (fun hsame => absurd ((Path.isChild_congr hsame).1 (hname.isChild root)) houtside)
    fun _ => Iff.rfl

section Named

variable {name : String} (hapart : NodesApart root keys socket) (hkey : key ∈ keys)
  (hkeyName : Path.IsName key) (hname : Path.IsName name)
  (hpath : SamePath (Path.join root name) path) (names : Set String)

include hkeyName hname hpath in
/-- A path of an entry is the node of the unit of that name. -/
theorem samePath_iff_eq : SamePath (Path.join root key) path ↔ key = name :=
  ⟨fun hsame => hkeyName.eq_of_samePath hname (hsame.trans hpath.symm), fun heq => heq ▸ hpath⟩

include hapart hkey hkeyName hname hpath in
/-- A name was gained. -/
theorem settles_gained :
    Settles key ((ofUnits root keys socket).words .healthy path) (key ∈ names)
      (key ∈ insert name names) := by
  refine settles_words hapart hkey (fun hsame => ?_) fun hdiffers => ?_ <;>
    rw [samePath_iff_eq hkeyName hname hpath] at *
  · exact iff_of_true rfl (.inl hsame)
  · exact (or_iff_right hdiffers).symm

include hapart hkey hkeyName hname hpath in
/-- A name was lost. -/
theorem settles_lost :
    Settles key ((ofUnits root keys socket).words .unhealthy path) (key ∈ names)
      (key ∈ names \ {name}) := by
  refine settles_words hapart hkey (fun hsame => ?_) fun hdiffers => ?_ <;>
    rw [samePath_iff_eq hkeyName hname hpath] at *
  · exact iff_of_false nofun fun hnow => hnow.2 hsame
  · exact (and_iff_left hdiffers).symm

end Named

/-! ### One change -/

/-- What is said of a new entry. -/
theorem healthEvents_created (w : WatchTargets) (t : FileTree) (path : String) :
    w.healthEvents t ⟨.created, [path]⟩ = w.words .healthy path := by
  cases hunit : w.unit? path <;> simp [healthEvents, classify, event?, words, hunit]

/-- What is said of a new name. -/
theorem healthEvents_renamedTo (w : WatchTargets) (t : FileTree) (path : String) :
    w.healthEvents t ⟨.renamedTo, [path]⟩ = w.words .healthy path :=
  healthEvents_created w t path

/-- What is said of a name that is no more. -/
theorem healthEvents_renamedFrom (w : WatchTargets) (t : FileTree) (path : String) :
    w.healthEvents t ⟨.renamedFrom, [path]⟩ = w.words .unhealthy path := by
  cases hunit : w.unit? path <;> simp [healthEvents, classify, event?, words, hunit]

/-- What is said of an old and a new name. -/
theorem healthEvents_renamedBoth (w : WatchTargets) (t : FileTree) (source target : String) :
    w.healthEvents t ⟨.renamedBoth, [source, target]⟩ =
      w.words .unhealthy source ++ w.words .healthy target := by
  cases hunit : w.unit? source <;> cases hunit' : w.unit? target <;>
    simp [healthEvents, classify, event?, words, hunit, hunit']

/-- What is said of an entry that was removed. If it is the socket, nothing is said. -/
theorem healthEvents_removed (hapart : NodesApart root keys socket) (t : FileTree) (path : String) :
    (ofUnits root keys socket).healthEvents t ⟨.removed, [path]⟩ =
      (ofUnits root keys socket).words .unhealthy path := by
  by_cases hsocket : SamePath path (ofUnits root keys socket).socket
  · have hunit : (ofUnits root keys socket).unit? path = none := by
      refine Option.eq_none_iff_forall_ne_some.2 fun key hunit => ?_
      obtain ⟨hkey, hsame⟩ := (unit?_ofUnits hapart).1 hunit
      exact hapart.notSocket key hkey (hsame.trans hsocket)
    rw [healthEvents, classify_remove_socket (List.mem_singleton_self path) hsocket, words, hunit]
    rfl
  · have hany : ([path].any fun path => decide
        (SamePath path (ofUnits root keys socket).socket)) = false := by
      rw [List.any_cons, List.any_nil, Bool.or_false]
      exact decide_eq_false hsocket
    rw [← healthEvents_renamedFrom _ t, healthEvents, healthEvents]
    simp only [classify, hany, if_neg Bool.false_ne_true]

/-- Both paths of a rename once more say nothing new: the old name is lost before the new one is
gained. -/
theorem settles_echo (t : FileTree) {source target : String} {echo : List FileEvent}
    (hecho : IsEcho source target echo) {between : Prop}
    (hsource : Settles key ((ofUnits root keys socket).words .unhealthy source) (key ∈ names)
      between)
    (htarget : Settles key ((ofUnits root keys socket).words .healthy target) between
      (key ∈ names)) :
    Settles key (echo.flatMap ((ofUnits root keys socket).healthEvents t)) (key ∈ names)
      (key ∈ names) := by
  rcases hecho with rfl | rfl
  · exact .refl key _
  · rw [List.flatMap_singleton, healthEvents_renamedBoth]
    exact hsource.append htarget

section Change

variable (hapart : NodesApart root keys socket) (hnames : ∀ key ∈ keys, Path.IsName key)
  (hkey : key ∈ keys) {names' : Set String} (t : FileTree)

include hapart hnames hkey in
/-- **One change leaves each unit with the health of its node**, however it is reported. -/
theorem settles_entryChange (hchange : EntryChange root names reports names') :
    Settles key (reports.flatMap ((ofUnits root keys socket).healthEvents t)) (key ∈ names)
      (key ∈ names') := by
  have hkeyName := hnames key hkey
  cases hchange with
  | create hname _ hpath =>
    rw [List.flatMap_singleton, healthEvents_created]
    exact settles_gained hapart hkey hkeyName hname hpath names
  | remove hname _ hpath =>
    rw [List.flatMap_singleton, healthEvents_removed hapart]
    exact settles_lost hapart hkey hkeyName hname hpath names
  | @rename old new source target echo hname hname' _ hsource htarget hecho =>
    have hlost := settles_lost hapart hkey hkeyName hname hsource
    have hgained := settles_gained hapart hkey hkeyName hname' htarget
    rw [List.flatMap_cons, List.flatMap_cons, healthEvents_renamedFrom, healthEvents_renamedTo]
    refine (hlost names).append ((hgained _).append ?_)
    refine settles_echo t hecho (hlost _) ?_
    -- The new name stays, also if it is the old one.
    have hsame : insert new (insert new (names \ {old}) \ {old}) = insert new (names \ {old}) := by
      ext name
      simp only [Set.mem_insert_iff, Set.mem_sdiff, Set.mem_singleton_iff]
      tauto
    have hstays := hgained (insert new (names \ {old}) \ {old})
    rwa [hsame] at hstays
  | @moveOut old source target echo hname _ hsource houtside hecho =>
    have hlost := settles_lost hapart hkey hkeyName hname hsource
    rw [List.flatMap_cons, healthEvents_renamedFrom]
    refine (hlost names).append (settles_echo t hecho (hlost _) ?_)
    rw [sdiff_idem]
    exact settles_outside hapart hkey hkeyName houtside _ _
  | @moveIn new source target echo hname houtside htarget hecho =>
    have hgained := settles_gained hapart hkey hkeyName hname htarget
    rw [List.flatMap_cons, healthEvents_renamedTo]
    refine (hgained names).append (settles_echo t hecho
      (settles_outside hapart hkey hkeyName houtside _ _) ?_)
    have hsame := hgained (insert new names)
    rwa [Set.insert_idem] at hsame

include hapart hnames hkey in
/-- **So does every run of changes.** -/
theorem settles_entryChanges (hchanges : EntryChanges root names reports names') :
    Settles key (reports.flatMap ((ofUnits root keys socket).healthEvents t)) (key ∈ names)
      (key ∈ names') := by
  induction hchanges with
  | refl names => exact .refl key _
  | cons hfirst _ ih =>
    rw [List.flatMap_append]
    exact (settles_entryChange hapart hnames hkey t hfirst).append ih

end Change

/-! ### Following a directory -/

/-- No report of a change leaves open whether a name was lost or gained. -/
theorem change_ne_renamedEither {names' : Set String}
    (hchanges : EntryChanges root names reports names') :
    ∀ e ∈ reports, e.change ≠ .renamedEither := by
  induction hchanges with
  | refl names => exact List.forall_mem_nil _
  | cons hfirst _ ih =>
    refine List.forall_mem_append.2 ⟨?_, ih⟩
    rcases hfirst with _ | _ | ⟨_, _, _, _, _, rfl | rfl⟩ | ⟨_, _, _, _, rfl | rfl⟩ |
      ⟨_, _, _, rfl | rfl⟩ <;> simp

/-- Where every report says what happened, it does not matter when it is looked at. -/
theorem eventsOf_eq_flatMap (w : WatchTargets) (t : FileTree) {seen : List (FileTree × FileEvent)}
    (hclear : ∀ e ∈ seen.map Prod.snd, e.change ≠ .renamedEither) :
    w.eventsOf seen = (seen.map Prod.snd).flatMap (w.healthEvents t) := by
  rw [eventsOf, List.flatMap_map]
  refine List.flatMap_congr fun report hreport => ?_
  obtain ⟨t', change, paths⟩ := report
  have hne := hclear _ (List.mem_map_of_mem hreport)
  cases change with
  | renamedEither => exact absurd rfl hne
  | _ => rfl

/-- **Units that agree with a directory agree with it after every run of changes.** -/
theorem agreeWith_follow (hnodup : keys.Nodup) (hapart : NodesApart root keys socket)
    (hnames : ∀ key ∈ keys, Path.IsName key) {names' : Set String}
    (hchanges : EntryChanges root names reports names')
    (hunits : units.map AdvertisedUnit.key = keys) (hagree : AgreeWith names units)
    {seen : List (FileTree × FileEvent)} (hseen : seen.map Prod.snd = reports) :
    AgreeWith names' ((ofUnits root keys socket).follow units seen) := by
  rw [follow_eq_unitsAfter]
  intro u hu
  have hkeys := map_key_unitsAfter units ((ofUnits root keys socket).eventsOf seen)
  have hkey : u.key ∈ units.map AdvertisedUnit.key := hkeys ▸ List.mem_map_of_mem hu
  obtain ⟨before, hbefore, hsame⟩ := List.mem_map.1 hkey
  -- The health of the unit is the last word on it, or what it was before.
  have hhealth := healthOf?_of_mem ((hkeys.trans hunits).symm ▸ hnodup) hu
  rw [healthOf?_unitsAfter, ← hsame, healthOf?_of_mem (hunits ▸ hnodup) hbefore, Option.map_some,
    Option.some.injEq] at hhealth
  subst hseen
  rw [← hhealth, ← hsame, eventsOf_eq_flatMap _ .empty (change_ne_renamedEither hchanges)]
  exact settles_entryChanges hapart hnames (hunits ▸ hsame ▸ hkey) .empty hchanges _
    (hagree before hbefore)

/-! ### What one report leads to -/

/-- A path names the node of a unit exactly if a unit is found for it. -/
theorem namesNode_iff (hapart : NodesApart root keys socket) :
    NamesNode root keys path ↔ ∃ key, (ofUnits root keys socket).unit? path = some key := by
  simp only [unit?_ofUnits hapart]
  rfl

/-- For each path that names a node one thing is done, in order, and for the others nothing. -/
theorem forall₂_isDoneFor (hapart : NodesApart root keys socket) (health : String → Health)
    (paths : List String) :
    List.Forall₂ (fun path action => IsDoneFor root keys (health path) path action)
      (paths.filter fun path => NamesNode root keys path)
      (paths.filterMap fun path => (ofUnits root keys socket).event? (health path) path) := by
  induction paths with
  | nil => exact .nil
  | cons path rest ih =>
    by_cases hnode : NamesNode root keys path
    · obtain ⟨key, hunit⟩ := (namesNode_iff hapart).1 hnode
      have hevent : (ofUnits root keys socket).event? (health path) path =
          some (.health ⟨key, health path⟩) := by
        rw [event?, hunit, Option.map_some]
      obtain ⟨hkey, hsame⟩ := (unit?_ofUnits hapart).1 hunit
      simp only [List.filter_cons, List.filterMap_cons, hnode, hevent, decide_true, if_true]
      exact .cons ⟨key, hkey, hsame, rfl⟩ ih
    · have hunit : (ofUnits root keys socket).unit? path = none :=
        Option.eq_none_iff_forall_ne_some.2 fun key hunit =>
          hnode ((namesNode_iff hapart).2 ⟨key, hunit⟩)
      have hevent : (ofUnits root keys socket).event? (health path) path = none := by
        rw [event?, hunit, Option.map_none]
      simp only [List.filter_cons, List.filterMap_cons, hnode, hevent, decide_false,
        Bool.false_eq_true, if_false]
      exact ih

variable {t : FileTree} {e : FileEvent}

/-- The units whose nodes are there now get healthy. -/
theorem classify_appears (hapart : NodesApart root keys socket)
    (hchange : e.change = .created ∨ e.change = .renamedTo) :
    List.Forall₂ (IsDoneFor root keys .healthy)
      (e.paths.filter fun path => NamesNode root keys path)
      ((ofUnits root keys socket).classify t e) := by
  rcases hchange with hchange | hchange <;>
  · rw [classify, hchange]
    exact forall₂_isDoneFor hapart (fun _ => .healthy) e.paths

/-- The units whose nodes are no more get unhealthy, unless the socket is no more. -/
theorem classify_disappears (hapart : NodesApart root keys socket)
    (hchange : e.change = .renamedFrom ∨
      e.change = .removed ∧ ∀ path ∈ e.paths, ¬ SamePath path socket) :
    List.Forall₂ (IsDoneFor root keys .unhealthy)
      (e.paths.filter fun path => NamesNode root keys path)
      ((ofUnits root keys socket).classify t e) := by
  rcases hchange with hchange | ⟨hchange, hsocket⟩
  · rw [classify, hchange]
    exact forall₂_isDoneFor hapart (fun _ => .unhealthy) e.paths
  · have hany : (e.paths.any fun path => decide
        (SamePath path (ofUnits root keys socket).socket)) = false := by
      rw [List.any_eq_false]
      exact fun path hpath hsame => hsocket path hpath (of_decide_eq_true hsame)
    simp only [classify, hchange, hany, if_neg Bool.false_ne_true]
    exact forall₂_isDoneFor hapart (fun _ => .unhealthy) e.paths

/-- **Each thing that is done is done for a path of its own**, in order, unless the socket is no
more. -/
theorem exists_forall₂_classify (hapart : NodesApart root keys socket)
    (hsocket : ¬ (e.change = .removed ∧ ∃ path ∈ e.paths, SamePath path socket)) :
    ∃ told, told.Sublist e.paths ∧ List.Forall₂
      (fun path action => ∃ health, IsDoneFor root keys health path action) told
        ((ofUnits root keys socket).classify t e) := by
  obtain ⟨change, paths⟩ := e
  have hall := fun health : String → Health => (forall₂_isDoneFor hapart health paths).imp
    fun path _ hdone => (⟨health path, hdone⟩ : ∃ health, IsDoneFor root keys health path _)
  cases change with
  | created | renamedTo => exact ⟨_, List.filter_sublist, hall fun _ => .healthy⟩
  | renamedFrom => exact ⟨_, List.filter_sublist, hall fun _ => .unhealthy⟩
  | removed =>
    have hclear : ∀ path ∈ paths, ¬ SamePath path socket :=
      fun path hpath hsame => hsocket ⟨rfl, path, hpath, hsame⟩
    exact ⟨_, List.filter_sublist, (classify_disappears hapart (.inr ⟨rfl, hclear⟩)).imp
      fun path _ hdone => ⟨.unhealthy, hdone⟩⟩
  | renamedEither =>
    exact ⟨_, List.filter_sublist, hall fun path => if t.isPresent path then .healthy else .unhealthy⟩
  | touched => exact ⟨[], List.nil_sublist _, .nil⟩
  | renamedBoth =>
    -- Only the first two paths count, the old name and the new one.
    have hone := fun (health : Health) (path : String) =>
      (forall₂_isDoneFor hapart (fun _ => health) [path]).imp
        fun path _ hdone => (⟨health, hdone⟩ : ∃ health, IsDoneFor root keys health path _)
    have hsingle : ∀ (f : String → Option WatchAction) (path : String),
        ((some path).bind f).toList = [path].filterMap f := by
      intro f path
      cases hpath : f path <;> simp [hpath]
    match paths with
    | [] => exact ⟨[], List.nil_sublist _, .nil⟩
    | [source] =>
      refine ⟨[source].filter fun path => NamesNode root keys path, List.filter_sublist, ?_⟩
      simp only [classify, List.head?_cons, hsingle, List.getElem?_cons_succ, List.getElem?_nil,
        Option.bind_none, Option.toList_none, List.append_nil]
      exact hone .unhealthy source
    | source :: target :: rest =>
      refine ⟨([source].filter fun path => NamesNode root keys path) ++
        [target].filter fun path => NamesNode root keys path, ?_, ?_⟩
      · exact (List.filter_sublist.append List.filter_sublist).trans
          (List.sublist_append_left [source, target] rest)
      · simp only [classify, List.head?_cons, List.getElem?_cons_succ, List.getElem?_cons_zero,
          hsingle]
        exact List.rel_append (hone .unhealthy source) (hone .healthy target)

/-- **A plugin follows a directory**: what it does about the reports that it gets. -/
structure FollowsDirectory (root : String) (keys : List String) (socket : String) : Prop where
  /-- Units that agree with the directory agree with it after any number of changes. -/
  agrees : ∀ names reports names', EntryChanges root names reports names' →
    ∀ units : List AdvertisedUnit, units.map AdvertisedUnit.key = keys → AgreeWith names units →
      ∀ seen : List (FileTree × FileEvent), seen.map Prod.snd = reports →
        AgreeWith names' ((ofUnits root keys socket).follow units seen)
  /-- Nothing but their health changes, whatever is reported. -/
  places : ∀ units seen, ((ofUnits root keys socket).follow units seen).map AdvertisedUnit.place =
    units.map AdvertisedUnit.place
  /-- For each path that is there now and names a node, the unit of the node gets healthy. -/
  appears : ∀ t e, e.change = .created ∨ e.change = .renamedTo →
    List.Forall₂ (IsDoneFor root keys .healthy)
      (e.paths.filter fun path => NamesNode root keys path)
      ((ofUnits root keys socket).classify t e)
  /-- For each path that is no more and names a node, the unit of the node gets unhealthy, unless
  the socket is no more. -/
  disappears : ∀ t e, (e.change = .renamedFrom ∨
      e.change = .removed ∧ ∀ path ∈ e.paths, ¬ SamePath path socket) →
    List.Forall₂ (IsDoneFor root keys .unhealthy)
      (e.paths.filter fun path => NamesNode root keys path)
      ((ofUnits root keys socket).classify t e)
  /-- But for a restart, nothing is done except for paths that name nodes, and in their order. -/
  onlyNodes : ∀ t e, .restart ∉ (ofUnits root keys socket).classify t e →
    ∃ told, told.Sublist e.paths ∧ List.Forall₂
      (fun path action => ∃ health, IsDoneFor root keys health path action) told
        ((ofUnits root keys socket).classify t e)
  /-- A restart is asked for exactly if the socket is no more. -/
  restarts : ∀ t e, .restart ∈ (ofUnits root keys socket).classify t e ↔
    e.change = .removed ∧ ∃ path ∈ e.paths, SamePath path socket
  /-- Then nothing else is done. -/
  alone : ∀ t e, .restart ∈ (ofUnits root keys socket).classify t e →
    (ofUnits root keys socket).classify t e = [.restart]

/-- **A plugin follows the directory of its nodes**, if their names are different and none of them
is the socket. -/
theorem followsDirectory_ofUnits (hnodup : keys.Nodup) (hnames : ∀ key ∈ keys, Path.IsName key)
    (hsocket : ∀ key ∈ keys, ¬ SamePath (Path.join root key) socket) :
    FollowsDirectory root keys socket := by
  have hapart : NodesApart root keys socket :=
    ⟨fun a ha b hb hsame => (hnames a ha).eq_of_samePath (hnames b hb) hsame, hsocket⟩
  refine ⟨?_, ?_, fun t e => classify_appears hapart, fun t e => classify_disappears hapart, ?_,
    fun t e => restart_mem_classify_iff, ?_⟩
  · intro names reports names' hchanges units hunits hagree seen hseen
    exact agreeWith_follow hnodup hapart hnames hchanges hunits hagree hseen
  · intro units seen
    rw [follow_eq_unitsAfter, map_place_unitsAfter]
  · intro t e hnone
    rw [restart_mem_classify_iff] at hnone
    exact exists_forall₂_classify hapart hnone
  · intro t e hrestart
    obtain ⟨hchange, path, hpath, hsame⟩ := restart_mem_classify_iff.1 hrestart
    obtain ⟨change, paths⟩ := e
    obtain rfl : change = .removed := hchange
    exact classify_remove_socket hpath hsame

/-- The node of one unit gets the name of another, whose path is spelt in another way: the other
unit is healthy from then on. -/
theorem followsDirectory_renamedOnto :
    let reports : List FileEvent := [⟨.renamedFrom, ["/dev/vfio/1"]⟩,
      ⟨.renamedTo, ["/dev//vfio/2/"]⟩, ⟨.renamedBoth, ["/dev/vfio/1", "/dev//vfio/2/"]⟩]
    EntryChanges "/dev/vfio" {"1"} reports (insert "2" ({"1"} \ {"1"})) ∧
      (ofUnits "/dev/vfio" ["1", "2"] "/run/vfio.sock").follow
          [⟨"1", .healthy, none⟩, ⟨"2", .unhealthy, none⟩] (reports.map (FileTree.empty, ·)) =
        [⟨"1", .unhealthy, none⟩, ⟨"2", .healthy, none⟩] ∧
      FollowsDirectory "/dev/vfio" ["1", "2"] "/run/vfio.sock" := by
  intro reports
  have hrename : EntryChange "/dev/vfio" {"1"} reports (insert "2" ({"1"} \ {"1"})) :=
    .rename (by decide +kernel) (by decide +kernel) (Set.mem_singleton "1") (by decide +kernel)
      (by decide +kernel) (.inr rfl)
  exact ⟨.cons hrename (.refl _), by decide +kernel,
    followsDirectory_ofUnits (by decide) (by decide +kernel) (by decide +kernel)⟩

end WatchTargets

end GpuPassthrough
