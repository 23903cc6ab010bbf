import GpuPassthrough.Proofs.Cdi.WriteSpec
import GpuPassthrough.Proofs.FileTree.CreateAll

/-!
# What a Pass Publishes

A pass works through its plan in order and stops at the first entry that fails. Whatever stops it,
the specifications of the entries before are in their places, whole, and nothing else has changed but
the first names of specifications, under which nothing is left.

## Main results

* `Publication.publish`, `Publication.retract`: what one write keeps, whether it succeeds or not.
* `exists_stopsBetween_writePlan`: what a plan publishes, from any point of a pass on.
* `publishesPrefix_writeAll`: what a pass publishes.
-/

namespace GpuPassthrough.Cdi

open FileTree

namespace Store

/-! ### The files of a pass -/

/-- The last of some specifications that belongs into the file of one. -/
def lastOf? (published : List Spec) (spec : Spec) : Option Spec :=
  (published.filter fun other => other.fileName = spec.fileName).getLast?

/-- A specification is the last of its file where it is published. -/
theorem lastOf?_concat_of_eq {published : List Spec} {a b : Spec} (hname : b.fileName = a.fileName) :
    lastOf? (published ++ [b]) a = some b := by
  rw [lastOf?, List.filter_append, List.filter_singleton]
  simp [hname]

/-- It does not replace one of another file. -/
theorem lastOf?_concat_of_ne {published : List Spec} {a b : Spec} (hname : b.fileName ≠ a.fileName) :
    lastOf? (published ++ [b]) a = lastOf? published a := by
  rw [lastOf?, List.filter_append, List.filter_singleton]
  simp [hname, lastOf?]

/-- **The files in the course of a pass**: which tree it started from, once the directory was made,
which specifications it plans to write, and which of them it has published. -/
structure Publication (cdiRoot : String) (planned : List Spec) (made : FileTree)
    (published : List Spec) (t : FileTree) : Prop where
  members : published ⊆ planned
  /-- No directory and no link is new. -/
  narrows : made.Narrows t
  /-- A published specification is in its place, whole, or the last one that belongs there is. -/
  files : ∀ spec ∈ published, ∃ place last,
    made.resolve .entry (specPath cdiRoot spec) = .ok place ∧
      lastOf? published spec = some last ∧ t.find? place = some (.file (.text last.toYaml))
  /-- Nothing is left under its first name. -/
  temporaries : ∀ spec ∈ published, ∀ place,
    made.resolve .entry (temporaryPath cdiRoot spec) = .ok place → t.find? place = none
  /-- Everything else is as it was, but under a first name there may be nothing any more. -/
  others : ∀ place,
    (∀ spec ∈ published, made.resolve .entry (specPath cdiRoot spec) ≠ .ok place) →
      t.find? place = made.find? place ∨
        t.find? place = none ∧ ∃ spec ∈ planned,
          made.resolve .entry (temporaryPath cdiRoot spec) = .ok place

variable {cdiRoot : String} {planned published : List Spec} {made t : FileTree} {spec : Spec}
  {temporary place : Location}

/-- Nothing is published at first. -/
theorem Publication.start (cdiRoot : String) (planned : List Spec) (made : FileTree) :
    Publication cdiRoot planned made [] made where
  members := List.nil_subset planned
  narrows := .refl made
  files := nofun
  temporaries := nofun
  others _ _ := .inl rfl

/-- A tree from which a file was cleared has no new directories and links. -/
theorem narrows_of_cleared (hne : temporary ≠ []) (content : Text.Octets) :
    t.Narrows (cleared t temporary content) := by
  have hothers : ∀ other, other ≠ temporary →
      (cleared t temporary content).find? other = t.find? other := by
    intro other hother
    rw [find?_cleared hne, if_neg hother]
  have hnone : (cleared t temporary content).find? temporary = none := by
    rw [find?_cleared hne, if_pos rfl]
  exact .of_change rfl hothers (hnone ▸ ⟨nofun, nofun⟩)

/-- Nor has a tree in which a file was put. -/
theorem narrows_set_file (hne : place ≠ []) (content : Text.Octets) :
    t.Narrows (t.set place (.file content)) := by
  have hfile : (t.set place (.file content)).find? place = some (.file content) :=
    find?_set_self hne
  exact .of_change rfl (fun _ hother => find?_set_of_ne hother) (hfile ▸ ⟨nofun, nofun⟩)

section Step

variable (hpublication : Publication cdiRoot planned made published t) (hspec : spec ∈ planned)
  (htemporary : t.resolve .entry (temporaryPath cdiRoot spec) = .ok temporary)

include hpublication hspec htemporary

/-- **A specification that cannot be published changes nothing**, but for what stood under its first
name. -/
theorem Publication.retract (hvendor : ∀ spec ∈ planned, validate spec.vendor = .ok ())
    (content : Text.Octets) :
    Publication cdiRoot planned made published (cleared t temporary content) := by
  have hne := temporary_ne_nil htemporary
  have htemporary' := resolve_temporaryPath_of_narrows hpublication.narrows htemporary
  constructor
  case members => exact hpublication.members
  case narrows => exact hpublication.narrows.trans (narrows_of_cleared hne content)
  case files =>
    intro other hother
    obtain ⟨place, last, hplace, hlast, hfile⟩ := hpublication.files other hother
    have hapart : place ≠ temporary :=
      place_ne (hvendor other (hpublication.members hother)) hplace htemporary'
    exact ⟨place, last, hplace, hlast, by rw [find?_cleared hne, if_neg hapart, hfile]⟩
  case temporaries =>
    intro other hother place hplace
    rw [find?_cleared hne, hpublication.temporaries other hother place hplace, ite_self]
  case others =>
    intro place hplace
    rw [find?_cleared hne]
    split
    · next heq => exact .inr ⟨rfl, spec, hspec, heq ▸ htemporary'⟩
    · exact hpublication.others place hplace

/-- **A specification that is published** is in its place; whatever else was published is where it
was, unless it belongs into the same file. -/
theorem Publication.publish (hvendor : ∀ spec ∈ planned, validate spec.vendor = .ok ())
    (hplace : t.resolve .entry (specPath cdiRoot spec) = .ok place) :
    Publication cdiRoot planned made (published ++ [spec])
      ((cleared t temporary (.text spec.toYaml)).set place (.file (.text spec.toYaml))) := by
  have hretract := hpublication.retract hspec htemporary hvendor (.text spec.toYaml)
  have hne := place_ne_nil hplace
  have hplace' := resolve_specPath_of_narrows hpublication.narrows hplace
  have htemporary' := resolve_temporaryPath_of_narrows hpublication.narrows htemporary
  constructor
  case members =>
    exact List.append_subset.2 ⟨hpublication.members, List.cons_subset.2 ⟨hspec, List.nil_subset _⟩⟩
  case narrows => exact hretract.narrows.trans (narrows_set_file hne _)
  case files =>
    intro other hother
    by_cases hname : spec.fileName = other.fileName
    · have hsame : specPath cdiRoot other = specPath cdiRoot spec := by
        rw [specPath, specPath, hname]
      have hother' : made.resolve .entry (specPath cdiRoot other) = .ok place := by
        rw [hsame]
        exact hplace'
      exact ⟨place, spec, hother', lastOf?_concat_of_eq hname, find?_set_self hne⟩
    · have hother' : other ∈ published := by
        refine (List.mem_append.1 hother).resolve_right fun hmem => hname ?_
        rw [List.mem_singleton.1 hmem]
      obtain ⟨spot, last, hspot, hlast, hfile⟩ := hretract.files other hother'
      refine ⟨spot, last, hspot, (lastOf?_concat_of_ne hname).trans hlast, ?_⟩
      have hapart : spot ≠ place := by
        rintro rfl
        exact hname (eq_of_resolve_join (Spec.slash_not_mem_fileName spec)
          (Spec.component?_fileName spec) (Spec.slash_not_mem_fileName other)
          (Spec.component?_fileName other) hplace' hspot)
      rw [find?_set_of_ne hapart, hfile]
  case temporaries =>
    intro other hother spot hspot
    have hapart : spot ≠ place :=
      fun heq => place_ne (hvendor spec hspec) hplace' hspot heq.symm
    rw [find?_set_of_ne hapart]
    obtain hother | hother := List.mem_append.1 hother
    · exact hretract.temporaries other hother spot hspot
    · obtain rfl := List.mem_singleton.1 hother
      obtain rfl := Except.ok.inj (htemporary'.symm.trans hspot)
      rw [find?_cleared (temporary_ne_nil htemporary), if_pos rfl]
  case others =>
    intro spot hspot
    have hapart : spot ≠ place := by
      rintro rfl
      exact hspot spec (List.mem_append_right _ (List.mem_singleton_self spec)) hplace'
    rw [find?_set_of_ne hapart]
    exact hretract.others spot fun other hother => hspot other (List.mem_append_left _ hother)

end Step

/-! ### Where a pass stops -/

/-- How an entry of a plan fails on a tree, and with which error. -/
inductive EntryFails (snapshot : Snapshot) (c : Config) (t : FileTree) :
    String × Scope → PluginError → Prop
  /-- The name of its class is no half of a kind. -/
  | invalidClass {className : String} {scope : Scope} {fault : KindFault}
      (hclass : validate className = .error fault) :
      EntryFails snapshot c t (className, scope) (fault.toError className)
  /-- Its specification cannot be written under its first name. -/
  | failedWrite {className : String} {scope : Scope} {spec : Spec} {cause : IoFailure}
      (hclass : validate className = .ok ())
      (hspec : Spec.build? snapshot c className scope = some spec)
      (hwrite : t.write (temporaryPath c.cdiRoot spec) (.text spec.toYaml) = .error cause) :
      EntryFails snapshot c t (className, scope) (.io (temporaryPath c.cdiRoot spec) cause)
  /-- Its specification can be written under its first name, and not renamed. -/
  | failedRename {className : String} {scope : Scope} {spec : Spec} {written : FileTree}
      {cause : IoFailure} (hclass : validate className = .ok ())
      (hspec : Spec.build? snapshot c className scope = some spec)
      (hwrite : t.write (temporaryPath c.cdiRoot spec) (.text spec.toYaml) = .ok written)
      (hrename : written.rename (temporaryPath c.cdiRoot spec) (specPath c.cdiRoot spec) =
        .error cause) :
      EntryFails snapshot c t (className, scope) (.io (specPath c.cdiRoot spec) cause)

/-- What a pass returns on a tree where some entries of its plan are done and others are left. -/
inductive Ends (snapshot : Snapshot) (c : Config) (t : FileTree) (done : List (String × Scope)) :
    List (String × Scope) → Except PluginError (List String) → Prop
  /-- Nothing is left: the paths of the specifications that were published, in their order. -/
  | well : Ends snapshot c t done [] (.ok ((specsOf snapshot c done).map (specPath c.cdiRoot)))
  /-- The first entry that is left fails. -/
  | badly {entry : String × Scope} {rest : List (String × Scope)} {e : PluginError}
      (hfails : EntryFails snapshot c t entry e) :
      Ends snapshot c t done (entry :: rest) (.error e)

/-- **A pass that was at a store stops between two entries**: those it has done, and those that are
left. -/
structure StopsBetween (snapshot : Snapshot) (c : Config) (s : Store)
    (outcome : Store × Except PluginError (List String)) (done left : List (String × Scope)) :
    Prop where
  /-- The names of the classes that are done are valid. -/
  classes : ∀ entry ∈ done, validate entry.1 = .ok ()
  /-- Every specification is counted. -/
  counted : outcome.1.metrics.value .specsWritten =
    s.metrics.value .specsWritten + (specsOf snapshot c done).length
  /-- Nothing else is counted. -/
  uncounted : ∀ series, series ≠ .specsWritten →
    outcome.1.metrics.value series = s.metrics.value series
  ends : Ends snapshot c outcome.1.tree done left outcome.2

variable {snapshot : Snapshot} {c : Config} {s : Store}

/-- A pass can stop at once. -/
theorem StopsBetween.start {outcome : Store × Except PluginError (List String)}
    {left : List (String × Scope)} (hmetrics : outcome.1.metrics = s.metrics)
    (hends : Ends snapshot c outcome.1.tree [] left outcome.2) :
    StopsBetween snapshot c s outcome [] left where
  classes := nofun
  counted := by rw [hmetrics]; rfl
  uncounted _ _ := by rw [hmetrics]
  ends := hends

/-- A pass goes on from an entry without devices. -/
theorem StopsBetween.skip {outcome : Store × Except PluginError (List String)}
    {done left : List (String × Scope)} {className : String} {scope : Scope}
    (hstops : StopsBetween snapshot c s outcome done left)
    (hclass : validate className = .ok ())
    (hspec : Spec.build? snapshot c className scope = none) :
    StopsBetween snapshot c s outcome ((className, scope) :: done) left := by
  have hspecs : specsOf snapshot c ((className, scope) :: done) = specsOf snapshot c done :=
    specsOf_cons_of_none hspec done
  refine ⟨List.forall_mem_cons.2 ⟨hclass, hstops.classes⟩, ?_, hstops.uncounted, ?_⟩
  · rw [hspecs, hstops.counted]
  · obtain ⟨s', result⟩ := outcome
    cases hstops.ends with
    | well => rw [← hspecs]; exact .well
    | badly hfails => exact .badly hfails

/-- A pass goes on from an entry that was published. -/
theorem StopsBetween.publish {t : FileTree} {outcome : Store × Except PluginError (List String)}
    {done left : List (String × Scope)} {className : String} {scope : Scope} {spec : Spec}
    (hstops : StopsBetween snapshot c ⟨t, s.metrics.increment .specsWritten⟩ outcome done left)
    (hclass : validate className = .ok ())
    (hspec : Spec.build? snapshot c className scope = some spec) :
    StopsBetween snapshot c s
      (outcome.1, outcome.2.map fun paths => specPath c.cdiRoot spec :: paths)
      ((className, scope) :: done) left := by
  have hspecs : specsOf snapshot c ((className, scope) :: done) = spec :: specsOf snapshot c done :=
    specsOf_cons_of_some hspec done
  refine ⟨List.forall_mem_cons.2 ⟨hclass, hstops.classes⟩, ?_, fun series hseries => ?_, ?_⟩
  · have hcounted := hstops.counted
    dsimp only at hcounted ⊢
    rw [Metrics.value_increment_self] at hcounted
    rw [hcounted, hspecs, List.length_cons, Nat.add_assoc, Nat.add_comm 1]
  · exact (hstops.uncounted series hseries).trans (Metrics.value_increment_of_ne _ hseries)
  · obtain ⟨s', result⟩ := outcome
    cases hstops.ends with
    | well =>
      rw [Except.map, ← List.map_cons, ← hspecs]
      exact .well
    | badly hfails => exact .badly hfails

/-! ### The run of a pass -/

/-- Where there was no link, there is none after directories and links went. -/
theorem readLink_ne_of_narrows (hnarrows : made.Narrows t)
    (hlink : ∀ target, made.readLink (temporaryPath cdiRoot spec) ≠ .ok target)
    (target : Text.Octets) : t.readLink (temporaryPath cdiRoot spec) ≠ .ok target := by
  cases hresolve : t.resolve .entry (temporaryPath cdiRoot spec) with
  | error cause =>
    rw [readLink, hresolve]
    intro hlink'
    cases hlink'
  | ok place =>
    refine readLink_ne_ok hresolve (fun target' hfind => hlink target' ?_) target
    rw [readLink, resolve_temporaryPath_of_narrows hnarrows hresolve]
    simp only [Bind.bind, Except.bind, hnarrows.links place target' hfind]

/-- A specification whose place is a directory fails to be renamed again. -/
theorem entryFails_of_directory {className : String} {scope : Scope} {spec : Spec}
    (hvendor : validate spec.vendor = .ok ()) (hclass : validate className = .ok ())
    (hspec : Spec.build? snapshot c className scope = some spec)
    (htemporary : t.resolve .entry (temporaryPath c.cdiRoot spec) = .ok temporary)
    (hplace : t.resolve .entry (specPath c.cdiRoot spec) = .ok place)
    (hidle : IsIdle (t.find? temporary)) (hdirectory : t.find? place = some .directory)
    (content : Text.Octets) :
    EntryFails snapshot c (cleared t temporary content) (className, scope)
      (.io (specPath c.cdiRoot spec) .isDirectory) := by
  have hne := temporary_ne_nil htemporary
  have hnarrows := narrows_cleared hne hidle content
  have htemporary' := resolve_temporaryPath_of_narrows hnarrows htemporary
  have hplace' := resolve_specPath_of_narrows hnarrows hplace
  have hnone : (cleared t temporary content).find? temporary = none := by
    rw [find?_cleared hne, if_pos rfl]
  have hdirectory' : (cleared t temporary content).find? place = some .directory := by
    rw [find?_cleared hne, if_neg (place_ne hvendor hplace htemporary), hdirectory]
  refine .failedRename hclass hspec (write_of_none htemporary' hnone _) ?_
  rw [rename_of_set htemporary' (hnone ▸ ⟨nofun, nofun⟩) _ hvendor hplace', if_pos hdirectory']

/-- A pass goes on after a specification was written, and its path comes first. -/
theorem writePlan_cons_of_ok {className path : String} {scope : Scope} {spec : Spec} {s' : Store}
    (hclass : validate className = .ok ())
    (hspec : Spec.build? snapshot c className scope = some spec)
    (hwrite : s.writeSpec c.cdiRoot spec = (s', .ok path)) (rest : List (String × Scope)) :
    s.writePlan snapshot c ((className, scope) :: rest) =
      ((s'.writePlan snapshot c rest).1,
        (s'.writePlan snapshot c rest).2.map fun paths => path :: paths) := by
  rw [writePlan_cons, hclass, hspec]
  dsimp only
  rw [hwrite]
  dsimp only
  rcases s'.writePlan snapshot c rest with ⟨last, result⟩
  cases result <;> rfl

/-- A pass stops at a specification that cannot be written. -/
theorem writePlan_cons_of_error {className : String} {scope : Scope} {spec : Spec} {s' : Store}
    {e : PluginError} (hclass : validate className = .ok ())
    (hspec : Spec.build? snapshot c className scope = some spec)
    (hwrite : s.writeSpec c.cdiRoot spec = (s', .error e)) (rest : List (String × Scope)) :
    s.writePlan snapshot c ((className, scope) :: rest) = (s', .error e) := by
  rw [writePlan_cons, hclass, hspec]
  dsimp only
  rw [hwrite]

/-- A pass stops where its first entry fails. -/
theorem exists_stopsBetween_of_fails {entry : String × Scope} {rest : List (String × Scope)}
    {s' : Store} {e : PluginError}
    (hresult : s.writePlan snapshot c (entry :: rest) = (s', .error e))
    (hmetrics : s'.metrics = s.metrics) (hfails : EntryFails snapshot c s'.tree entry e)
    (hpublication : Publication c.cdiRoot planned made published s'.tree) :
    ∃ done left, entry :: rest = done ++ left ∧
      StopsBetween snapshot c s (s.writePlan snapshot c (entry :: rest)) done left ∧
      Publication c.cdiRoot planned made (published ++ specsOf snapshot c done)
        (s.writePlan snapshot c (entry :: rest)).1.tree := by
  rw [hresult]
  refine ⟨[], entry :: rest, rfl, .start hmetrics (.badly hfails), ?_⟩
  rw [specsOf, List.filterMap_nil, List.append_nil]
  exact hpublication

/-- **What a plan publishes**, from any point of a pass on. -/
theorem exists_stopsBetween_writePlan
    (hvendor : ∀ spec ∈ planned, validate spec.vendor = .ok ())
    (hlink : ∀ spec ∈ planned, ∀ target,
      made.readLink (temporaryPath c.cdiRoot spec) ≠ .ok target)
    (entries : List (String × Scope)) (hplanned : specsOf snapshot c entries ⊆ planned)
    (hpublication : Publication c.cdiRoot planned made published s.tree) :
    ∃ done left, entries = done ++ left ∧
      StopsBetween snapshot c s (s.writePlan snapshot c entries) done left ∧
      Publication c.cdiRoot planned made (published ++ specsOf snapshot c done)
        (s.writePlan snapshot c entries).1.tree := by
  induction entries generalizing s published with
  | nil =>
    refine ⟨[], [], rfl, .start rfl .well, ?_⟩
    rw [specsOf, List.filterMap_nil, List.append_nil]
    exact hpublication
  | cons entry rest ih =>
    obtain ⟨className, scope⟩ := entry
    cases hclass : validate className with
    | error fault =>
      have hresult : s.writePlan snapshot c ((className, scope) :: rest) =
          (s, .error (fault.toError className)) := by
        rw [writePlan_cons, hclass]
      exact exists_stopsBetween_of_fails hresult rfl (.invalidClass hclass) hpublication
    | ok _ =>
    cases hspec : Spec.build? snapshot c className scope with
    | none =>
      have hresult : s.writePlan snapshot c ((className, scope) :: rest) =
          s.writePlan snapshot c rest := by
        rw [writePlan_cons, hclass, hspec]
      rw [specsOf_cons_of_none hspec] at hplanned
      obtain ⟨done, left, rfl, hstops, hdone⟩ := ih hplanned hpublication
      rw [hresult]
      refine ⟨(className, scope) :: done, left, rfl, hstops.skip hclass hspec, ?_⟩
      rw [specsOf_cons_of_none hspec]
      exact hdone
    | some spec =>
      rw [specsOf_cons_of_some hspec] at hplanned
      obtain ⟨hmem, hrest⟩ := List.cons_subset.1 hplanned
      have hlink' := readLink_ne_of_narrows hpublication.narrows (hlink spec hmem)
      obtain ⟨cause, hwrite, hone⟩ | ⟨temporary, place, htemporary, hplace, hidle,
        ⟨hdirectory, hone⟩ | ⟨-, hone⟩⟩ := writeSpec_cases (hvendor spec hmem) hlink'
      · exact exists_stopsBetween_of_fails (writePlan_cons_of_error hclass hspec hone rest) rfl
          (.failedWrite hclass hspec hwrite) hpublication
      · have hfails := entryFails_of_directory (hvendor spec hmem) hclass hspec htemporary hplace
          hidle hdirectory (.text spec.toYaml)
        exact exists_stopsBetween_of_fails (writePlan_cons_of_error hclass hspec hone rest) rfl
          hfails (hpublication.retract hmem htemporary hvendor (.text spec.toYaml))
      · rw [writePlan_cons_of_ok hclass hspec hone]
        have hpublished := hpublication.publish hmem htemporary hvendor hplace
        obtain ⟨done, left, rfl, hstops, hdone⟩ := ih (s := ⟨_, _⟩) hrest hpublished
        refine ⟨(className, scope) :: done, left, rfl, hstops.publish hclass hspec, ?_⟩
        rw [specsOf_cons_of_some hspec, List.append_cons]
        exact hdone

/-! ### A whole pass -/

/-- **A pass publishes a prefix of its plan, in whole files.** -/
structure PublishesPrefix (s : Store) (snapshot : Snapshot) (c : Config) : Prop where
  /-- An invalid vendor stops it before anything is made. -/
  vendor : ∀ fault, validate c.cdiVendor = .error fault →
    s.writeAll snapshot c = (s, .error (fault.toError c.cdiVendor))
  /-- Making the directory changes nothing that is there. -/
  adds : AddsDirectories (Path.ancestors c.cdiRoot) s.tree (s.tree.createAll c.cdiRoot).1
  /-- Where the directory is there, nothing is made. -/
  keeps : s.tree.isDirectory c.cdiRoot = true → s.tree.createAll c.cdiRoot = (s.tree, .ok ())
  /-- A directory that cannot be made stops it before anything is written. -/
  directory : validate c.cdiVendor = .ok () → ∀ made cause,
    s.tree.createAll c.cdiRoot = (made, .error cause) →
      s.writeAll snapshot c = ({ s with tree := made }, .error (.io c.cdiRoot cause))
  /-- Else it stops between two entries of its plan, and publishes those that it has done. -/
  stops : validate c.cdiVendor = .ok () → ∀ made, s.tree.createAll c.cdiRoot = (made, .ok ()) →
    ∃ done left, plan snapshot c = done ++ left ∧
      StopsBetween snapshot c s (s.writeAll snapshot c) done left ∧
      Publication c.cdiRoot (specsOf snapshot c (plan snapshot c)) made
        (specsOf snapshot c done) (s.writeAll snapshot c).1.tree
  /-- No specification of the plan is written first where another one belongs. -/
  apart : validate c.cdiVendor = .ok () → ∀ made : FileTree,
    ∀ a ∈ specsOf snapshot c (plan snapshot c), ∀ b ∈ specsOf snapshot c (plan snapshot c),
      ∀ place, made.resolve .entry (specPath c.cdiRoot a) = .ok place →
        made.resolve .entry (temporaryPath c.cdiRoot b) ≠ .ok place

/-- The specifications of a plan have the vendor of the configuration. -/
theorem vendor_of_mem_specsOf {entries : List (String × Scope)}
    (hspec : spec ∈ specsOf snapshot c entries) : spec.vendor = c.cdiVendor := by
  obtain ⟨entry, -, hbuild⟩ := List.mem_filterMap.1 hspec
  exact (Spec.kind_of_build? hbuild).1

/-- On a host without files there is no link under a first name. -/
theorem readLink_sharedAlias_ne_ok :
    ∀ spec ∈ specsOf gpuAndSwitch sharedAlias (plan gpuAndSwitch sharedAlias), ∀ target,
      (FileTree.empty.createAll sharedAlias.cdiRoot).1.readLink
        (temporaryPath sharedAlias.cdiRoot spec) ≠ .ok target := by
  have hspecs : specsOf gpuAndSwitch sharedAlias (plan gpuAndSwitch sharedAlias) =
      [passthroughSpec ["0", "1"] "1", passthroughSpec ["0", "2"] "2"] := by
    rw [plan_sharedAlias, specsOf_cons_of_some build?_gpu, specsOf_cons_of_some build?_switch]
    rfl
  have hpaths : ∀ spec ∈ [passthroughSpec ["0", "1"] "1", passthroughSpec ["0", "2"] "2"],
      temporaryPath sharedAlias.cdiRoot spec = "/cdi/.nvidia.com-passthrough.yaml.tmp" := by
    decide
  have habsent : bareTree.readLink "/cdi/.nvidia.com-passthrough.yaml.tmp" = .error .notFound := by
    decide +kernel
  intro spec hspec target hread
  rw [hspecs] at hspec
  rw [hpaths spec hspec] at hread
  cases habsent.symm.trans hread

end Store

end GpuPassthrough.Cdi
