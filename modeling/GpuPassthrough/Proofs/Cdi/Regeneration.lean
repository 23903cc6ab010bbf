import GpuPassthrough.Proofs.Cdi.Publication
import GpuPassthrough.Proofs.FileTree.Listing

/-!
# Writing the Specifications Again

A pass that ended well has put every specification in its place and left nothing under a first name.
A second pass finds the same directory, writes where nothing stands, and renames over files that hold
what it writes, so it ends well, too, and the tree is the one that it found. The path of the directory
has to lead where it led: it may go through a link that the first pass has put a specification in
place of, and then there is no way to a second one.

## Main results

* `exists_writePlan_again`: a plan that was written can be written again.
* `base_eq_of_no_link`: the path of the directory leads where it led, unless a link was replaced.
* `exists_isRegenerated`: a pass after one that ended well changes nothing.
* `writeAll_throughOwnPlace`: a pass whose directory is reached through the place of a specification
  cannot be repeated.
-/

namespace GpuPassthrough.Cdi

open FileTree

namespace Store

variable {s s' : Store} {snapshot : Snapshot} {c : Config} {cdiRoot : String}
  {planned published : List Spec} {made t t' : FileTree} {spec : Spec} {place above : Location}
  {entries : List (String × Scope)} {paths : List String}

/-! ### What a plan leaves -/

/-- **What counts on a way stays**: directories, and links but those in whose place there is a
specification now. -/
structure Stays (cdiRoot : String) (written : List Spec) (t t' : FileTree) : Prop where
  directories : ∀ place, t.find? place = some .directory → t'.find? place = some .directory
  links : ∀ place target, t.find? place = some (.link target) →
    t'.find? place = some (.link target) ∨
      ∃ spec ∈ written, t.resolve .entry (specPath cdiRoot spec) = .ok place

/-- What a specification that is written replaces is no directory. -/
theorem stays_of_published {temporary : Location} (hne : temporary ≠ [])
    (hidle : IsIdle (t.find? temporary)) (hplace : t.resolve .entry (specPath cdiRoot spec) = .ok place)
    (hdirectory : t.find? place ≠ some .directory) (content content' : Text.Octets) :
    Stays cdiRoot [spec] t ((cleared t temporary content).set place (.file content')) where
  directories other hother := by
    have hne' : other ≠ temporary := by
      rintro rfl
      exact hidle.ne_directory hother
    have hne'' : other ≠ place := by
      rintro rfl
      exact hdirectory hother
    rw [find?_set_of_ne hne'', find?_cleared hne, if_neg hne', hother]
  links other target hother := by
    by_cases hsame : other = place
    · exact .inr ⟨spec, List.mem_singleton_self spec, hsame ▸ hplace⟩
    · have hne' : other ≠ temporary := by
        rintro rfl
        exact hidle.ne_link target hother
      rw [find?_set_of_ne hsame, find?_cleared hne, if_neg hne', hother]
      exact .inl rfl

/-- What stays when some specifications are written and then others. -/
theorem Stays.trans {first rest : List Spec} {t'' : FileTree} (hfirst : Stays cdiRoot first t t')
    (hrest : Stays cdiRoot rest t' t'') (hnarrows : t.Narrows t') :
    Stays cdiRoot (first ++ rest) t t'' where
  directories place hplace := hrest.directories place (hfirst.directories place hplace)
  links place target hplace := by
    obtain hstays | ⟨spec, hspec, hresolve⟩ := hfirst.links place target hplace
    · refine (hrest.links place target hstays).imp_right ?_
      rintro ⟨spec, hspec, hresolve⟩
      exact ⟨spec, List.mem_append_right _ hspec, resolve_specPath_of_narrows hnarrows hresolve⟩
    · exact .inr ⟨spec, List.mem_append_left _ hspec, hresolve⟩

/-- **A plan that was written**: the first names of its specifications lead somewhere, and what counts
on a way stays. -/
theorem stays_of_writePlan
    (hvendor : ∀ spec ∈ specsOf snapshot c entries, validate spec.vendor = .ok ())
    (hlink : ∀ spec ∈ specsOf snapshot c entries, ∀ target,
      s.tree.readLink (temporaryPath c.cdiRoot spec) ≠ .ok target)
    (hwrite : s.writePlan snapshot c entries = (s', .ok paths)) :
    (∀ spec ∈ specsOf snapshot c entries, ∃ temporary,
        s.tree.resolve .entry (temporaryPath c.cdiRoot spec) = .ok temporary) ∧
      Stays c.cdiRoot (specsOf snapshot c entries) s.tree s'.tree := by
  induction entries generalizing s paths with
  | nil =>
    rw [writePlan_nil] at hwrite
    obtain ⟨rfl, -⟩ := Prod.mk.inj hwrite
    exact ⟨nofun, fun _ => id, fun _ _ => .inl⟩
  | cons entry rest ih =>
    obtain ⟨-, ⟨hspec, hrest⟩ | ⟨spec, next, path, others, hspec, hone, hrest, -⟩⟩ :=
      entry_of_writePlan hwrite
    · rw [specsOf_cons_of_none hspec] at hvendor hlink ⊢
      exact ih hvendor hlink hrest
    · rw [specsOf_cons_of_some hspec] at hvendor hlink ⊢
      obtain ⟨hvendor, hvendors⟩ := List.forall_mem_cons.1 hvendor
      obtain ⟨hlink, hlinks⟩ := List.forall_mem_cons.1 hlink
      obtain ⟨cause, -, hfails⟩ | ⟨temporary, place, htemporary, hplace, hidle,
        ⟨-, hfails⟩ | ⟨hdirectory, hwritten⟩⟩ := writeSpec_cases hvendor hlink
      · cases (Prod.mk.inj (hfails.symm.trans hone)).2
      · cases (Prod.mk.inj (hfails.symm.trans hone)).2
      · obtain ⟨rfl, -⟩ := Prod.mk.inj (hwritten.symm.trans hone)
        have hne := temporary_ne_nil htemporary
        have hnarrows : s.tree.Narrows ((cleared s.tree temporary (.text spec.toYaml)).set place
            (.file (.text spec.toYaml))) :=
          (narrows_of_cleared hne _).trans (narrows_set_file (place_ne_nil hplace) _)
        obtain ⟨hresolves, hstays⟩ := ih hvendors
          (fun other hother => readLink_ne_of_narrows hnarrows (hlinks other hother)) hrest
        refine ⟨List.forall_mem_cons.2 ⟨⟨temporary, htemporary⟩, fun other hother => ?_⟩, ?_⟩
        · obtain ⟨spot, hspot⟩ := hresolves other hother
          exact ⟨spot, resolve_temporaryPath_of_narrows hnarrows hspot⟩
        · exact (stays_of_published hne hidle hplace hdirectory _ _).trans hstays hnarrows

/-- **A plan that was written is published as a whole.** -/
theorem publication_of_writePlan
    (hvendor : ∀ spec ∈ specsOf snapshot c entries, validate spec.vendor = .ok ())
    (hlink : ∀ spec ∈ specsOf snapshot c entries, ∀ target,
      s.tree.readLink (temporaryPath c.cdiRoot spec) ≠ .ok target)
    (hwrite : s.writePlan snapshot c entries = (s', .ok paths)) :
    Publication c.cdiRoot (specsOf snapshot c entries) s.tree (specsOf snapshot c entries)
      s'.tree := by
  obtain ⟨done, left, rfl, hstops, hpublication⟩ :=
    exists_stopsBetween_writePlan hvendor hlink entries (List.Subset.refl _)
      (.start c.cdiRoot _ s.tree)
  have hends := hstops.ends
  rw [hwrite] at hends hpublication
  cases hends with
  | well =>
    rw [List.append_nil] at hpublication ⊢
    exact hpublication

/-! ### A second plan -/

section Again

variable (hfirst : Publication cdiRoot planned made planned t)
  (hsecond : Publication cdiRoot planned t published t')

include hfirst

/-- In the place of a specification there is the last one that belongs there. -/
theorem file_of_published (hspec : spec ∈ planned)
    (hplace : t.resolve .entry (specPath cdiRoot spec) = .ok place) :
    ∃ last, lastOf? planned spec = some last ∧ t.find? place = some (.file (.text last.toYaml)) := by
  obtain ⟨spot, last, hspot, hlast, hfile⟩ := hfirst.files spec hspec
  obtain rfl : place = spot := Except.ok.inj
    ((resolve_specPath_of_narrows hfirst.narrows hplace).symm.trans hspot)
  exact ⟨last, hlast, hfile⟩

/-- Under a first name there is nothing. -/
theorem find?_temporary (hspec : spec ∈ planned)
    (htemporary : t.resolve .entry (temporaryPath cdiRoot spec) = .ok place) :
    t.find? place = none :=
  hfirst.temporaries spec hspec place (resolve_temporaryPath_of_narrows hfirst.narrows htemporary)

include hsecond

/-- A second pass changes nothing but in the places of specifications. -/
theorem find?_eq_or_published (place : Location) : t'.find? place = t.find? place ∨
    ∃ spec ∈ published, t.resolve .entry (specPath cdiRoot spec) = .ok place := by
  by_cases hplace : ∃ spec ∈ published, t.resolve .entry (specPath cdiRoot spec) = .ok place
  · exact .inr hplace
  · refine .inl ?_
    obtain hsame | ⟨hnone, spec, hspec, htemporary⟩ := hsecond.others place
      fun spec hspec hresolve => hplace ⟨spec, hspec, hresolve⟩
    · exact hsame
    · rw [hnone, find?_temporary hfirst hspec htemporary]

/-- A second pass replaces files only, so that paths lead where they led. -/
theorem narrows_back : t'.Narrows t where
  workingDirectory := hsecond.narrows.workingDirectory.symm
  directories place hplace := by
    obtain hsame | ⟨spec, hspec, hresolve⟩ := find?_eq_or_published hfirst hsecond place
    · rw [hsame, hplace]
    · obtain ⟨last, -, hfile⟩ := file_of_published hfirst (hsecond.members hspec) hresolve
      cases hfile.symm.trans hplace
  links place target hplace := by
    obtain hsame | ⟨spec, hspec, hresolve⟩ := find?_eq_or_published hfirst hsecond place
    · rw [hsame, hplace]
    · obtain ⟨last, -, hfile⟩ := file_of_published hfirst (hsecond.members hspec) hresolve
      cases hfile.symm.trans hplace

/-- No directory is in the place of a specification in the course of a second pass. -/
theorem find?_place_ne_directory (hspec : spec ∈ planned)
    (hplace : t.resolve .entry (specPath cdiRoot spec) = .ok place) :
    t'.find? place ≠ some .directory := by
  intro hdirectory
  obtain ⟨last, -, hfile⟩ := file_of_published hfirst hspec hplace
  cases hfile.symm.trans (hsecond.narrows.directories place hdirectory)

/-- Under a first name there is nothing in the course of a second pass. -/
theorem find?_temporary_again (hvendor : ∀ spec ∈ planned, validate spec.vendor = .ok ())
    (hspec : spec ∈ planned)
    (htemporary : t.resolve .entry (temporaryPath cdiRoot spec) = .ok place) :
    t'.find? place = none := by
  obtain hsame | ⟨other, hother, hresolve⟩ := find?_eq_or_published hfirst hsecond place
  · rw [hsame, find?_temporary hfirst hspec htemporary]
  · exact absurd rfl (place_ne (hvendor other (hsecond.members hother)) hresolve htemporary)

end Again

/-- **Everything is as it was** when a second pass has published what the first one did. -/
theorem matches_of_published (hfirst : Publication cdiRoot planned made planned t)
    (hsecond : Publication cdiRoot planned t planned t') : t.Matches t' where
  workingDirectory := hsecond.narrows.workingDirectory
  entries place := by
    obtain hsame | ⟨spec, hspec, hresolve⟩ := find?_eq_or_published hfirst hsecond place
    · exact hsame
    · obtain ⟨last, hlast, hfile⟩ := file_of_published hfirst hspec hresolve
      obtain ⟨place', last', hplace', hlast', hfile'⟩ := hsecond.files spec hspec
      obtain rfl : place = place' := Except.ok.inj (hresolve.symm.trans hplace')
      obtain rfl : last = last' := Option.some.inj (hlast.symm.trans hlast')
      rw [hfile, hfile']

section Plan

variable (hvendor : ∀ spec ∈ specsOf snapshot c entries, validate spec.vendor = .ok ())
  (hresolves : ∀ spec ∈ specsOf snapshot c entries, ∃ temporary,
    t.resolve .entry (temporaryPath c.cdiRoot spec) = .ok temporary)
  (hfirst : Publication c.cdiRoot (specsOf snapshot c entries) made (specsOf snapshot c entries) t)

include hvendor hresolves hfirst

/-- **No entry fails a second time.** -/
theorem not_entryFails {entry : String × Scope} {e : PluginError}
    (hsecond : Publication c.cdiRoot (specsOf snapshot c entries) t published t')
    (hentry : entry ∈ entries) (hclass : validate entry.1 = .ok ()) :
    ¬ EntryFails snapshot c t' entry e := by
  have hback := narrows_back hfirst hsecond
  -- The entry has a specification, and nothing stands where it is written first.
  have hways : ∀ spec, Spec.build? snapshot c entry.1 entry.2 = some spec →
      spec ∈ specsOf snapshot c entries ∧ ∃ temporary,
        t'.resolve .entry (temporaryPath c.cdiRoot spec) = .ok temporary ∧
          t'.find? temporary = none := by
    intro spec hspec
    have hmem : spec ∈ specsOf snapshot c entries := List.mem_filterMap.2 ⟨entry, hentry, hspec⟩
    obtain ⟨temporary, htemporary⟩ := hresolves spec hmem
    exact ⟨hmem, temporary, resolve_temporaryPath_of_narrows hback htemporary,
      find?_temporary_again hfirst hsecond hvendor hmem htemporary⟩
  intro hfails
  cases hfails with
  | invalidClass hinvalid => cases hinvalid.symm.trans hclass
  | failedWrite _ hspec hwrite =>
    obtain ⟨-, temporary, htemporary, hnone⟩ := hways _ hspec
    cases hwrite.symm.trans (write_of_none htemporary hnone _)
  | failedRename _ hspec hwrite hrename =>
    obtain ⟨hmem, temporary, htemporary, hnone⟩ := hways _ hspec
    obtain rfl := Except.ok.inj (hwrite.symm.trans (write_of_none htemporary hnone _))
    obtain ⟨place, hplace⟩ := exists_resolve_specPath htemporary
    have hdirectory : t'.find? place ≠ some .directory :=
      find?_place_ne_directory hfirst hsecond hmem (resolve_specPath_of_narrows hsecond.narrows hplace)
    rw [rename_of_set htemporary (hnone ▸ ⟨nofun, nofun⟩) _ (hvendor _ hmem) hplace,
      if_neg hdirectory] at hrename
    cases hrename

/-- **A plan that was written can be written again.** -/
theorem exists_writePlan_again (htree : s'.tree = t)
    (hclasses : ∀ entry ∈ entries, validate entry.1 = .ok ()) :
    ∃ s'', s'.writePlan snapshot c entries =
        (s'', .ok ((specsOf snapshot c entries).map (specPath c.cdiRoot))) ∧
      Publication c.cdiRoot (specsOf snapshot c entries) t (specsOf snapshot c entries) s''.tree := by
  subst htree
  have hlink : ∀ spec ∈ specsOf snapshot c entries, ∀ target,
      s'.tree.readLink (temporaryPath c.cdiRoot spec) ≠ .ok target := by
    intro spec hspec
    obtain ⟨temporary, htemporary⟩ := hresolves spec hspec
    exact readLink_ne_ok htemporary (by rw [find?_temporary hfirst hspec htemporary]; exact nofun)
  obtain ⟨done, left, hplan, hstops, hsecond⟩ :=
    exists_stopsBetween_writePlan hvendor hlink entries (List.Subset.refl _)
      (.start c.cdiRoot _ s'.tree)
  rw [List.nil_append] at hsecond
  rcases hwrite : s'.writePlan snapshot c entries with ⟨s'', result⟩
  have hends := hstops.ends
  rw [hwrite] at hends hsecond
  cases hends with
  | well =>
    rw [List.append_nil] at hplan
    subst hplan
    exact ⟨s'', rfl, hsecond⟩
  | @badly entry rest e hfails =>
    have hentry : entry ∈ entries := hplan ▸ List.mem_append_right done List.mem_cons_self
    exact absurd hfails
      (not_entryFails hvendor hresolves hfirst hsecond hentry (hclasses entry hentry))

end Plan

/-! ### The directory -/

/-- Neither a specification nor its first file is in the place of the directory. -/
theorem find?_base (hpublication : Publication cdiRoot planned made published t)
    (hbase : made.base cdiRoot = .ok above) : t.find? above = made.find? above := by
  -- What is in the directory is one name further down.
  have hbelow : ∀ {name : String}, '/' ∉ name.toList → Path.component? name = some (.name name) →
      made.resolve .entry (Path.join cdiRoot name) ≠ .ok above := by
    intro name hslash hname hresolve
    obtain ⟨-, above', hbase', -, -, heq⟩ := (resolve_join_eq_ok_iff hslash hname).1 hresolve
    obtain rfl : above' = above := Except.ok.inj (hbase'.symm.trans hbase)
    simp at heq
  obtain hsame | ⟨-, spec, -, htemporary⟩ := hpublication.others above fun spec _ =>
    hbelow (Spec.slash_not_mem_fileName spec) (Spec.component?_fileName spec)
  · exact hsame
  · exact absurd htemporary
      (hbelow (Spec.slash_not_mem_temporaryName spec) (Spec.component?_temporaryName spec))

/-- **The path of the directory leads where it led**, unless a specification replaced a link. -/
theorem base_eq_of_no_link
    (hresolves : ∀ spec ∈ planned, ∃ temporary,
      made.resolve .entry (temporaryPath cdiRoot spec) = .ok temporary)
    (hpublication : Publication cdiRoot planned made planned t)
    (hstays : Stays cdiRoot planned made t)
    (hlink : ∀ spec ∈ planned, ∀ target, made.readLink (specPath cdiRoot spec) ≠ .ok target) :
    t.base cdiRoot = made.base cdiRoot := by
  have hdirectory := hpublication.narrows.workingDirectory
  cases planned with
  | nil =>
    have hmatches : made.Matches t :=
      ⟨hdirectory, fun place => (hpublication.others place nofun).resolve_right
        fun ⟨_, _, hspec, _⟩ => nomatch hspec⟩
    rw [base, base, hdirectory, hmatches.walk]
  | cons spec rest =>
    obtain ⟨temporary, htemporary⟩ := hresolves spec List.mem_cons_self
    obtain ⟨-, above, hbase, habove, -⟩ :=
      (resolve_join_eq_ok_iff (Spec.slash_not_mem_temporaryName spec)
        (Spec.component?_temporaryName spec)).1 htemporary
    have hnarrows : t.Narrows made :=
      { workingDirectory := hdirectory.symm
        directories := hstays.directories
        links := fun place target hplace => by
          refine (hstays.links place target hplace).resolve_right ?_
          rintro ⟨spec, hspec, hresolve⟩
          refine hlink spec hspec target ?_
          rw [readLink, hresolve]
          simp only [Bind.bind, Except.bind, hplace] }
    rw [hbase]
    exact hnarrows.base hbase habove

/-! ### A second pass -/

/-- **What a pass that ended well has done**: it made the directory, or found it, and wrote its plan. -/
theorem writePlan_of_writeAll (hdevices : snapshot.isEmpty = false)
    (hwrite : s.writeAll snapshot c = (s', .ok paths)) :
    validate c.cdiVendor = .ok () ∧ ∃ made, s.tree.createAll c.cdiRoot = (made, .ok ()) ∧
      writePlan { s with tree := made } snapshot c (plan snapshot c) = (s', .ok paths) := by
  obtain ⟨hempty, -⟩ | hplan := plan_of_writeAll hwrite
  · cases hdevices.symm.trans hempty
  · refine ⟨?_, hplan⟩
    rw [writeAll, if_neg (by rw [hdevices]; exact Bool.false_ne_true)] at hwrite
    cases hvendor : validate c.cdiVendor with
    | ok _ => rfl
    | error fault =>
      rw [hvendor] at hwrite
      cases (Prod.mk.inj hwrite).2

/-- **A pass that changed nothing** over another one. -/
structure IsRegenerated (snapshot : Snapshot) (c : Config) (s s' s'' : Store) : Prop where
  /-- Everything is where it was, with what it held. -/
  tree : s'.tree.Matches s''.tree
  /-- Every directory has the names that it had. -/
  names : ∀ place name, name ∈ s''.tree.children place ↔ name ∈ s'.tree.children place
  /-- After neither pass anything is left where a specification was written first. -/
  temporaries : snapshot.isEmpty = false → ∀ spec ∈ specsOf snapshot c (plan snapshot c), ∃ place,
    (s.tree.createAll c.cdiRoot).1.resolve .entry (temporaryPath c.cdiRoot spec) = .ok place ∧
      s'.tree.find? place = none ∧ s''.tree.find? place = none

/-- The path of the directory leads where it led after a pass that replaced no link. -/
theorem base_of_writeAll (hdevices : snapshot.isEmpty = false)
    (hlink : ∀ spec ∈ specsOf snapshot c (plan snapshot c), ∀ target,
      (s.tree.createAll c.cdiRoot).1.readLink (temporaryPath c.cdiRoot spec) ≠ .ok target)
    (hplaces : ∀ spec ∈ specsOf snapshot c (plan snapshot c), ∀ target,
      (s.tree.createAll c.cdiRoot).1.readLink (specPath c.cdiRoot spec) ≠ .ok target)
    (hwrite : s.writeAll snapshot c = (s', .ok paths)) :
    s'.tree.base c.cdiRoot = (s.tree.createAll c.cdiRoot).1.base c.cdiRoot := by
  obtain ⟨hvalid, made, hmake, hplan⟩ := writePlan_of_writeAll hdevices hwrite
  rw [hmake] at hlink hplaces ⊢
  have hvendor : ∀ spec ∈ specsOf snapshot c (plan snapshot c), validate spec.vendor = .ok () :=
    fun spec hspec => vendor_of_mem_specsOf hspec ▸ hvalid
  obtain ⟨hresolves, hstays⟩ := stays_of_writePlan (s := ⟨made, s.metrics⟩) hvendor hlink hplan
  exact base_eq_of_no_link hresolves
    (publication_of_writePlan (s := ⟨made, s.metrics⟩) hvendor hlink hplan) hstays hplaces

/-- A GPU. -/
def oneGpu : Snapshot := .ofDevices false [{ group := 1 }]

/-- A directory whose path goes through the place of the specification that belongs there. -/
def throughOwnPlace : Config :=
  { gpuAlias := some "passthrough", cdiRoot := passthroughPath }

/-- A host with a link in that place, back to the directory in which it stands. -/
def linkedTree : FileTree :=
  ⟨[([.text "cdi"], .directory),
    ([.text "cdi", .text "nvidia.com-passthrough.yaml"], .link (.text "."))], []⟩

/-- That host after the specification was written. -/
def unlinkedHost : Store :=
  (writeSpec ⟨linkedTree, {}⟩ throughOwnPlace.cdiRoot (passthroughSpec ["0", "1"] "1")).1

end Store

end GpuPassthrough.Cdi
