import GpuPassthrough.Proofs.FileTree.Directory

/-!
# Making Directories

Making a directory with those above it adds directories where nothing stood, each under one of the
paths that were to be made, and changes nothing else, whether it succeeds or not. Where the directory
is there already it changes nothing at all.

## Main results

* `addsDirectories_createAll`: what making a directory adds.
* `createAll_of_isDirectory`: a directory that is there is not made.
* `createAll_again`: neither is one that was made, while its path leads there.
-/

namespace GpuPassthrough.FileTree

variable {t t' t'' : FileTree}

/-- What is looked up in a tree with more directories is where it was. -/
theorem Grows.resolve (hgrows : t.Grows t') {goal : Goal} {r : Route} {place : Location}
    (hresolve : t.resolve goal r = .ok place) : t'.resolve goal r = .ok place := by
  rw [resolve_eq] at hresolve ⊢
  split at hresolve
  · cases hresolve
  · rw [hgrows.workingDirectory]
    exact hgrows.walk hresolve

/-- What was placed stands where nothing stood. -/
theorem place_eq_ok {r : Route} {taken : IoFailure} {entry : Entry}
    (hplace : t.place r taken entry = .ok t') :
    ∃ spot, t.resolve .entry r = .ok spot ∧ t.find? spot = none ∧ t' = t.set spot entry := by
  rw [place] at hplace
  cases hresolve : t.resolve .entry r with
  | error cause =>
    rw [hresolve] at hplace
    cases hplace
  | ok spot =>
    rw [hresolve] at hplace
    simp only [Bind.bind, Except.bind] at hplace
    cases hfind : t.find? spot with
    | none =>
      rw [hfind] at hplace
      exact ⟨spot, rfl, hfind, (Except.ok.inj hplace).symm⟩
    | some other =>
      rw [hfind] at hplace
      cases hplace

/-- The route by which a directory is made: a slash at its end does not matter. -/
def makingRoute (path : String) : Route := { Route.ofText path with slashed := false }

/-- **A tree with more directories**, each of them under one of some paths. -/
structure AddsDirectories (paths : List String) (t t' : FileTree) : Prop where
  workingDirectory : t'.workingDirectory = t.workingDirectory
  /-- What stood somewhere stays, and what is new is a directory. -/
  entries : ∀ place, t'.find? place = t.find? place ∨
    t.find? place = none ∧ t'.find? place = some .directory ∧
      ∃ path ∈ paths, t'.resolve .entry (makingRoute path) = .ok place

namespace AddsDirectories

variable {paths paths' : List String}

/-- Only directories are new. -/
theorem grows (hadds : AddsDirectories paths t t') : t.Grows t' where
  workingDirectory := hadds.workingDirectory
  entries place := (hadds.entries place).imp_right fun hnew => ⟨hnew.1, hnew.2.1⟩

/-- Nothing is added. -/
theorem refl (paths : List String) (t : FileTree) : AddsDirectories paths t t :=
  ⟨rfl, fun _ => .inl rfl⟩

/-- What is added under some paths is added under more. -/
theorem mono (hadds : AddsDirectories paths t t') (hsub : paths ⊆ paths') :
    AddsDirectories paths' t t' where
  workingDirectory := hadds.workingDirectory
  entries place := by
    obtain hsame | ⟨hnone, hnew, path, hpath, hresolve⟩ := hadds.entries place
    · exact .inl hsame
    · exact .inr ⟨hnone, hnew, path, hsub hpath, hresolve⟩

/-- Directories are added after others. -/
theorem trans (hfirst : AddsDirectories paths t t') (hsecond : AddsDirectories paths t' t'') :
    AddsDirectories paths t t'' where
  workingDirectory := hsecond.workingDirectory.trans hfirst.workingDirectory
  entries place := by
    obtain hsame | ⟨hnone, hnew⟩ := hsecond.entries place
    · obtain hsame' | ⟨hnone', hnew', path, hpath, hresolve⟩ := hfirst.entries place
      · exact .inl (hsame.trans hsame')
      · exact .inr ⟨hnone', hsame.trans hnew', path, hpath, hsecond.grows.resolve hresolve⟩
    · obtain hsame' | ⟨-, hnew', -⟩ := hfirst.entries place
      · exact .inr ⟨hsame' ▸ hnone, hnew⟩
      · cases hnone.symm.trans hnew'

/-- A directory where nothing stood is added. -/
theorem of_set {path : String} {spot : Location} (hfind : t.find? spot = none)
    (hresolve : t.resolve .entry (makingRoute path) = .ok spot) :
    AddsDirectories [path] t (t.set spot .directory) := by
  have hne : spot ≠ [] := by
    rintro rfl
    cases hfind
  have hgrows : t.Grows (t.set spot .directory) := by
    refine ⟨rfl, fun other => ?_⟩
    by_cases hother : other = spot
    · subst hother
      exact .inr ⟨hfind, find?_set_self hne⟩
    · exact .inl (find?_set_of_ne hother)
  refine ⟨rfl, fun other => (hgrows.entries other).imp_right fun hnew => ⟨hnew.1, hnew.2, ?_⟩⟩
  have hother : other = spot := by
    by_contra hother
    rw [find?_set_of_ne hother, hnew.1] at hnew
    cases hnew.2
  exact ⟨path, List.mem_singleton_self path, hother ▸ hgrows.resolve hresolve⟩

/-- A directory that is made is added. -/
theorem of_createDirectory {path : String} (hmake : t.createDirectory path = .ok t') :
    AddsDirectories [path] t t' := by
  obtain ⟨spot, hresolve, hfind, rfl⟩ := place_eq_ok hmake
  exact of_set hfind hresolve

end AddsDirectories

/-- What making the first of some directories adds. -/
theorem addsDirectories_createFrom (t : FileTree) (paths : List String) :
    AddsDirectories paths t (t.createFrom paths).1 := by
  induction paths with
  | nil => exact .refl [] t
  | cons path above ih =>
    have hone : [path] ⊆ path :: above := List.cons_subset_cons path (List.nil_subset above)
    have habove : above ⊆ path :: above := List.subset_cons_self path above
    rw [createFrom]
    cases hmake : t.createDirectory path with
    | ok made => exact (AddsDirectories.of_createDirectory hmake).mono hone
    | error failure =>
      dsimp only
      split
      · rcases hfrom : t.createFrom above with ⟨made, result⟩
        rw [hfrom] at ih
        have hmade := ih.mono habove
        cases result with
        | error failure => exact hmade
        | ok _ =>
          dsimp only
          cases hlast : made.createDirectory path with
          | error failure => exact hmade
          | ok last => exact hmade.trans ((AddsDirectories.of_createDirectory hlast).mono hone)
      · exact .refl _ t

/-- **What making a directory adds.** -/
theorem addsDirectories_createAll (t : FileTree) (path : String) :
    AddsDirectories (Path.ancestors path) t (t.createAll path).1 :=
  addsDirectories_createFrom t (Path.ancestors path)

/-! ### A directory that is there -/

/-- A path of a directory leads to one. -/
theorem exists_of_isDirectory {r : Route} (hdirectory : t.isDirectory r = true) :
    ∃ spot, t.resolve .target r = .ok spot ∧ t.find? spot = some .directory := by
  rw [isDirectory, stat] at hdirectory
  cases hresolve : t.resolve .target r with
  | error cause =>
    rw [hresolve] at hdirectory
    cases hdirectory
  | ok spot =>
    rw [hresolve] at hdirectory
    simp only [Bind.bind, Except.bind] at hdirectory
    cases hfind : t.find? spot with
    | none =>
      rw [hfind] at hdirectory
      cases hdirectory
    | some entry =>
      rw [hfind] at hdirectory
      exact ⟨spot, rfl, hfind.trans (beq_iff_eq.1 hdirectory)⟩

/-- **A path is that of a directory** exactly if it is taken and its names lead to one. -/
theorem isDirectory_iff {path : String} : t.isDirectory path = true ↔
    refusal? (Route.ofText path) = none ∧
      ∃ place, t.base path = .ok place ∧ t.find? place = some .directory := by
  constructor
  · intro hdirectory
    obtain ⟨spot, hresolve, hspot⟩ := exists_of_isDirectory hdirectory
    rw [resolve_eq] at hresolve
    split at hresolve
    · cases hresolve
    · next htaken =>
      refine ⟨htaken, spot, ?_, hspot⟩
      rw [Route.steps] at hresolve
      by_cases hslashed : (Route.ofText path).slashed = true
      · rw [if_pos hslashed] at hresolve
        exact walk_of_slash hresolve
      · rwa [if_neg hslashed] at hresolve
  · rintro ⟨htaken, spot, hbase, hspot⟩
    have hresolve : t.resolve .target path = .ok spot := by
      rw [resolve_eq, htaken, Route.steps]
      by_cases hslashed : (Route.ofText path).slashed = true
      · rw [if_pos hslashed]
        exact walk_slash hbase hspot
      · rw [if_neg hslashed]
        exact hbase
    rw [isDirectory, stat, hresolve]
    simp only [Bind.bind, Except.bind, hspot]
    rfl

/-- A directory is not made where there is one. -/
theorem createDirectory_of_isDirectory {path : String} (hdirectory : t.isDirectory path = true) :
    t.createDirectory path = .error .alreadyExists := by
  obtain ⟨htaken, spot, hbase, hspot⟩ := isDirectory_iff.1 hdirectory
  obtain ⟨first, hwalk, hfirst⟩ := exists_walk_entry hbase (by simp [hspot])
  have hentry : t.resolve .entry (makingRoute path) = .ok first := by
    rw [resolve_eq, show refusal? (makingRoute path) = none from htaken]
    exact hwalk
  obtain ⟨entry, hentry'⟩ := Option.ne_none_iff_exists'.1 hfirst
  rw [createDirectory, place]
  rw [makingRoute] at hentry
  simp only [hentry, Bind.bind, Except.bind, hentry']

/-- **A directory that is there is not made.** -/
theorem createAll_of_isDirectory {path : String} (hdirectory : t.isDirectory path = true) :
    t.createAll path = (t, .ok ()) := by
  rw [createAll, Path.ancestors, Path.ancestorsWithin]
  cases Path.parent? path with
  | none => rfl
  | some above =>
    dsimp only
    rw [createFrom, createDirectory_of_isDirectory hdirectory]
    dsimp only
    rw [if_neg (fun h => nomatch h.1), if_pos hdirectory]

/-! ### A directory that was made -/

/-- What was made is a directory. -/
theorem isDirectory_of_createDirectory {path : String} (hmake : t.createDirectory path = .ok t') :
    t'.isDirectory path = true := by
  have hgrows := (AddsDirectories.of_createDirectory hmake).grows
  obtain ⟨spot, hresolve, hfind, rfl⟩ := place_eq_ok hmake
  have hne : spot ≠ [] := by
    rintro rfl
    cases hfind
  have hspot : (t.set spot .directory).find? spot = some .directory := find?_set_self hne
  have hresolve' := hgrows.resolve hresolve
  rw [resolve_eq] at hresolve'
  split at hresolve'
  · cases hresolve'
  · next htaken =>
    refine isDirectory_iff.2 ⟨htaken, spot, ?_, hspot⟩
    exact walk_target_of_entry hresolve' fun target hlink => nomatch hspot.symm.trans hlink

/-- The first of some directories is one, if all of them were made or were there. -/
theorem isDirectory_of_createFrom {path : String} {above : List String}
    (hmake : t.createFrom (path :: above) = (t', .ok ())) : t'.isDirectory path = true := by
  -- Whether a directory is there decides the outcome where it could not be made.
  have hthere : ∀ {made : FileTree} {failure : IoFailure},
      (made, if made.isDirectory path then .ok () else .error failure) =
        (t', (.ok () : Except IoFailure Unit)) → t'.isDirectory path = true := by
    intro made failure heq
    obtain ⟨rfl, hresult⟩ := Prod.mk.inj heq
    by_contra hnot
    rw [if_neg hnot] at hresult
    cases hresult
  rw [createFrom] at hmake
  split at hmake
  · next made hcreate =>
    obtain ⟨rfl, -⟩ := Prod.mk.inj hmake
    exact isDirectory_of_createDirectory hcreate
  · split at hmake
    · split at hmake
      · cases (Prod.mk.inj hmake).2
      · split at hmake
        · next last hcreate =>
          obtain ⟨rfl, -⟩ := Prod.mk.inj hmake
          exact isDirectory_of_createDirectory hcreate
        · exact hthere hmake
    · exact hthere hmake

/-- **A directory that was made is not made again**, in any tree in which its path leads where it led
and a directory still stands there. -/
theorem createAll_again {made : FileTree} {path : String}
    (hmake : t.createAll path = (made, .ok ()))
    (hkeeps : ∀ place, made.base path = .ok place → made.find? place = some .directory →
      t'.base path = .ok place ∧ t'.find? place = some .directory) :
    t'.createAll path = (t', .ok ()) := by
  rw [createAll, Path.ancestors, Path.ancestorsWithin] at hmake
  cases hparent : Path.parent? path with
  | none =>
    rw [createAll, Path.ancestors, Path.ancestorsWithin, hparent]
    rfl
  | some above =>
    rw [hparent] at hmake
    obtain ⟨htaken, place, hbase, hplace⟩ := isDirectory_iff.1 (isDirectory_of_createFrom hmake)
    exact createAll_of_isDirectory (isDirectory_iff.2 ⟨htaken, place, hkeeps place hbase hplace⟩)

end GpuPassthrough.FileTree
