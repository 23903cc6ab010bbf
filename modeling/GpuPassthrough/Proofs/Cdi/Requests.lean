import GpuPassthrough.Proofs.Cdi.Pass

/-!
# The Requests of a Pass

A pass changes the host by requests, one after the other: it makes the directory, and for every
specification it writes a file, renames it, and takes it away again where the renaming fails. Each
request meets the files as those before it left them, and one that fails changes nothing. The
requests account for all that a pass does to the files: replaying them gives the files that it leaves.

## Main results

* `Store.replay_requests`: replaying the requests of a pass gives what it leaves.
-/

namespace GpuPassthrough

open Text (Octets)

namespace FileTree

/-- A request that changes a file system. -/
inductive Request where
  /-- Makes a directory and those above it that are missing. -/
  | createAll (path : String)
  /-- Writes a whole file. -/
  | write (path : String) (content : Octets)
  /-- Gives a file another name. -/
  | rename (old new : String)
  /-- Takes a file away. -/
  | remove (path : String)

/-- The tree after a change, which stays as it was if the change failed. -/
def orSelf (t : FileTree) : Except IoFailure FileTree → FileTree
  | .ok changed => changed
  | .error _ => t

/-- The tree after a request. -/
def perform (t : FileTree) : Request → FileTree
  | .createAll path => (t.createAll path).1
  | .write path content => t.orSelf (t.write path content)
  | .rename old new => t.orSelf (t.rename old new)
  | .remove path => t.orSelf (t.remove path)

/-- The tree after some requests. -/
def replay (t : FileTree) (requests : List Request) : FileTree := requests.foldl perform t

/-- The first request is performed before the others. -/
@[simp] theorem replay_cons (t : FileTree) (request : Request) (rest : List Request) :
    t.replay (request :: rest) = (t.perform request).replay rest := rfl

/-- Without requests a tree stays as it is. -/
@[simp] theorem replay_nil (t : FileTree) : t.replay [] = t := rfl

/-- Requests are performed one after the other. -/
theorem replay_append (t : FileTree) (before after : List Request) :
    t.replay (before ++ after) = (t.replay before).replay after :=
  List.foldl_append

end FileTree

namespace Cdi.Store

open FileTree

variable {s s' : Store} {snapshot : Snapshot} {c : Config} {cdiRoot : String} {spec : Spec}

/-! ### One specification -/

/-- The request by which a specification is written first. -/
def firstRequest (cdiRoot : String) (spec : Spec) : Request :=
  .write (temporaryPath cdiRoot spec) (.text spec.toYaml)

/-- The request that gives it its place. -/
def lastRequest (cdiRoot : String) (spec : Spec) : Request :=
  .rename (temporaryPath cdiRoot spec) (specPath cdiRoot spec)

/-- The requests that a specification takes: a file that cannot be renamed is taken away. -/
def specRequests (t : FileTree) (cdiRoot : String) (spec : Spec) : List Request :=
  match t.write (temporaryPath cdiRoot spec) (.text spec.toYaml) with
  | .error _ => [firstRequest cdiRoot spec]
  | .ok written =>
    match written.rename (temporaryPath cdiRoot spec) (specPath cdiRoot spec) with
    | .error _ => [firstRequest cdiRoot spec, lastRequest cdiRoot spec,
        .remove (temporaryPath cdiRoot spec)]
    | .ok _ => [firstRequest cdiRoot spec, lastRequest cdiRoot spec]

variable {t written renamed : FileTree} {cause : IoFailure}

/-- A file that cannot be written takes one request. -/
theorem specRequests_of_unwritten
    (hwrite : t.write (temporaryPath cdiRoot spec) (.text spec.toYaml) = .error cause) :
    specRequests t cdiRoot spec = [firstRequest cdiRoot spec] := by
  unfold specRequests
  simp only [hwrite]

section Written

variable (hwrite : t.write (temporaryPath cdiRoot spec) (.text spec.toYaml) = .ok written)

include hwrite

/-- A file that cannot be renamed takes three. -/
theorem specRequests_of_unrenamed
    (hrename : written.rename (temporaryPath cdiRoot spec) (specPath cdiRoot spec) =
      .error cause) :
    specRequests t cdiRoot spec = [firstRequest cdiRoot spec, lastRequest cdiRoot spec,
      .remove (temporaryPath cdiRoot spec)] := by
  unfold specRequests
  simp only [hwrite, hrename]

/-- A file that is written and renamed takes two. -/
theorem specRequests_of_renamed
    (hrename : written.rename (temporaryPath cdiRoot spec) (specPath cdiRoot spec) =
      .ok renamed) :
    specRequests t cdiRoot spec = [firstRequest cdiRoot spec, lastRequest cdiRoot spec] := by
  unfold specRequests
  simp only [hwrite, hrename]

/-- The first request writes the file. -/
theorem perform_firstRequest : t.perform (firstRequest cdiRoot spec) = written := by
  rw [firstRequest, perform, hwrite, orSelf]

end Written

/-- A first request that fails changes nothing. -/
theorem perform_firstRequest_of_unwritten
    (hwrite : t.write (temporaryPath cdiRoot spec) (.text spec.toYaml) = .error cause) :
    t.perform (firstRequest cdiRoot spec) = t := by
  rw [firstRequest, perform, hwrite, orSelf]

/-- The last request renames the file. -/
theorem perform_lastRequest
    (hrename : t.rename (temporaryPath cdiRoot spec) (specPath cdiRoot spec) = .ok renamed) :
    t.perform (lastRequest cdiRoot spec) = renamed := by
  rw [lastRequest, perform, hrename, orSelf]

/-- A last request that fails changes nothing. -/
theorem perform_lastRequest_of_unrenamed
    (hrename : t.rename (temporaryPath cdiRoot spec) (specPath cdiRoot spec) = .error cause) :
    t.perform (lastRequest cdiRoot spec) = t := by
  rw [lastRequest, perform, hrename, orSelf]

/-- Discarding a file is removing it, whether that succeeds or not. -/
theorem discard_eq_perform (t : FileTree) (path : String) :
    discard t path = t.perform (.remove path) := by
  rw [discard, perform]
  cases t.remove path <;> rfl

/-- **Replaying the requests of a specification** writes it. -/
theorem replay_specRequests (s : Store) (cdiRoot : String) (spec : Spec) :
    s.tree.replay (specRequests s.tree cdiRoot spec) = (s.writeSpec cdiRoot spec).1.tree := by
  unfold writeSpec
  dsimp only
  cases hwrite : s.tree.write (temporaryPath cdiRoot spec) (.text spec.toYaml) with
  | error cause =>
    rw [specRequests_of_unwritten hwrite, replay_cons, perform_firstRequest_of_unwritten hwrite,
      replay_nil]
  | ok written =>
    dsimp only
    cases hrename : written.rename (temporaryPath cdiRoot spec) (specPath cdiRoot spec) with
    | error cause =>
      rw [specRequests_of_unrenamed hwrite hrename, replay_cons, perform_firstRequest hwrite,
        replay_cons, perform_lastRequest_of_unrenamed hrename, replay_cons, replay_nil,
        discard_eq_perform]
    | ok renamed =>
      rw [specRequests_of_renamed hwrite hrename, replay_cons, perform_firstRequest hwrite,
        replay_cons, perform_lastRequest hrename, replay_nil]

/-! ### A plan -/

-- The steps of a write are not to be opened where only its result matters.
attribute [local irreducible] writeSpec

/-- The requests that the entries of a plan take, up to the first one that fails. -/
def planRequests (s : Store) (snapshot : Snapshot) (c : Config) :
    List (String × Scope) → List Request
  | [] => []
  | (className, scope) :: rest =>
    match validate className with
    | .error _ => []
    | .ok () =>
      match Spec.build? snapshot c className scope with
      | none => s.planRequests snapshot c rest
      | some spec =>
        specRequests s.tree c.cdiRoot spec ++
          match s.writeSpec c.cdiRoot spec with
          | (_, .error _) => []
          | (s', .ok _) => s'.planRequests snapshot c rest

/-- A class whose name is invalid stops a pass before its first request. -/
theorem planRequests_of_invalid {className : String} {fault : KindFault}
    (hclass : validate className = .error fault) (scope : Scope) (rest : List (String × Scope)) :
    s.planRequests snapshot c ((className, scope) :: rest) = [] := by
  rw [planRequests, hclass]

/-- An entry without devices takes no request. -/
theorem planRequests_of_none {className : String} {scope : Scope}
    (hclass : validate className = .ok ())
    (hspec : Spec.build? snapshot c className scope = none) (rest : List (String × Scope)) :
    s.planRequests snapshot c ((className, scope) :: rest) = s.planRequests snapshot c rest := by
  rw [planRequests, hclass, hspec]

section Entry

variable {className path : String} {scope : Scope} {e : PluginError}
  (hclass : validate className = .ok ())
  (hspec : Spec.build? snapshot c className scope = some spec)

include hclass hspec

/-- A specification that cannot be written is the last one. -/
theorem planRequests_of_error (hwrite : s.writeSpec c.cdiRoot spec = (s', .error e))
    (rest : List (String × Scope)) :
    s.planRequests snapshot c ((className, scope) :: rest) =
      specRequests s.tree c.cdiRoot spec := by
  rw [planRequests, hclass, hspec]
  dsimp only
  rw [hwrite]
  exact List.append_nil _

/-- A specification that is written comes before the others. -/
theorem planRequests_of_ok (hwrite : s.writeSpec c.cdiRoot spec = (s', .ok path))
    (rest : List (String × Scope)) :
    s.planRequests snapshot c ((className, scope) :: rest) =
      specRequests s.tree c.cdiRoot spec ++ s'.planRequests snapshot c rest := by
  rw [planRequests, hclass, hspec]
  dsimp only
  rw [hwrite]

end Entry

/-- **Replaying the requests of a plan** writes it. -/
theorem replay_planRequests (s : Store) (snapshot : Snapshot) (c : Config)
    (entries : List (String × Scope)) :
    s.tree.replay (s.planRequests snapshot c entries) =
      (s.writePlan snapshot c entries).1.tree := by
  induction entries generalizing s with
  | nil => rfl
  | cons entry rest ih =>
    obtain ⟨className, scope⟩ := entry
    rw [writePlan_cons]
    cases hclass : validate className with
    | error fault => rw [planRequests_of_invalid hclass, replay_nil]
    | ok _ =>
    dsimp only
    cases hspec : Spec.build? snapshot c className scope with
    | none => rw [planRequests_of_none hclass hspec, ih]
    | some spec =>
      have hone := replay_specRequests s c.cdiRoot spec
      dsimp only
      rcases hwrite : s.writeSpec c.cdiRoot spec with ⟨s', result⟩
      rw [hwrite] at hone
      cases result with
      | error e => rw [planRequests_of_error hclass hspec hwrite, hone]
      | ok path =>
        rw [planRequests_of_ok hclass hspec hwrite, replay_append, hone, ih]
        dsimp only
        rcases s'.writePlan snapshot c rest with ⟨last, results⟩
        cases results <;> rfl

/-! ### A whole pass -/

/-- **The requests of a pass**, in their order. -/
def requests (s : Store) (snapshot : Snapshot) (c : Config) : List Request :=
  if snapshot.isEmpty then []
  else match validate c.cdiVendor with
    | .error _ => []
    | .ok () =>
      .createAll c.cdiRoot ::
        match s.tree.createAll c.cdiRoot with
        | (_, .error _) => []
        | (made, .ok ()) => ({ s with tree := made } : Store).planRequests snapshot c (plan snapshot c)

/-- **Replaying the requests of a pass gives what it leaves.** -/
theorem replay_requests (s : Store) (snapshot : Snapshot) (c : Config) :
    s.tree.replay (s.requests snapshot c) = (s.writeAll snapshot c).1.tree := by
  rw [requests, writeAll]
  by_cases hempty : snapshot.isEmpty = true
  · rw [if_pos hempty, if_pos hempty, replay_nil]
  rw [if_neg hempty, if_neg hempty]
  cases validate c.cdiVendor with
  | error fault => rfl
  | ok _ =>
    dsimp only
    rw [replay_cons, perform]
    rcases s.tree.createAll c.cdiRoot with ⟨made, result⟩
    cases result with
    | error cause => rfl
    | ok _ => exact replay_planRequests { s with tree := made } snapshot c (plan snapshot c)

end Cdi.Store

end GpuPassthrough
