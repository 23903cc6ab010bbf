import GpuPassthrough.Cdi.Build
import GpuPassthrough.Cdi.Kind
import GpuPassthrough.FileTree.Operations
import GpuPassthrough.Metrics

/-!
# Writing the Device Specifications

Each specification is written beside its place and then renamed into it, so that a reader never sees
half of one. Writing stops at the first failure; what was written before stays.

## Main results

* `writePlan_cons`: a plan is written entry by entry.
* `writeAll_of_isEmpty`: a snapshot without devices touches nothing.
-/

namespace GpuPassthrough.Cdi

open Text (Octets)

/-- A host on which specifications are written: its files and the metrics of the plugin. -/
structure Store where
  tree : FileTree
  metrics : Metrics

namespace Store

/-- The path under which a specification is written first. -/
def temporaryPath (cdiRoot : String) (spec : Spec) : String :=
  Path.join cdiRoot ("." ++ spec.fileName ++ ".tmp")

/-- The path of a specification. -/
def specPath (cdiRoot : String) (spec : Spec) : String :=
  Path.join cdiRoot spec.fileName

/-- The tree without a file that is not needed any more. That it cannot be removed does not
matter. -/
def discard (t : FileTree) (path : String) : FileTree :=
  match t.remove path with
  | .ok t' => t'
  | .error _ => t

/-- Writes a specification to its place. -/
def writeSpec (s : Store) (cdiRoot : String) (spec : Spec) : Store × Except PluginError String :=
  let temporary := temporaryPath cdiRoot spec
  let path := specPath cdiRoot spec
  match s.tree.write temporary (.text spec.toYaml) with
  | .error cause => (s, .error (.io temporary cause))
  | .ok written =>
    match written.rename temporary path with
    | .error cause => ({ s with tree := discard written temporary }, .error (.io path cause))
    | .ok renamed => (⟨renamed, s.metrics.increment .specsWritten⟩, .ok path)

/-- Writes the specifications of a plan that have devices; the paths come in the order of the
plan. -/
def writePlan (s : Store) (snapshot : Snapshot) (c : Config) :
    List (String × Scope) → Store × Except PluginError (List String)
  | [] => (s, .ok [])
  | (className, scope) :: rest =>
    match validate className with
    | .error fault => (s, .error (fault.toError className))
    | .ok () =>
      match Spec.build? snapshot c className scope with
      | none => s.writePlan snapshot c rest
      | some spec =>
        match s.writeSpec c.cdiRoot spec with
        | (s', .error e) => (s', .error e)
        | (s', .ok path) =>
          match s'.writePlan snapshot c rest with
          | (s'', .error e) => (s'', .error e)
          | (s'', .ok paths) => (s'', .ok (path :: paths))

/-- Nothing is written for an empty plan. -/
theorem writePlan_nil (s : Store) (snapshot : Snapshot) (c : Config) :
    s.writePlan snapshot c [] = (s, .ok []) := rfl

-- The steps of a write are not to be opened where only its result matters.
attribute [local irreducible] writeSpec in
/-- The first entry of a plan is checked and written before the others. -/
theorem writePlan_cons (s : Store) (snapshot : Snapshot) (c : Config) (className : String)
    (scope : Scope) (rest : List (String × Scope)) :
    s.writePlan snapshot c ((className, scope) :: rest) =
      match validate className with
      | .error fault => (s, .error (fault.toError className))
      | .ok () =>
        match Spec.build? snapshot c className scope with
        | none => s.writePlan snapshot c rest
        | some spec =>
          match s.writeSpec c.cdiRoot spec with
          | (s', .error e) => (s', .error e)
          | (s', .ok path) =>
            match s'.writePlan snapshot c rest with
            | (s'', .error e) => (s'', .error e)
            | (s'', .ok paths) => (s'', .ok (path :: paths)) := rfl

/-- Writes every specification that a snapshot asks for. Without devices nothing happens, not even
the directory is made. -/
def writeAll (s : Store) (snapshot : Snapshot) (c : Config) :
    Store × Except PluginError (List String) :=
  if snapshot.isEmpty then (s, .ok [])
  else match validate c.cdiVendor with
    | .error fault => (s, .error (fault.toError c.cdiVendor))
    | .ok () =>
      match s.tree.createAll c.cdiRoot with
      | (t, .error cause) => ({ s with tree := t }, .error (.io c.cdiRoot cause))
      | (t, .ok ()) => { s with tree := t }.writePlan snapshot c (plan snapshot c)

/-- A snapshot without devices touches nothing. -/
theorem writeAll_of_isEmpty {s : Store} {snapshot : Snapshot} {c : Config}
    (h : snapshot.isEmpty = true) : s.writeAll snapshot c = (s, .ok []) := by
  simp [writeAll, h]

end Store

end GpuPassthrough.Cdi
