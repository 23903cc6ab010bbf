import GpuPassthrough.Snapshot.Names

/-!
# Plan of the Device Specifications

Which device specifications a snapshot asks for: one for every GPU under the alias for GPUs, or one
for each class name of GPUs, and the same for switches. Classes that share a name share a
specification, so that no two are written to one file.
-/

namespace GpuPassthrough.Cdi

/-- The devices that a specification covers. -/
inductive Scope where
  /-- Every switch, or every GPU. -/
  | category (switch : Bool)
  /-- The devices of some classes, ascending. -/
  | classes (ids : List String)
  deriving DecidableEq

namespace Scope

/-- Whether a specification covers a device. -/
def covers : Scope → PassthroughDevice → Bool
  | category switch, d => d.isSwitch == switch
  | classes ids, d => ids.contains d.classId

/-- The scope with one more class, if it is one of classes. -/
def withClass? (id : String) : Scope → Option Scope
  | category _ => none
  | classes ids => some (classes (Index.insertSorted id ids))

end Scope

namespace Plan

/-- Enters a class under its name: in the first specification of classes of that name, or in a new
one at the end. -/
def enter (name id : String) : List (String × Scope) → List (String × Scope)
  | [] => [(name, .classes [id])]
  | (other, scope) :: rest =>
    match if other = name then scope.withClass? id else none with
    | some wider => (other, wider) :: rest
    | none => (other, scope) :: enter name id rest

/-- The classes of the devices of a category, ascending. -/
def classIds (s : Snapshot) (switch : Bool) : List String :=
  ((s.devices.filter fun d => d.isSwitch == switch).map PassthroughDevice.classId).foldl
    (fun ids id => Index.insertSorted id ids) []

/-- Adds the specifications of a category to a plan. -/
def addCategory (s : Snapshot) (c : Config) (plan : List (String × Scope)) (switch : Bool) :
    List (String × Scope) :=
  match c.aliasFor switch with
  | some name => plan ++ [(name, .category switch)]
  | none => (classIds s switch).foldl (fun plan id => enter (s.plainName id) id plan) plan

end Plan

/-- The class name and the scope of every specification, GPUs first. -/
def plan (s : Snapshot) (c : Config) : List (String × Scope) :=
  Plan.addCategory s c (Plan.addCategory s c [] false) true

end GpuPassthrough.Cdi
