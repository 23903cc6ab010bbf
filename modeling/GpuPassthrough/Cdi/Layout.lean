import GpuPassthrough.Cdi.Spec
import GpuPassthrough.Yaml.Outline

/-!
# Reading Device Specifications

The layout of a device specification as the nodes of a YAML document: a version, a kind and a list
of devices, each with a name and its edits, which list the nodes that they bring. Fields stand in
any order, and a field that the layout does not know is passed over. A field that is missing or
there twice is refused, except that edits without a list of nodes bring none. Names, kinds and paths
have to be texts: what reads as a number, say, is refused.
-/

namespace GpuPassthrough.Cdi

open Yaml (Node Scalar)

/-- What a document says of devices. -/
structure Content where
  version : String
  kind : String
  devices : List Device
  deriving DecidableEq

/-- What a specification says. -/
def Spec.content (s : Spec) : Content := ⟨version, s.kind, s.devices⟩

namespace Content

/-- The text that a node is. -/
def text? : Node → Option String
  | .scalar s => s.text?.map String.ofList
  | _ => none

/-- The items of a sequence. -/
def items? : Node → Option (List Node)
  | .sequence items => some items
  | _ => none

/-- The fields of a mapping. -/
def fields? : Node → Option (List (Scalar × Node))
  | .mapping fields => some fields
  | _ => none

/-- The values of the fields of a name. -/
def named (name : String) (fields : List (Scalar × Node)) : List Node :=
  (fields.filter fun field => field.1.text? = some name.toList).map Prod.snd

/-- The value of a field that has to be there. -/
def required? (name : String) (fields : List (Scalar × Node)) : Option Node :=
  match named name fields with
  | [value] => some value
  | _ => none

/-- The path of a node of a device. -/
def path? (node : Node) : Option String := do
  let fields ← fields? node
  text? (← required? "path" fields)

/-- The nodes that the fields of edits bring. -/
def deviceNodes? (fields : List (Scalar × Node)) : Option (List String) :=
  match named "deviceNodes" fields with
  | [] => some []
  | [nodes] => do (← items? nodes).mapM path?
  | _ => none

/-- A device. -/
def device? (node : Node) : Option Device := do
  let fields ← fields? node
  let name ← text? (← required? "name" fields)
  let edits ← fields? (← required? "containerEdits" fields)
  return ⟨name, ← deviceNodes? edits⟩

/-- What a document says. -/
def ofNode? (node : Node) : Option Content := do
  let fields ← fields? node
  let version ← text? (← required? "cdiVersion" fields)
  let kind ← text? (← required? "kind" fields)
  let devices ← items? (← required? "devices" fields)
  return ⟨version, kind, ← devices.mapM device?⟩

/-- Reads a document. -/
def read? (document : String) : Option Content :=
  (Yaml.readDocument? document.toList).bind ofNode?

end Content

end GpuPassthrough.Cdi
