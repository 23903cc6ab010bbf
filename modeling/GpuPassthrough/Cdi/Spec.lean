import GpuPassthrough.Yaml.Scalar

/-!
# Device Specifications

A device specification tells a container runtime which nodes belong to which device name. It is
written as a YAML document, one device after the other.
-/

namespace GpuPassthrough.Cdi

/-- A named device and the nodes that it brings. -/
structure Device where
  name : String
  nodes : List String
  deriving DecidableEq

/-- A device specification. -/
structure Spec where
  vendor : String
  className : String
  devices : List Device
  deriving DecidableEq

namespace Spec

/-- The version of the format. -/
def version : String := "0.5.0"

/-- The kind of the devices. -/
def kind (s : Spec) : String := s.vendor ++ "/" ++ s.className

/-- The name of the file: the kind with hyphens for slashes. -/
def fileName (s : Spec) : String :=
  String.ofList (s.kind.toList.map fun c => if c = '/' then '-' else c) ++ ".yaml"

/-- A line that names a node. -/
def nodeLine (path : String) : List Char :=
  "    - path: ".toList ++ Yaml.scalarLine 8 path.toList

/-- The edits that bring the nodes of a device. -/
def editLines (nodes : List String) : List Char :=
  if nodes.isEmpty then "  containerEdits: \x7b\x7d\n".toList
  else "  containerEdits:\n    deviceNodes:\n".toList ++ nodes.flatMap nodeLine

/-- The lines of a device. -/
def deviceLines (d : Device) : List Char :=
  "- name: ".toList ++ Yaml.scalarLine 4 d.name.toList ++ editLines d.nodes

/-- The lines of the devices. -/
def devicesLines (devices : List Device) : List Char :=
  if devices.isEmpty then "devices: []\n".toList
  else "devices:\n".toList ++ devices.flatMap deviceLines

/-- The document of a kind and devices. -/
def document (kind : String) (devices : List Device) : List Char :=
  "cdiVersion: ".toList ++ Yaml.scalarLine 2 version.toList ++
    "kind: ".toList ++ Yaml.scalarLine 2 kind.toList ++ devicesLines devices

/-- The written form. -/
def toYaml (s : Spec) : String := String.ofList (document s.kind s.devices)

end Spec

end GpuPassthrough.Cdi
