import GpuPassthrough.Error
import GpuPassthrough.FileTree.Operations

/-!
# Handles

A host with `/dev/iommu` gives each device a handle of its own; without it, devices are handed out
by isolation group. The answer is found once, and everything else reads it from the snapshot.
-/

namespace GpuPassthrough.Isolation

/-- The node of a host that gives out handles, below the root of its file system. -/
def capabilityNode : String := "dev/iommu"

/-- Whether a host gives out handles. Only a node that does not exist means that it does not. -/
def supportsHandles (look : FileTree.Look) (hostRoot : String) : Except PluginError Bool :=
  let path := Path.join hostRoot capabilityNode
  match look path with
  | .ok _ => .ok true
  | .error cause =>
    if cause = .notFound then .ok false else .error (.capabilityCheck path cause)

end GpuPassthrough.Isolation
