import GpuPassthrough.Path

/-!
# Device Nodes

Where user space finds the nodes of passed-through devices: a control node and one node per group,
or one node per handle in a directory of their own.
-/

namespace GpuPassthrough.Isolation

/-- The control node. -/
def controlNode (vfioRoot : String) : String := Path.join vfioRoot "vfio"

/-- The node of a group. -/
def groupNode (vfioRoot key : String) : String := Path.join vfioRoot key

/-- The directory of the handles. -/
def handleDirectory (vfioRoot : String) : String := Path.join vfioRoot "devices"

/-- The node of a handle. -/
def handleNode (vfioRoot handle : String) : String := Path.join (handleDirectory vfioRoot) handle

/-- The directory whose entries tell which devices are there. -/
def sensingRoot (vfioRoot : String) (handles : Bool) : String :=
  if handles then handleDirectory vfioRoot else vfioRoot

end GpuPassthrough.Isolation
