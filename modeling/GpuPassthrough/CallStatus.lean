import GpuPassthrough.Error
import GpuPassthrough.Text.Percent

/-!
# Call Statuses

A call between the plugin and the kubelet that fails has a status: a code and a message. On the way
the message is unescaped, though nothing escaped its percent signs; a message that comes out as no
text is replaced by what is wrong with it.
-/

namespace GpuPassthrough

/-- The kinds of failures of calls. -/
inductive CallCode where
  | invalidArgument
  | unimplemented
  | internal
  | unavailable
  | unknown
  deriving DecidableEq

/-- The name of a code. -/
def CallCode.name : CallCode → String
  | .invalidArgument => "InvalidArgument"
  | .unimplemented => "Unimplemented"
  | .internal => "Internal"
  | .unavailable => "Unavailable"
  | .unknown => "Unknown"

/-- Why a call failed. -/
structure CallStatus where
  code : CallCode
  message : String
  deriving DecidableEq

namespace CallStatus

/-- The status of a call that an error answers. A refused allocation is the caller's fault. -/
def ofError (e : PluginError) : CallStatus :=
  ⟨if e.isAllocation then .invalidArgument else .internal, e.message⟩

/-- The status of a call that a server does not know. -/
def unknownCall : CallStatus := ⟨.unimplemented, ""⟩

/-- A status as the other side of the call gets it. -/
def received (s : CallStatus) : CallStatus :=
  match Text.unescape s.message with
  | .ok message => { s with message := message }
  | .error fault =>
    ⟨.unknown, "Error deserializing status message header: " ++ fault.message⟩

end CallStatus

end GpuPassthrough
