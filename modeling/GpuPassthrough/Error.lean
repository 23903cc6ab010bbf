import GpuPassthrough.IoFailure
import GpuPassthrough.Text.Quoted

/-!
# Errors of the Plugin

Every way in which an operation of the plugin can fail, with the wording in one function. A refused
allocation is the client's fault (`IsAllocation`); every other error is the plugin's or its host's.
-/

namespace GpuPassthrough

/-- Why an operation of the plugin failed. -/
inductive PluginError where
  /-- Whether the host supports handles could not be found out. -/
  | capabilityCheck (path : String) (cause : IoFailure)
  /-- The devices of the host could not be listed. -/
  | enumeration (reason : String)
  /-- A requested isolation unit does not exist. -/
  | unknownUnit (key : String)
  /-- A device of a requested unit has no handle. -/
  | missingHandle (address : String)
  /-- The plugin of a class serves already. -/
  | alreadyStarted (className : String)
  /-- The socket of a plugin could not be bound. -/
  | socketBind (path : String) (cause : IoFailure)
  /-- The server behind a socket does not accept connections. -/
  | serverNotReady (path : String) (reason : String)
  /-- The kubelet did not accept a resource. -/
  | registrationFailed (resource : String) (reason : String)
  /-- A directory could not be watched. -/
  | watchFailed (path : String) (reason : String)
  /-- A name is no half of the kind of a device specification. -/
  | invalidClass (className : String) (reason : String)
  /-- A device specification has no written form. -/
  | unwritable (name : String) (reason : String)
  /-- A file operation failed. -/
  | io (path : String) (cause : IoFailure)
  /-- The configuration cannot be used. -/
  | invalidConfig (reason : String)
  /-- Something failed that should not. -/
  | internal (reason : String)
  /-- Any other failure, in the words of who reports it. -/
  | other (report : String) (cause : String)
  deriving DecidableEq

namespace PluginError

/-- The wording of an error. -/
def message : PluginError → String
  | capabilityCheck path cause =>
    "Failed to check IOMMUFD support at " ++ Text.quoteText path ++ ": " ++ cause.message
  | enumeration reason => "PCI device enumeration failed: " ++ reason
  | unknownUnit key => "invalid allocation request: unknown iommu id: " ++ key
  | missingHandle address => "iommufd device not available for device " ++ address
  | alreadyStarted className => "gRPC server already started for " ++ className
  | socketBind path cause =>
    "Failed to bind device plugin socket " ++ Text.quoteText path ++ ": " ++ cause.message
  | serverNotReady path reason =>
    "gRPC server at " ++ Text.quoteText path ++ " not ready: " ++ reason
  | registrationFailed resource reason =>
    "Failed to register " ++ resource ++ " with kubelet: " ++ reason
  | watchFailed path reason => "Failed to watch " ++ Text.quoteText path ++ ": " ++ reason
  | invalidClass className reason =>
    "Invalid CDI class name " ++ Text.quoteText className ++ ": " ++ reason
  | unwritable name reason => "Failed to serialize CDI spec " ++ name ++ ": " ++ reason
  | io path cause => "I/O error at " ++ Text.quoteText path ++ ": " ++ cause.message
  | invalidConfig reason => "Invalid configuration: " ++ reason
  | internal reason => "Internal error: " ++ reason
  | other report _ => report

/-- The wording of what an error goes back to, where that is more than its own message. -/
def cause? : PluginError → Option String
  | capabilityCheck _ cause => some cause.message
  | socketBind _ cause => some cause.message
  | io _ cause => some cause.message
  | other _ cause => some cause
  | _ => none

/-- Whether an error says that an allocation request cannot be met. -/
def isAllocation : PluginError → Bool
  | unknownUnit _ => true
  | missingHandle _ => true
  | _ => false

end PluginError

end GpuPassthrough
