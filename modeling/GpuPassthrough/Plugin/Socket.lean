import GpuPassthrough.Path

/-!
# Plugin Sockets

Each plugin serves on a socket of its own, named for its class, in the directory of the plugin
sockets, and offers a resource that is named for its class too.
-/

namespace GpuPassthrough.PluginSocket

/-- The name of the socket of a class. -/
def fileName (className : String) : String := "sandbox-" ++ className ++ ".sock"

/-- The socket of a class in a directory. -/
def path (directory className : String) : String := Path.join directory (fileName className)

/-- The name of the resource of a class. -/
def resource (deviceNamespace className : String) : String := deviceNamespace ++ "/" ++ className

end GpuPassthrough.PluginSocket
