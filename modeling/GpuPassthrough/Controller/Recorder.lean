import GpuPassthrough.Controller.Basic

/-!
# Recorded Plugins

A kind of plugin that does nothing but write down what is asked of it, and that refuses to start or
to stop on request. It shows what a controller does.
-/

namespace GpuPassthrough

/-- What a controller asks of a plugin. -/
inductive PluginCall where
  | create (className deviceRoot : String) (units : List AdvertisedUnit)
  | start (className : String)
  | stop (className : String)
  deriving DecidableEq

/-- What was asked so far. -/
abbrev CallLog := List PluginCall

/-- The answer to a request: refused for the class names of a list. -/
def refusal (refused : List String) (className : String) : Except PluginError Unit :=
  if refused.contains className then .error (.internal className) else .ok ()

/-- Plugins that are known by their class names and write down what is asked of them. -/
def PluginKind.recorded (refusedStarts refusedStops : List String) :
    PluginKind CallLog String where
  create className deviceRoot units log := (log ++ [.create className deviceRoot units], className)
  className plugin := plugin
  start plugin log := (log ++ [.start plugin], plugin, refusal refusedStarts plugin)
  stop plugin log := (log ++ [.stop plugin], plugin, refusal refusedStops plugin)

end GpuPassthrough
