import Trellis.Config.Basic
import Trellis.Log
/-!
# Loggers

A logger reports in the name of an application and, when it belongs to a service or a controller, of
its class.
-/

namespace Trellis

structure Logger where
  app : String := defaultAppName
  className : Option String := none
  deriving DecidableEq, Repr

namespace Logger

/-- The logger of a class of the same application. -/
def child (logger : Logger) (className : String) : Logger :=
  { logger with className := some className }

/-- A message of this logger as an event. -/
def event (logger : Logger) (level : Level) (message : String) : Event :=
  { level
    message
    fields := ("app", .text logger.app) ::
      (logger.className.map fun name => ("class_name", FieldValue.text name)).toList }

end Logger

end Trellis
