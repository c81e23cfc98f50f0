import Trellis.Object.Construction
/-!
# Handles

A handle is how decorators and modules refer to a class: the class together with what is known of
its construction. Two handles of one class may know different constructors; the registry keeps the
union.
-/

namespace Trellis

/-- A class with its constructor's signature text, the parameter types known when it was compiled,
and its constructors. -/
structure Handle where
  cls : Class
  signature : String := ""
  emitted : List Class := []
  /-- How to make a service. -/
  serviceConstructor : Option Constructor := none
  /-- How to make a controller. -/
  controllerConstructor : Option Constructor := none

namespace Handle

def name (handle : Handle) : String := handle.cls.name

/-- The handle with the constructors of `other` where it has none itself. -/
def mergedWith (handle other : Handle) : Handle :=
  { handle with
    serviceConstructor := handle.serviceConstructor.or other.serviceConstructor
    controllerConstructor := handle.controllerConstructor.or other.controllerConstructor }

end Handle

/-- The handle that knows no constructor. -/
def Class.handle (cls : Class) : Handle := { cls }

end Trellis
