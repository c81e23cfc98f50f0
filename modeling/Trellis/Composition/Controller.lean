import Trellis.Layer.Context
/-!
# Controllers

A controller is an instance with the services that can be looked up through it, whether or not its
constructor asked for them.
-/

namespace Trellis

structure Controller where
  subject : Instance
  services : Context := []

namespace Controller

/-- The controller with a service bound to a tag. -/
def register (controller : Controller) (tag : Tag) (service : Instance) : Controller :=
  { controller with services := controller.services.put tag service }

/-- The service of a tag or, if there is none, of a tag with its identifier. -/
def getByTag (controller : Controller) (tag : Tag) : Except Error Instance :=
  match controller.services.find? tag with
  | some service => .ok service
  | none => .error (.serviceNotFound tag.identifier)

/-- The first service of a class or, if there is none, that of a tag named like the class. -/
def getByClass (controller : Controller) (cls : Class) : Except Error Instance :=
  match (controller.services.ofClass? cls).or (controller.services.getByIdentifier? cls.name) with
  | some service => .ok service
  | none => .error (.serviceNotFound cls.name)

/-- A service that has to be of a class. -/
def service (controller : Controller) (cls : Class) : Except Error Instance := do
  let found ← controller.getByClass cls
  if found.isOf cls then return found
  else throw (.typeMismatch ("service is not a " ++ cls.name))

end Controller

end Trellis
