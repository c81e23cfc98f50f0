import Trellis.Composition.Report
/-!
# Inquiries

A composition can be asked for services, for controllers and for its report, and each of its wired
controllers for the services that are registered with it. Inquiries are answered beside the registry
that the composition was made from: most of them leave it alone, but a service that is looked up by its
class is looked up under the tag of the class, which the registry hands out.
-/

namespace Trellis

/-- Something to ask a composition. A controller is told by its place among the wired ones. -/
inductive Inquiry where
  /-- The service of a class. -/
  | service (cls : Class)
  | serviceOfTag (tag : Tag)
  | controller (cls : Class)
  /-- The controller of a class, when it is an instance of that class. -/
  | typedController (cls : Class)
  | report
  /-- The service of a tag that is registered with a controller. -/
  | registeredTag (index : Nat) (tag : Tag)
  /-- The service of a class, or named like the class, that is registered with a controller. -/
  | registeredClass (index : Nat) (cls : Class)
  /-- The service that is registered with a controller and has to be of a class. -/
  | registered (index : Nat) (cls : Class)

/-- What an inquiry is answered with. -/
inductive Answer where
  | service (found : Option Instance)
  | controller (found : Option Controller)
  | report (report : WiringReport)
  /-- What a controller answers; none if there is no such controller. -/
  | registered (result : Option (Except Error Instance))

namespace Composition

/-- Looks the service of a class up. -/
def lookUp (composition : Composition) (cls : Class) : StateM Registry (Option Instance) := do
  let registry ← get
  set (afterLookup registry cls)
  return composition.service? registry cls

/-- Asks the wired controller at a place. -/
def askController (composition : Composition) (index : Nat)
    (question : Controller → Except Error Instance) : Answer :=
  .registered (composition.controllers[index]?.map fun wired => question wired.controller)

/-- Answers an inquiry. -/
def ask (composition : Composition) : Inquiry → StateM Registry Answer
  | .service cls => return .service (← composition.lookUp cls)
  | .serviceOfTag tag => return .service (composition.serviceOfTag? tag)
  | .controller cls => return .controller (composition.controller? cls)
  | .typedController cls => return .controller (composition.typedController? cls)
  | .report => return .report composition.report
  | .registeredTag index tag => return composition.askController index (·.getByTag tag)
  | .registeredClass index cls => return composition.askController index (·.getByClass cls)
  | .registered index cls => return composition.askController index (·.service cls)

/-- Answers inquiries in order, each by a composition of its own. -/
def askAll (inquiries : List (Composition × Inquiry)) : StateM Registry (List Answer) :=
  inquiries.mapM fun (composition, inquiry) => composition.ask inquiry

end Composition

end Trellis
