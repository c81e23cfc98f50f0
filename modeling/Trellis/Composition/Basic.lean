import Trellis.Composition.Controller
import Trellis.Composition.Walk
import Trellis.Resolution.Resolver
/-!
# Compositions

A composition is a module with everything it imports, made into one graph of objects. It goes through
three stages: its layer is composed, its services are realized, its controllers are wired.
-/

namespace Trellis

/-- How far a composition has got. -/
inductive Stage where
  | uninitialized
  | layersComposed
  | servicesRealized
  | controllersWired
  deriving DecidableEq, Repr

def Stage.name : Stage → String
  | .uninitialized => "uninitialized"
  | .layersComposed => "layers_composed"
  | .servicesRealized => "services_realized"
  | .controllersWired => "controllers_wired"

/-- A module with what was declared of it. -/
structure Declared where
  cls : Class
  metadata : ModuleMetadata

/-- A controller of a module, with the resolution it was wired by. -/
structure Wired where
  module : Class
  cls : Class
  controller : Controller
  resolution : Resolution

structure Composition where
  root : Declared
  /-- The imported modules; each stands after all modules it imports itself. -/
  imported : List Declared
  app : App
  layer : Layer
  stage : Stage
  /-- The realized services. -/
  services : Context := []
  /-- The wired controllers, in the order of wiring. -/
  controllers : List Wired := []

namespace Composition

/-- The root and the imported modules. -/
def modules (composition : Composition) : List Declared :=
  composition.root :: composition.imported

/-- The imported classes. -/
def imports (composition : Composition) : List Class :=
  composition.imported.map (·.cls)

/-- The declared controllers, the root's own first, each once. -/
def declaredControllers (composition : Composition) : List Class :=
  (composition.modules.flatMap fun declared => declared.metadata.controllers.map (·.cls)).eraseDups

/-- The first wired controller of a class. -/
def controller? (composition : Composition) (cls : Class) : Option Controller :=
  (composition.controllers.find? (·.cls = cls)).map (·.controller)

/-- The first wired controller of a class, when it is an instance of that class. -/
def typedController? (composition : Composition) (cls : Class) : Option Controller :=
  (composition.controller? cls).filter fun controller => controller.subject.isOf cls

/-- The service of a tag, or of a tag with its identifier. -/
def serviceOfTag? (composition : Composition) (tag : Tag) : Option Instance :=
  composition.services.find? tag

/-- The tag a class is looked up under: the one it is declared a service under, else its own. -/
def lookupTag (registry : Registry) (cls : Class) : Tag :=
  (registry.serviceTag? cls).getD (registry.tagOf cls)

/-- The service of a class: what its tag is bound to, if that is of the class, else the first
instance of the class. -/
def service? (composition : Composition) (registry : Registry) (cls : Class) : Option Instance :=
  ((composition.serviceOfTag? (lookupTag registry cls)).filter (Instance.isOf cls)).or
    (composition.services.ofClass? cls)

/-- The registry after a service was looked up by class: the tag of a class that is no service is
handed out. -/
def afterLookup (registry : Registry) (cls : Class) : Registry :=
  match registry.serviceTag? cls with
  | some _ => registry
  | none => registry.claimTag cls

/-- The composition with a service registered with the controller that is a given object. -/
def registerWith (composition : Composition) (object : ObjectId) (tag : Tag) (service : Instance) :
    Composition :=
  { composition with
    controllers := composition.controllers.map fun wired =>
      if wired.controller.subject.object = object then
        { wired with controller := wired.controller.register tag service }
      else wired }

end Composition

end Trellis
