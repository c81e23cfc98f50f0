import Trellis.Metadata.Route
import Trellis.Object.Handle
/-!
# Metadata values

What decorators write about a class: the role it plays, the routes and parameters of its handlers,
the types of its constructor's parameters, or any JSON value. Routes and parameters are lists to
which later values are added; every other kind is written once.
-/

namespace Trellis

/-- What makes a class a module. -/
structure ModuleMetadata where
  imports : List Class := []
  controllers : List Handle := []
  providers : List Handle := []

/-- What makes a class a controller. -/
structure ControllerMetadata where
  basePath : String
  routes : List RouteMetadata := []

/-- What makes a class a service: its tag and the class constructed for it. -/
structure ServiceMetadata where
  tag : Tag
  implementation : Handle

/-- A value in the registry. -/
inductive MetadataValue where
  | service (metadata : ServiceMetadata)
  | controller (metadata : ControllerMetadata)
  | module (metadata : ModuleMetadata)
  | routes (routes : List RouteMetadata)
  | params (params : List ParamMetadata)
  | paramTypes (types : List Class)
  | json (value : Json)

namespace MetadataValue

/-- Whether later values are added to values of this kind. -/
def isList : MetadataValue → Bool
  | .routes _ | .params _ => true
  | _ => false

/-- The value with the items of another list of its kind added; none when the kinds differ. -/
def append? : MetadataValue → MetadataValue → Option MetadataValue
  | .routes known, .routes more => some (.routes (known ++ more))
  | .params known, .params more => some (.params (known ++ more))
  | _, _ => none

end MetadataValue

/-! ## The keys under which the library's own decorators write -/

namespace MetadataKey

def service : String := "onebun:service"
def controller : String := "onebun:controller"
def module : String := "onebun:module"
def routes : String := "onebun:routes"
def params : String := "onebun:params"
def paramTypes : String := "design:paramtypes"

end MetadataKey

end Trellis
