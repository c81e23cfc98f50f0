import Trellis.Metadata.Registry
import Trellis.Object.Json
/-!
# Metadata as JSON
-/

namespace Trellis

def ParamMetadata.toJson (param : ParamMetadata) : Json :=
  .object
    [ ("kind", .string param.kind.name),
      ("name", .string param.name),
      ("index", .nat param.index),
      ("required", .bool param.required),
      ("validator", .optString (param.validator.map (·.name))) ]

namespace RouteMetadata

def members (route : RouteMetadata) : List (String × Json) :=
  [ ("path", .string route.path),
    ("method", .string route.method.name),
    ("handler", .string route.handler),
    ("params", .array (route.params.map ParamMetadata.toJson)),
    ("middleware", .strings route.middleware) ]

def toJson (route : RouteMetadata) : Json :=
  .object route.members

/-- A route with its full path. -/
def toJsonUnder (basePath : String) (route : RouteMetadata) : Json :=
  .object (("full_path", .string (route.fullPath basePath)) :: route.members)

end RouteMetadata

def ControllerMetadata.toJson (metadata : ControllerMetadata) : Json :=
  .object
    [ ("base_path", .string metadata.basePath),
      ("routes", .array (metadata.routes.map (RouteMetadata.toJsonUnder metadata.basePath))) ]

def ModuleMetadata.toJson (metadata : ModuleMetadata) : Json :=
  .object
    [ ("imports", .strings (metadata.imports.map (·.name))),
      ("controllers", .strings (metadata.controllers.map (·.name))),
      ("providers", .strings (metadata.providers.map (·.name))) ]

/-- A value of any kind; `mark` shows tags. -/
def MetadataValue.toJson (mark : Tag → String) : MetadataValue → Json
  | .json value => .object [("json", value)]
  | .routes items => .object [("routes", .array (items.map RouteMetadata.toJson))]
  | .params items => .object [("params", .array (items.map ParamMetadata.toJson))]
  | .paramTypes types => .object [("param_types", .strings (types.map (·.name)))]
  | .service metadata =>
    .object
      [("service", .string (mark metadata.tag)), ("class", .string metadata.implementation.name)]
  | .controller metadata => .object [("controller", metadata.toJson)]
  | .module metadata => .object [("module", metadata.toJson)]

/-- The tags in a value. -/
def MetadataValue.tags : MetadataValue → List Tag
  | .service metadata => [metadata.tag]
  | _ => []

/-- A handle by what it knows to construct. -/
def Handle.toJson (handle : Handle) : Json :=
  .object
    [ ("name", .string handle.name),
      ("factory", .bool handle.serviceConstructor.isSome),
      ("controller_factory", .bool handle.controllerConstructor.isSome) ]

end Trellis
