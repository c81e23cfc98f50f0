import Trellis.Metadata.Json
/-!
# Overviews

All that a registry tells about a class. Since decorators of different handlers have no order among
themselves, the routes of an overview are sorted by path and method.
-/

namespace Trellis

/-- What routes are sorted by. -/
def RouteMetadata.sortKey (route : RouteMetadata) : String :=
  Json.stringText route.path ++ " " ++ Json.stringText route.method.name

/-- The metadata with its routes sorted. -/
def ControllerMetadata.sorted (metadata : ControllerMetadata) : ControllerMetadata :=
  { metadata with routes := metadata.routes.mergeSort fun a b => a.sortKey ≤ b.sortKey }

/-- The members that tell what is known of a class. -/
def Registry.overview (registry : Registry) (handle : Handle) : List (String × Json) :=
  let cls := handle.cls
  [ ("name", .string cls.name),
    ("signature", .string handle.signature),
    ("keys", .strings (registry.keysOf cls)),
    ("controller",
      .option (fun metadata => ControllerMetadata.toJson metadata.sorted)
        (registry.controllerMetadata? cls)),
    ("service_tag", .optString ((registry.serviceTag? cls).map (·.identifier))),
    ("module", .option ModuleMetadata.toJson (registry.moduleMetadata? cls)) ]

end Trellis
