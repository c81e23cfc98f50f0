import Trellis.Metadata.Registry
/-!
# Decorations

A decoration is one thing said about a class: that it is a service, a controller or a module, that it
has a route or a parameter, or what its constructor takes. Applying a decoration writes it into the
registry.
-/

namespace Trellis

/-- Something said about a class. -/
inductive Decoration where
  /-- It is a service, under a tag of its own if one is given. -/
  | service (handle : Handle) (tag : Option Tag)
  /-- It is a controller under a base path. -/
  | controller (handle : Handle) (basePath : String)
  | route (cls : Class) (route : RouteMetadata)
  /-- One of its handlers has a parameter. -/
  | param (cls : Class) (handler : String) (param : ParamMetadata)
  | module (handle : Handle) (metadata : ModuleMetadata)
  /-- The types its constructor takes. -/
  | paramTypes (cls : Class) (types : List Class)

namespace Registry

/-- The registry after the tag of a service was settled: an explicit tag is bound if the class is
free. -/
def settleTag (registry : Registry) (cls : Class) (tag : Option Tag) : Registry :=
  match tag with
  | some tag => registry.bindTag cls tag
  | none => registry.claimTag cls

/-- The handle, the address and the value a decoration writes through. -/
def written (registry : Registry) : Decoration → Handle × Address × MetadataValue
  | .service handle tag =>
    let tag := (registry.settleTag handle.cls tag).tagOf handle.cls
    (handle, { key := MetadataKey.service }, .service { tag, implementation := handle })
  | .controller handle basePath =>
    (handle, { key := MetadataKey.controller }, .controller { basePath })
  | .route cls route => (cls.handle, { key := MetadataKey.routes }, .routes [route])
  | .param cls handler param =>
    (cls.handle, { key := MetadataKey.params, property := some handler }, .params [param])
  | .module handle metadata => (handle, { key := MetadataKey.module }, .module metadata)
  | .paramTypes cls types => (cls.handle, { key := MetadataKey.paramTypes }, .paramTypes types)

/-- The registry with a decoration applied. -/
def decorate (registry : Registry) (decoration : Decoration) : Registry :=
  let (handle, address, value) := registry.written decoration
  match decoration with
  | .service _ tag => (registry.settleTag handle.cls tag).write handle address value
  | _ => registry.write handle address value

/-- The tag a class has as a service after it was decorated as one. -/
def tagOfService (registry : Registry) (cls : Class) : Tag :=
  (registry.serviceTag? cls).getD (registry.tagOf cls)

/-! ## What is reported -/

/-- The report of an explicit tag that came too late. -/
def tagEvents (registry : Registry) (cls : Class) : Option Tag → List Event
  | none => []
  | some tag =>
    let bound := (registry.bindTag cls tag).tagOf cls
    if bound = tag then []
    else
      [{ level := .warn
         message := "Service tag already bound; explicit tag ignored"
         fields :=
          [ ("class", .text cls.name),
            ("requested", .text tag.identifier),
            ("bound", .text bound.identifier) ] }]

/-- The report of what became of the value a decoration writes. -/
def writeEvents (registry : Registry) (decoration : Decoration) : List Event :=
  let (handle, address, value) := registry.written decoration
  (registry.outcome handle address value).2.events handle.cls address.key

/-- The reports of a decoration about to be applied. -/
def decorationEvents (registry : Registry) (decoration : Decoration) : List Event :=
  let writes := registry.writeEvents decoration
  match decoration with
  | .service handle tag =>
    let bound := (registry.settleTag handle.cls tag).tagOf handle.cls
    registry.tagEvents handle.cls tag ++ writes ++
      [{ level := .debug
         message := "Registered service"
         fields := [("class", .text handle.name), ("tag", .text bound.identifier)] }]
  | .controller handle basePath =>
    writes ++
      [{ level := .debug
         message := "Registered controller"
         fields := [("class", .text handle.name), ("base_path", .text basePath)] }]
  | .module handle metadata =>
    { level := .debug
      message := "Registered module"
      fields :=
        [ ("class", .text handle.name),
          ("imports", .count metadata.imports.length),
          ("controllers", .count metadata.controllers.length),
          ("providers", .count metadata.providers.length) ] : Event } :: writes
  | .route .. | .param .. | .paramTypes .. => writes

/-- Applies a decoration and reports it. -/
def apply (registry : Registry) (decoration : Decoration) : Logged Registry := do
  emitAll (registry.decorationEvents decoration)
  return registry.decorate decoration

/-- Applies decorations in order, each announced with the name of its class. -/
def applyAll (registry : Registry) (decorations : List (String × Decoration)) : Logged Registry :=
  decorations.foldlM (fun registry (className, decoration) => do
    emit { level := .debug, message := "Applying decorator", fields := [("class", .text className)] }
    registry.apply decoration) registry

/-- Writes a value at an address and reports what became of it. -/
def define (registry : Registry) (target : Handle) (address : Address) (value : MetadataValue) :
    Logged (Bool × Registry) := do
  let written := (registry.outcome target address value).2
  emitAll (written.events target.cls address.key)
  return (written.isChange, registry.write target address value)

end Registry

end Trellis
