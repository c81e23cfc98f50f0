import Trellis.Composition.Inquiry
import Trellis.Workbench.Basic
/-!
# Working at a workbench

The operations that change more than one thing that is kept: decorations, resolutions, services bound
to controllers, and the stages of compositions. A controller is one object however many names it has,
so a service bound to it is bound wherever it is kept.
-/

namespace Trellis

namespace Work

/-- Applies a decoration to a registry. -/
def decorate (registryName : String) (decoration : Decoration) : Work Registry := do
  let decorated ← logged ((← registry registryName).apply decoration)
  keepRegistry decorated
  return decorated

/-- Writes a value and tells whether the registry's values changed. -/
def define (registryName : String) (handle : Handle) (address : Address) (value : MetadataValue) :
    Work Bool := do
  let (changed, written) ← logged ((← registry registryName).define handle address value)
  keepRegistry written
  return changed

/-- The tag of a class, which is handed out. -/
def claimTag (registryName : String) (cls : Class) : Work Tag := do
  let before ← registry registryName
  keepRegistry (before.claimTag cls)
  return before.tagOf cls

/-- Decorates classes as services, each announced. -/
def applyServices (registryName : String) (handles : List Handle) : Work Unit := do
  let decorations := handles.map fun handle => (handle.name, Decoration.service handle none)
  keepRegistry (← logged ((← registry registryName).applyAll decorations))

/-- A new set of available services: that of a module, or one of its own. -/
def makeAvailable (module : Option Class) (classes : List Class) : Work Available := do
  let empty ← match module with
    | some cls => pure { scope := .module cls }
    | none => logged Available.make
  logged (empty.addAll classes)

/-- Resolves a constructor with a kept resolver. -/
def resolve (name : String) (handle : Handle) (available : Available) : Work Resolution := do
  let known ← Drawer.resolvers.find name
  let sources ← reflection known.host known.registry
  let (resolution, resolver) ← logged (known.resolver.resolve sources handle available)
  Drawer.resolvers.keep name { known with resolver }
  return resolution

/-- Binds a service to a controller, wherever the controller is kept; answers with the number of its
services. -/
def registerService (name : String) (tag : Tag) (service : Instance) : Work Nat := do
  let controller ← Drawer.controllers.find name
  let object := controller.subject.object
  modify fun bench =>
    { bench with
      controllers := bench.controllers.map fun (name, known) =>
        (name, if known.subject.object = object then known.register tag service else known)
      modules := bench.modules.map fun (name, known) =>
        (name, { known with composition := known.composition.registerWith object tag service }) }
  return (controller.register tag service).services.length

/-- Composes a module. -/
def compose (registryName : String) (cls : Class) : Work BenchModule := do
  let (composed, after) ←
    logged (Composition.compose (← registry registryName) cls (← get).app)
  keepRegistry after
  return { registry := after.name, resolver := {}, composition := ← ofExcept composed }

/-- Starts an application. -/
def start (registryName : String) (cls : Class) : Work BenchModule := do
  let before ← registry registryName
  let started ← logged
    (Composition.start .emitted before {} cls (← get).app.config " from a private registry")
  keepRegistry started.registry
  let composition ← ofExcept started.result
  return { registry := registryName, resolver := started.resolver, composition }

/-- Sets a kept composition up. -/
def setup (name : String) : Work Composition := do
  let known ← Drawer.modules.find name
  let (outcome, composition, resolver) ← logged
    (known.composition.setupIn .emitted (← registry known.registry) known.resolver)
  Drawer.modules.keep name { known with composition, resolver }
  ofExcept outcome
  return composition

/-- Looks a service of a kept composition up by its class. -/
def service? (name : String) (cls : Class) : Work (Option Instance) := do
  let known ← Drawer.modules.find name
  let (found, registry) := (known.composition.lookUp cls).run (← registry known.registry)
  keepRegistry registry
  return found

end Work

end Trellis
