import Trellis.Composition.Compose
/-!
# Setting up a composition

Setting up realizes the layer and then wires the controllers, module by module. A controller depends
on the providers of the module that declares it; each dependency is injected as the first realized
instance of its class, and what is not matched or not realized is omitted. Under the strict policy an
omission stops the set-up.

A failed set-up keeps what it has reached: nothing if a service could not be built, the realized
services and the controllers wired so far otherwise.
-/

namespace Trellis

/-- What a set-up works on. -/
structure Assembly where
  composition : Composition
  resolver : Resolver
  ledger : Ledger

/-- A step of a set-up. -/
abbrev Assemble := ExceptT Error (StateM Assembly)

namespace Assemble

/-- Work on the ledger, as a step. -/
def logged {α : Type} (work : Logged α) : Assemble α :=
  ExceptT.mk fun assembly =>
    let (result, ledger) := work assembly.ledger
    (.ok result, { assembly with ledger })

/-- Work on the ledger that may fail, as a step. -/
def build {α : Type} (work : Build α) : Assemble α :=
  ExceptT.mk fun assembly =>
    let (result, ledger) := work.run assembly.ledger
    (result, { assembly with ledger })

/-- A change of the composition. -/
def update (change : Composition → Composition) : Assemble Unit :=
  modify fun assembly => { assembly with composition := change assembly.composition }

/-- Resolves a constructor and keeps the resolver. -/
def resolve (reflection : Reflection) (handle : Handle) (available : Available) :
    Assemble Resolution := do
  let assembly ← get
  let (resolution, resolver) ← logged (assembly.resolver.resolve reflection handle available)
  modify fun assembly => { assembly with resolver }
  return resolution

end Assemble

namespace Resolution

/-- The realized instances of the dependencies, in order. -/
def injected (resolution : Resolution) (services : Context) : List Instance :=
  resolution.dependencies.filterMap services.ofClass?

/-- What is omitted, as it is told: unmatched parameters, then dependencies without an instance. -/
def omitted (resolution : Resolution) (services : Context) : List String :=
  resolution.unresolved.map (·.text) ++
    (resolution.dependencies.filter fun cls => (services.ofClass? cls).isNone).map
      fun cls => cls.name ++ " (not realized)"

end Resolution

namespace Composition

/-- The report of an omitted argument. -/
def omittedEvent (module cls : Class) (param : String) : Event where
  level := .warn
  message := "Could not resolve controller dependency; argument omitted"
  fields :=
    [("module", .text module.name), ("controller", .text cls.name), ("param", .text param)]

/-- The report of a wired controller and the number of its injected dependencies. -/
def wiredEvent (wired : Wired) (injected : Nat) : Event where
  level := .debug
  message := "Wired controller"
  fields :=
    [ ("module", .text wired.module.name),
      ("controller", .text wired.cls.name),
      ("dependencies", .count injected),
      ("source", .text wired.resolution.source.name) ]

/-- The report of a controller class that was not decorated as one. -/
def undecoratedEvents (registry : Registry) (cls : Class) : List Event :=
  if (registry.controllerMetadata? cls).isSome then []
  else
    [{ level := .warn
       message := "Controller has no @Controller metadata"
       fields := [("controller", .text cls.name)] }]

/-- Wires one controller of a module. -/
def wireController (reflection : Reflection) (module : Class) (available : Available)
    (handle : Handle) : Assemble Unit := do
  let composition := (← get).composition
  Assemble.logged (emitAll (undecoratedEvents reflection.store handle.cls))
  let resolution ← Assemble.resolve reflection handle available
  let omitted := resolution.omitted composition.services
  if omitted ≠ [] ∧ composition.app.config.policy = .strict then
    throw (.unresolvedDependencies handle.name omitted)
  Assemble.logged (emitAll (omitted.map (omittedEvent module handle.cls)))
  match reflection.store.controllerConstructor? handle with
  | none => throw (.construction handle.name "class is not a controller" none)
  | some construct =>
    let dependencies := resolution.injected composition.services
    let subject ← Assemble.build (construct { composition.app.args with dependencies })
    let wired : Wired :=
      { module
        cls := handle.cls
        controller := { subject, services := composition.services }
        resolution }
    Assemble.logged (emit (wiredEvent wired dependencies.length))
    Assemble.update fun composition =>
      { composition with controllers := composition.controllers ++ [wired] }

/-- Wires the controllers of one module. -/
def wireModule (reflection : Reflection) (declared : Declared) : Assemble Unit := do
  let providers := declared.metadata.providers.map (·.cls)
  let available ← Assemble.logged (Available.addAll { scope := .module declared.cls } providers)
  declared.metadata.controllers.forM (wireController reflection declared.cls available)

/-- The report of realized services. -/
def realizedEvent (composition : Composition) : Event where
  level := .info
  message := "Realized module services"
  fields :=
    [("module", .text composition.root.cls.name), ("services", .count composition.services.length)]

/-- The report of a composition that is set up. -/
def setUpEvent (composition : Composition) : Event where
  level := .info
  message := "Wired module controllers"
  fields :=
    [ ("module", .text composition.root.cls.name),
      ("controllers", .count composition.controllers.length) ]

/-- Realizes the services of a composition. -/
def realize : Assemble Unit := do
  let composition := (← get).composition
  let services ← Assemble.build composition.layer.build
  Assemble.update fun composition => { composition with services, stage := .servicesRealized }
  Assemble.logged (emit (realizedEvent { composition with services }))

/-- Wires all controllers of a composition. -/
def wire (reflection : Reflection) : Assemble Unit := do
  (← get).composition.modules.forM (wireModule reflection)
  Assemble.update fun composition => { composition with stage := .controllersWired }
  Assemble.logged (emit (setUpEvent (← get).composition))

/-- Sets a composition up, which can be done once. -/
def setup (reflection : Reflection) : Assemble Unit := do
  let composition := (← get).composition
  if composition.stage ≠ .layersComposed then
    throw (.invalidState Stage.layersComposed.name composition.stage.name)
  realize
  wire reflection

end Composition

end Trellis
