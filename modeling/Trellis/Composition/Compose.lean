import Trellis.Composition.Basic
/-!
# Composing a module

The layer of a composition provides the logger first and then all providers in the order of the walk.
Composing constructs nothing but the logger's instance; it hands out the tags of the logger and of
plain providers, also when it fails later.
-/

namespace Trellis

namespace Registry

/-- A module with what the registry holds of it. -/
def declared? (registry : Registry) (cls : Class) : Option Declared :=
  (registry.moduleMetadata? cls).map fun metadata => { cls, metadata }

end Registry

namespace Composition

/-- The composition of a root module out of the trail of a walk that met no fault. -/
def ofTrail (registry : Registry) (root : Declared) (app : App) (logger : Instance)
    (trail : Trail) : Composition where
  root
  imported := trail.imports.filterMap registry.declared?
  app
  layer := (Layer.succeed (registry.tagOf .logger) logger).merge trail.layer
  stage := .layersComposed

/-- The report of a composed module. -/
def composedEvent (composition : Composition) : Event where
  level := .info
  message := "Composed module layer"
  fields :=
    [ ("module", .text composition.root.cls.name),
      ("provisions", .count composition.layer.length),
      ("imports", .count composition.imported.length) ]

/-- Composes a module; the registry has the tags handed out on the way. -/
def compose (registry : Registry) (cls : Class) (app : App) :
    Logged (Except Error Composition × Registry) := do
  match registry.declared? cls with
  | none => return (.error (.missingDecorator cls.name "Module"), registry)
  | some root =>
    let registry := registry.claimTag .logger
    let logger ← newLoggerInstance app.logger
    let trail := registry.walkModule app [] cls
    emitAll trail.events
    let claimed := trail.claimTags registry
    match trail.fault with
    | some fault => return (.error fault, claimed)
    | none =>
      let composition := ofTrail registry root app logger trail
      emit composition.composedEvent
      return (.ok composition, claimed)

/-! ## What composing comes to -/

/-- A composition that nothing has been done with yet. -/
structure Fresh (composition : Composition) : Prop where
  stage : composition.stage = .layersComposed
  services : composition.services = []
  controllers : composition.controllers = []

section Outcome

variable {registry : Registry} {cls : Class} {metadata : ModuleMetadata} {app : App}
  {ledger : Ledger}

theorem compose_of_undeclared (unknown : registry.moduleMetadata? cls = none) :
    (compose registry cls app ledger).1 =
      (.error (.missingDecorator cls.name "Module"), registry) := by
  have undeclared : registry.declared? cls = none := by rw [Registry.declared?, unknown]; rfl
  unfold compose
  rw [undeclared]
  rfl

theorem compose_of_fault {fault : Error} (declared : registry.moduleMetadata? cls = some metadata)
    (faulty : ((registry.claimTag .logger).walkModule app [] cls).fault = some fault) :
    (compose registry cls app ledger).1 =
      (.error fault, ((registry.claimTag .logger).walkModule app [] cls).claimTags
        (registry.claimTag .logger)) := by
  have found : registry.declared? cls = some { cls, metadata } := by
    rw [Registry.declared?, declared]; rfl
  unfold compose
  rw [found]
  simp only [bind, StateT.bind, faulty]
  rfl

theorem compose_of_clean (declared : registry.moduleMetadata? cls = some metadata)
    (clean : ((registry.claimTag .logger).walkModule app [] cls).fault = none) :
    (compose registry cls app ledger).1 =
      (.ok (ofTrail (registry.claimTag .logger) { cls, metadata } app
          (newLoggerInstance app.logger ledger).1
          ((registry.claimTag .logger).walkModule app [] cls)),
        ((registry.claimTag .logger).walkModule app [] cls).claimTags
          (registry.claimTag .logger)) := by
  have found : registry.declared? cls = some { cls, metadata } := by
    rw [Registry.declared?, declared]; rfl
  unfold compose
  rw [found]
  simp only [bind, StateT.bind, clean]
  rfl

/-- A composition is made of what a walk without a fault gathered. -/
theorem eq_ofTrail_of_compose {composition : Composition}
    (composed : (compose registry cls app ledger).1.1 = .ok composition) :
    ∃ metadata, registry.moduleMetadata? cls = some metadata ∧
      ((registry.claimTag .logger).walkModule app [] cls).fault = none ∧
      composition = ofTrail (registry.claimTag .logger) { cls, metadata } app
        (newLoggerInstance app.logger ledger).1
        ((registry.claimTag .logger).walkModule app [] cls) := by
  cases declared : registry.moduleMetadata? cls with
  | none =>
    rw [compose_of_undeclared declared] at composed
    cases composed
  | some metadata =>
    cases fault : ((registry.claimTag .logger).walkModule app [] cls).fault with
    | some error =>
      rw [compose_of_fault declared fault] at composed
      cases composed
    | none =>
      rw [compose_of_clean declared fault] at composed
      exact ⟨metadata, rfl, rfl, (Except.ok.inj composed).symm⟩

theorem fresh_of_compose {composition : Composition}
    (composed : (compose registry cls app ledger).1.1 = .ok composition) : composition.Fresh := by
  obtain ⟨metadata, -, -, rfl⟩ := eq_ofTrail_of_compose composed
  exact ⟨rfl, rfl, rfl⟩

theorem app_of_compose {composition : Composition}
    (composed : (compose registry cls app ledger).1.1 = .ok composition) :
    composition.app = app := by
  obtain ⟨metadata, -, -, rfl⟩ := eq_ofTrail_of_compose composed
  rfl

end Outcome

end Composition

end Trellis
