import Trellis.Composition.Application
import Trellis.Object.Blueprint
/-!
# Workbenches

A workbench keeps objects by name: registries, tags, instances, layers, contexts, sets of available
services, resolvers, controllers and compositions. Working at it is how an application is put together
and looked at step by step. Each sort of object lies in a drawer of its own.
-/

namespace Trellis

/-- A resolver with the names of the sources it asks. -/
structure BenchResolver where
  host : String
  registry : String
  resolver : Resolver

/-- A composition with the name of its registry and its own resolver. -/
structure BenchModule where
  registry : String
  resolver : Resolver
  composition : Composition

structure Workbench where
  app : App
  blueprints : Table String Blueprint := []
  ledger : Ledger := {}
  /-- The tags shown so far, each numbered by its place. -/
  shown : List Tag := []
  registries : Table String Registry := []
  tags : Table String Tag := []
  instances : Table String Instance := []
  layers : Table String Layer := []
  contexts : Table String Context := []
  available : Table String Available := []
  resolvers : Table String BenchResolver := []
  controllers : Table String Controller := []
  modules : Table String BenchModule := []

/-- Work at a workbench; a failure keeps what was done before. -/
abbrev Work := ExceptT Error (StateM Workbench)

/-- Where one sort of object is kept. -/
structure Drawer (α : Type) where
  contents : Workbench → Table String α
  replace : Table String α → Workbench → Workbench

namespace Drawer

def blueprints : Drawer Blueprint := ⟨(·.blueprints), fun blueprints bench => { bench with blueprints }⟩
def registries : Drawer Registry := ⟨(·.registries), fun registries bench => { bench with registries }⟩
def tags : Drawer Tag := ⟨(·.tags), fun tags bench => { bench with tags }⟩
def instances : Drawer Instance := ⟨(·.instances), fun instances bench => { bench with instances }⟩
def layers : Drawer Layer := ⟨(·.layers), fun layers bench => { bench with layers }⟩
def contexts : Drawer Context := ⟨(·.contexts), fun contexts bench => { bench with contexts }⟩
def available : Drawer Available := ⟨(·.available), fun available bench => { bench with available }⟩
def resolvers : Drawer BenchResolver := ⟨(·.resolvers), fun resolvers bench => { bench with resolvers }⟩
def controllers : Drawer Controller :=
  ⟨(·.controllers), fun controllers bench => { bench with controllers }⟩
def modules : Drawer BenchModule := ⟨(·.modules), fun modules bench => { bench with modules }⟩

/-- The object of a name. -/
def find {α : Type} (drawer : Drawer α) (name : String) : Work α := do
  match (drawer.contents (← get)).get? name with
  | some object => return object
  | none => throw (.internal ("nothing is kept as " ++ name))

/-- Keeps an object under a name. -/
def keep {α : Type} (drawer : Drawer α) (name : String) (object : α) : Work Unit :=
  modify fun bench => drawer.replace ((drawer.contents bench).put name object) bench

end Drawer

namespace Work

/-- Work on the ledger. -/
def logged {α : Type} (work : Logged α) : Work α :=
  modifyGet fun bench =>
    let (value, ledger) := work bench.ledger
    (value, { bench with ledger })

/-- A result as work. -/
def ofExcept {α : Type} (result : Except Error α) : Work α :=
  ExceptT.mk (pure result)

/-- Work on the ledger that may fail. -/
def build {α : Type} (work : Build α) : Work α := do
  ofExcept (← logged work.run)

/-- A registry, which is empty until something is written into it. -/
def registry (name : String) : Work Registry := do
  return ((← get).registries.get? name).getD { name }

def keepRegistry (registry : Registry) : Work Unit :=
  Drawer.registries.keep registry.name registry

/-- A host that answers nothing. -/
def blindHost : MetadataSource where
  name := "blind"
  read _ _ := none

/-- The host of a name: a known one, or a registry. -/
def host (name : String) : Work MetadataSource := do
  if name = "emitted" then return .emitted
  else if name = "blind" then return blindHost
  else return .ofRegistry (← registry name)

def reflection (hostName registryName : String) : Work Reflection := do
  return { host := ← host hostName, store := ← registry registryName }

/-- The class of an identity. -/
def classOf (id : String) : Work Class := do
  if id = Class.logger.id then return .logger
  return (← Drawer.blueprints.find id).cls

/-- A handle of the class of an identity. -/
def handleOf (id : String) (kind : HandleKind) : Work Handle := do
  if id = Class.logger.id then return Class.logger.handle
  return (← Drawer.blueprints.find id).handle kind

/-- The constructor of the class of an identity. -/
def constructorOf (id : String) : Work Constructor := do
  return (← Drawer.blueprints.find id).constructor

/-- Shows tags: each gets the number under which it is first shown. -/
def showTags (tags : List Tag) : Work Unit :=
  modify fun bench =>
    { bench with
      shown := tags.foldl (fun shown tag => if tag ∈ shown then shown else shown ++ [tag]) bench.shown }

end Work

/-- A shown tag with its number. -/
def Workbench.mark (bench : Workbench) (tag : Tag) : String :=
  tag.identifier ++ "#" ++ toString (bench.shown.idxOf tag)

end Trellis
