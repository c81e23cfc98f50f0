import Trellis.Metadata.Value
import Trellis.Table
/-!
# The registry

What decorators have written, class by class, and the tag of every class that has one.

A value stands at an address: a key and, for the parameters of a handler, a property. The first value
written at an address stays; a later list of the same kind is added to it, anything else is passed
over. Along with the values the registry keeps the union of all handles it has seen of a class.

A tag is bound once. A class that nobody bound to a tag has its canonical one, which becomes bound
when it is first handed out.
-/

namespace Trellis

/-- Where a value stands within a class. -/
structure Address where
  key : String
  property : Option String := none
  deriving DecidableEq, Repr

/-- What is written about one class. -/
structure ClassEntry where
  handle : Handle
  values : Table Address MetadataValue := []

/-- A registry; its name tells its canonical tags from those of other registries. -/
structure Registry where
  name : String
  entries : Table Class ClassEntry := []
  tags : Table Class Tag := []

/-- What became of a written value. -/
inductive Written where
  /-- It is the first value at its address. -/
  | stored
  /-- It was added to a list of its kind. -/
  | appended
  /-- It was passed over: there is a value already. -/
  | kept
  /-- It was passed over: it is a list, and what stands there is of another kind. -/
  | mismatched
  deriving DecidableEq, Repr

namespace Written

/-- Whether the registry's values changed. -/
def isChange : Written → Bool
  | stored | appended => true
  | kept | mismatched => false

/-- What is reported about it. -/
def events (written : Written) (cls : Class) (key : String) : List Event :=
  let told (message : String) : Event :=
    { level := .debug, message, fields := [("class", .text cls.name), ("key", .text key)] }
  match written with
  | stored | appended => []
  | kept => [told "Metadata already defined; keeping first value"]
  | mismatched => [told "Metadata kind mismatch; value ignored"]

end Written

/-- The value that stands at an address after `value` is written over `known`. -/
def MetadataValue.over (value : MetadataValue) (known : Option MetadataValue) :
    MetadataValue × Written :=
  match known with
  | none => (value, .stored)
  | some old =>
    if value.isList then
      match old.append? value with
      | some longer => (longer, .appended)
      | none => (old, .mismatched)
    else (old, .kept)

namespace Registry

/-! ## Values -/

/-- The entry of a class as it stands before something is written through `target`. -/
def entryFor (registry : Registry) (target : Handle) : ClassEntry :=
  match registry.entries.get? target.cls with
  | some entry => { entry with handle := entry.handle.mergedWith target }
  | none => { handle := target }

/-- What would become of a value written at an address. -/
def outcome (registry : Registry) (target : Handle) (address : Address) (value : MetadataValue) :
    MetadataValue × Written :=
  value.over ((registry.entryFor target).values.get? address)

/-- The registry with a value written at an address of a class. -/
def write (registry : Registry) (target : Handle) (address : Address) (value : MetadataValue) :
    Registry :=
  let entry := registry.entryFor target
  let values := entry.values.put address (registry.outcome target address value).1
  { registry with entries := registry.entries.put target.cls { entry with values } }

/-- The value at an address of a class. -/
def read (registry : Registry) (cls : Class) (address : Address) : Option MetadataValue :=
  (registry.entries.get? cls).bind fun entry => entry.values.get? address

def has (registry : Registry) (cls : Class) (address : Address) : Bool :=
  (registry.read cls address).isSome

/-- The keys under which something is written about a class, in order and each once. -/
def keysOf (registry : Registry) (cls : Class) : List String :=
  match registry.entries.get? cls with
  | none => []
  | some entry => Dict.keys (Dict.ofList ((Table.keys entry.values).map fun address => (address.key, ())))

/-- The union of the handles seen of a class. -/
def knownHandle (registry : Registry) (cls : Class) : Option Handle :=
  (registry.entries.get? cls).map (·.handle)

/-! ## Tags -/

/-- The tag of a class: the bound one or, as long as none is bound, the canonical one. -/
def tagOf (registry : Registry) (cls : Class) : Tag :=
  (registry.tags.get? cls).getD (.canonical registry.name cls)

def hasTag (registry : Registry) (cls : Class) : Bool :=
  registry.tags.has cls

/-- The registry with a tag bound to a class, unless the class has one already. -/
def bindTag (registry : Registry) (cls : Class) (tag : Tag) : Registry :=
  if registry.hasTag cls then registry
  else { registry with tags := registry.tags.put cls tag }

/-- The registry after the tag of a class was handed out. -/
def claimTag (registry : Registry) (cls : Class) : Registry :=
  registry.bindTag cls (.canonical registry.name cls)

/-! ## The records of the library's own decorators -/

def serviceMetadata? (registry : Registry) (cls : Class) : Option ServiceMetadata :=
  match registry.read cls { key := MetadataKey.service } with
  | some (.service metadata) => some metadata
  | _ => none

def moduleMetadata? (registry : Registry) (cls : Class) : Option ModuleMetadata :=
  match registry.read cls { key := MetadataKey.module } with
  | some (.module metadata) => some metadata
  | _ => none

/-- The routes registered for a class. -/
def routesOf (registry : Registry) (cls : Class) : List RouteMetadata :=
  match registry.read cls { key := MetadataKey.routes } with
  | some (.routes routes) => routes
  | _ => []

/-- The parameters registered for a handler of a class. -/
def paramsOf (registry : Registry) (cls : Class) (handler : String) : List ParamMetadata :=
  match registry.read cls { key := MetadataKey.params, property := some handler } with
  | some (.params params) => params
  | _ => []

/-- A route with the parameters registered for its handler; all are sorted by index, and those of
one index stay in order. -/
def withParams (registry : Registry) (cls : Class) (route : RouteMetadata) : RouteMetadata :=
  let params := route.params ++ registry.paramsOf cls route.handler
  { route with params := params.mergeSort fun a b => a.index ≤ b.index }

/-- What makes a class a controller, with all that is registered for its routes. -/
def controllerMetadata? (registry : Registry) (cls : Class) : Option ControllerMetadata :=
  match registry.read cls { key := MetadataKey.controller } with
  | some (.controller metadata) =>
    some { metadata with
      routes := (metadata.routes ++ registry.routesOf cls).map (registry.withParams cls) }
  | _ => none

/-- The tag a class is declared to be a service under. -/
def serviceTag? (registry : Registry) (cls : Class) : Option Tag :=
  (registry.serviceMetadata? cls).map (·.tag)

/-- A constructor of services for a class: the handle's own, else one the registry has seen. -/
def serviceConstructor? (registry : Registry) (handle : Handle) : Option Constructor :=
  handle.serviceConstructor.or <|
    (registry.knownHandle handle.cls).bind (·.serviceConstructor)

/-- A constructor of controllers for a class: the handle's own, else one the registry has seen. -/
def controllerConstructor? (registry : Registry) (handle : Handle) : Option Constructor :=
  handle.controllerConstructor.or <|
    (registry.knownHandle handle.cls).bind (·.controllerConstructor)

end Registry

end Trellis
