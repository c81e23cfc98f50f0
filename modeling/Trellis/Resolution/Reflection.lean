import Trellis.Metadata.Registry
import Trellis.Signature.Param
/-!
# Reflection

What is known about the types a constructor takes, apart from its signature text. Two sources are
asked in order: the host, by default the types known when the class was compiled, and the registry.
The first source that names an injectable class answers; what it names beyond that is left out.
-/

namespace Trellis

/-- Names of types that never stand for a class to inject. -/
def primitiveTypeNames : List String :=
  [ "Object", "Any", "dyn Any", "()", "bool", "char", "str", "String", "i8", "i16", "i32", "i64",
    "i128", "isize", "u8", "u16", "u32", "u64", "u128", "usize", "f32", "f64" ]

/-- Whether a name can stand for a class to inject: it is neither that of a primitive type nor one
that the framework supplies itself. -/
def isInjectableName (name : String) : Bool :=
  !primitiveTypeNames.contains name && !Signature.isReservedName name

/-- A source of metadata that can be asked like a registry. -/
structure MetadataSource where
  name : String
  read : Handle → Address → Option MetadataValue

namespace MetadataSource

/-- The source that knows the types a handle carries. -/
def emitted : MetadataSource where
  name := "emitted"
  read handle address :=
    if address = { key := MetadataKey.paramTypes } ∧ handle.emitted ≠ [] then
      some (.paramTypes handle.emitted)
    else none

/-- A registry as a source. -/
def ofRegistry (registry : Registry) : MetadataSource where
  name := "metadata-store"
  read handle address := registry.read handle.cls address

/-- The injectable classes a source names for the constructor of a class. -/
def injectableTypes (source : MetadataSource) (handle : Handle) : List Class :=
  match source.read handle { key := MetadataKey.paramTypes } with
  | some (.paramTypes types) => types.filter fun cls => isInjectableName cls.name
  | _ => []

end MetadataSource

/-- Which source answered. -/
inductive ReflectionTier where
  | host
  | store
  deriving DecidableEq, Repr

/-- The two sources. -/
structure Reflection where
  host : MetadataSource := .emitted
  store : Registry

namespace Reflection

/-- The source of a tier. -/
def source (reflection : Reflection) : ReflectionTier → MetadataSource
  | .host => reflection.host
  | .store => .ofRegistry reflection.store

/-- The classes the first tier with any names for a constructor. -/
def constructorTypes? (reflection : Reflection) (handle : Handle) :
    Option (ReflectionTier × List Class) :=
  [ReflectionTier.host, .store].findSome? fun tier =>
    match (reflection.source tier).injectableTypes handle with
    | [] => none
    | types => some (tier, types)

/-- The report of a look-up. -/
def lookupEvents (reflection : Reflection) (handle : Handle) : List Event :=
  match reflection.constructorTypes? handle with
  | none => []
  | some (tier, _) =>
    [{ level := .debug
       message := "Constructor types found"
       fields := [("class", .text handle.name), ("source", .text (reflection.source tier).name)] }]

/-- Looks the types of a constructor up and reports where they were found. -/
def lookup (reflection : Reflection) (handle : Handle) :
    Logged (Option (ReflectionTier × List Class)) := do
  emitAll (reflection.lookupEvents handle)
  return reflection.constructorTypes? handle

end Reflection

end Trellis
