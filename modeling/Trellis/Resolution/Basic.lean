import Trellis.Resolution.Available
import Trellis.Resolution.Reflection
import Trellis.Signature.ServiceName
/-!
# Resolution

Which classes a constructor depends on. Reflected types are taken as they are. Without them each
parameter of the signature that the framework does not supply itself is looked up among the available
services, under its type's name or, when it has none, under a name guessed from its own; what is not
found stays unresolved.
-/

namespace Trellis

/-- What a resolution was read from. -/
inductive ResolutionSource where
  | hostReflection
  | metadataStore
  | signature
  /-- There was nothing to read. -/
  | empty
  deriving DecidableEq, Repr

def ResolutionSource.name : ResolutionSource → String
  | .hostReflection => "host reflection"
  | .metadataStore => "metadata store"
  | .signature => "signature"
  | .empty => "empty"

def ReflectionTier.resolutionSource : ReflectionTier → ResolutionSource
  | .host => .hostReflection
  | .store => .metadataStore

/-- A parameter that no available service matched. -/
structure UnresolvedParam where
  name : String
  typeName : Option String
  /-- The name it was looked up under. -/
  candidate : String
  deriving DecidableEq, Repr

/-- What a reader is told: the type or, without one, the name that was guessed. -/
def UnresolvedParam.text (param : UnresolvedParam) : String :=
  match param.typeName with
  | some typeName => param.name ++ ": " ++ typeName
  | none =>
    if param.candidate = param.name then param.name
    else param.name ++ " (guessed " ++ param.candidate ++ ")"

/-- The dependencies of a constructor, in its order, and the parameters that matched none. -/
structure Resolution where
  dependencies : List Class := []
  unresolved : List UnresolvedParam := []
  source : ResolutionSource
  deriving DecidableEq, Repr

/-- Whether every parameter was matched. -/
def Resolution.isComplete (resolution : Resolution) : Bool :=
  resolution.unresolved.isEmpty

namespace Signature

/-- The name a parameter is looked up under. -/
def Param.candidate (param : Param) : String :=
  match param.typeName with
  | some typeName => typeName
  | none => if param.destructured then param.name else guessServiceName param.name

/-- The class a parameter stands for. What a pattern binds is no single service. -/
def Param.resolve? (param : Param) (available : Available) : Option Class :=
  if param.destructured then none else available.get? param.candidate

/-- The parameter as an unresolved one. -/
def Param.asUnresolved (param : Param) : UnresolvedParam :=
  { name := param.name, typeName := param.typeName, candidate := param.candidate }

end Signature

/-- The resolution of a signature's parameters against the available services. -/
def resolveParams (params : List Signature.Param) (available : Available) : Resolution :=
  if params.isEmpty then { source := .empty }
  else
    let wanted := params.filter fun param => !param.isReserved
    { dependencies := wanted.filterMap (·.resolve? available)
      unresolved :=
        (wanted.filter fun param => (param.resolve? available).isNone).map (·.asUnresolved)
      source := .signature }

@[simp]
theorem dependencies_resolveParams (params : List Signature.Param) (available : Available) :
    (resolveParams params available).dependencies =
      (params.filter fun param => !param.isReserved).filterMap (·.resolve? available) := by
  cases params <;> rfl

@[simp]
theorem unresolved_resolveParams (params : List Signature.Param) (available : Available) :
    (resolveParams params available).unresolved =
      ((params.filter fun param => !param.isReserved).filter fun param =>
        (param.resolve? available).isNone).map (·.asUnresolved) := by
  cases params <;> rfl

@[simp]
theorem source_resolveParams (params : List Signature.Param) (available : Available) :
    (resolveParams params available).source = if params = [] then .empty else .signature := by
  cases params <;> rfl

/-- The resolution of a constructor whose signature has the parameters. -/
def resolve (reflection : Reflection) (handle : Handle) (params : List Signature.Param)
    (available : Available) : Resolution :=
  match reflection.constructorTypes? handle with
  | some (tier, types) => { dependencies := types, source := tier.resolutionSource }
  | none => resolveParams params available

end Trellis
