import Trellis.Resolution.Basic
/-!
# Resolvers

A resolver remembers what it has worked out: the parameters of a class's signature, once and for all,
and the resolution of a class within a scope. Signatures are parsed only when reflection does not
answer.
-/

namespace Trellis

structure Resolver where
  signatures : Table Class (List Signature.Param) := []
  resolutions : Table (Scope × Class) Resolution := []

namespace Resolver

/-- The resolution remembered for a class within a scope. -/
def cached? (resolver : Resolver) (scope : Scope) (cls : Class) : Option Resolution :=
  resolver.resolutions.get? (scope, cls)

/-- The parameters of a handle's signature, as remembered or as parsed. -/
def paramsOf (resolver : Resolver) (handle : Handle) : List Signature.Param :=
  (resolver.signatures.get? handle.cls).getD (Signature.params handle.signature)

/-- What the resolver works out when it remembers nothing for the scope. -/
def compute (resolver : Resolver) (reflection : Reflection) (handle : Handle)
    (available : Available) : Resolution :=
  Trellis.resolve reflection handle (resolver.paramsOf handle) available

/-- The resolver after it worked out a resolution. -/
def remember (resolver : Resolver) (reflection : Reflection) (handle : Handle)
    (available : Available) : Resolver :=
  { signatures :=
      if (reflection.constructorTypes? handle).isSome ∨ resolver.signatures.has handle.cls then
        resolver.signatures
      else resolver.signatures.put handle.cls (Signature.params handle.signature)
    resolutions :=
      resolver.resolutions.put (available.scope, handle.cls)
        (resolver.compute reflection handle available) }

/-- The reports of working out a resolution. -/
def computeEvents (resolver : Resolver) (reflection : Reflection) (handle : Handle)
    (available : Available) : List Event :=
  let resolution := resolver.compute reflection handle available
  reflection.lookupEvents handle ++
    [{ level := .debug
       message := "Resolved constructor dependencies"
       fields :=
        [ ("class", .text handle.name),
          ("source", .text resolution.source.name),
          ("dependencies", .count resolution.dependencies.length),
          ("unresolved", .count resolution.unresolved.length) ] }]

/-- Resolves a constructor against the available services, from memory if it can. -/
def resolve (resolver : Resolver) (reflection : Reflection) (handle : Handle)
    (available : Available) : Logged (Resolution × Resolver) :=
  match resolver.cached? available.scope handle.cls with
  | some resolution => return (resolution, resolver)
  | none => do
    emitAll (resolver.computeEvents reflection handle available)
    return (resolver.compute reflection handle available,
      resolver.remember reflection handle available)

/-! ## What resolving comes to -/

/-- The resolution of a constructor: the remembered one or, if there is none, the one worked out. -/
def resolution (resolver : Resolver) (reflection : Reflection) (handle : Handle)
    (available : Available) : Resolution :=
  (resolver.cached? available.scope handle.cls).getD (resolver.compute reflection handle available)

/-- The resolver after it resolved a constructor. -/
def learning (resolver : Resolver) (reflection : Reflection) (handle : Handle)
    (available : Available) : Resolver :=
  match resolver.cached? available.scope handle.cls with
  | some _ => resolver
  | none => resolver.remember reflection handle available

theorem resolve_fst (resolver : Resolver) (reflection : Reflection) (handle : Handle)
    (available : Available) (ledger : Ledger) :
    (resolver.resolve reflection handle available ledger).1 =
      (resolver.resolution reflection handle available,
        resolver.learning reflection handle available) := by
  unfold resolve resolution learning
  cases resolver.cached? available.scope handle.cls <;> rfl

end Resolver

end Trellis
