import Trellis.Proofs.Resolution.Memory
/-!
# Resolvers in use

A resolver that starts empty and has resolved whatever constructors knows nothing but what it worked
out itself: signatures it parsed, and resolutions of a class within a scope, each read from the
signature of that class or from reflection. Which signature a class has is what its handles say, all
alike.
-/

namespace Trellis

/-! ## What handles say of their classes -/

/-- What is known of classes when they are compiled: the text of a constructor's signature and the
types of its parameters. Handles are made from classes, so two handles of one class differ at most in
the constructors they know. -/
structure Catalogue where
  signature : Class → String
  emitted : Class → List Class

/-- A handle that says what is known of its class. -/
structure Catalogue.Describes (catalogue : Catalogue) (handle : Handle) : Prop where
  signature : handle.signature = catalogue.signature handle.cls
  emitted : handle.emitted = catalogue.emitted handle.cls

/-! ## What a resolver works out -/

/-- A resolution of a class within a scope that was worked out from the signature of the class. -/
def WorkedOut (catalogue : Catalogue) (scope : Scope) (cls : Class) (resolution : Resolution) : Prop :=
  ∃ (reflection : Reflection) (handle : Handle) (available : Available),
    handle.cls = cls ∧ available.scope = scope ∧
      resolution =
        resolve reflection handle (Signature.params (catalogue.signature cls)) available

namespace Resolver

/-- What can become of an empty resolver that is asked through handles which describe their classes. -/
inductive Used (catalogue : Catalogue) : Resolver → Prop
  | empty : Used catalogue {}
  | resolve {resolver : Resolver} (used : Used catalogue resolver) (reflection : Reflection)
      {handle : Handle} (described : catalogue.Describes handle) (available : Available) :
      Used catalogue (resolver.learning reflection handle available)

/-- All that is remembered was parsed or worked out from the signatures of the classes. -/
structure Sound (catalogue : Catalogue) (resolver : Resolver) : Prop where
  signatures : ∀ cls params, resolver.signatures.get? cls = some params →
    params = Signature.params (catalogue.signature cls)
  resolutions : ∀ scope cls resolution, resolver.resolutions.get? (scope, cls) = some resolution →
    WorkedOut catalogue scope cls resolution

variable {catalogue : Catalogue} {resolver : Resolver} {handle : Handle}

theorem Sound.compute (sound : resolver.Sound catalogue) (reflection : Reflection)
    (described : catalogue.Describes handle) (available : Available) :
    WorkedOut catalogue available.scope handle.cls
      (resolver.compute reflection handle available) := by
  have params : resolver.paramsOf handle = Signature.params (catalogue.signature handle.cls) := by
    unfold Resolver.paramsOf
    cases known : resolver.signatures.get? handle.cls with
    | none => rw [← described.signature]; rfl
    | some params => exact sound.signatures handle.cls params known
  exact ⟨reflection, handle, available, rfl, rfl, by rw [Resolver.compute, params]⟩

theorem Sound.resolution (sound : resolver.Sound catalogue) (reflection : Reflection)
    (described : catalogue.Describes handle) (available : Available) :
    WorkedOut catalogue available.scope handle.cls
      (resolver.resolution reflection handle available) := by
  unfold Resolver.resolution
  cases known : resolver.cached? available.scope handle.cls with
  | none => exact sound.compute reflection described available
  | some resolution => exact sound.resolutions _ _ _ known

theorem Sound.learning (sound : resolver.Sound catalogue) (reflection : Reflection)
    (described : catalogue.Describes handle) (available : Available) :
    (resolver.learning reflection handle available).Sound catalogue where
  signatures cls params known := by
    rcases eq_of_signatures_learning known with before | ⟨rfl, rfl⟩
    · exact sound.signatures cls params before
    · rw [described.signature]
  resolutions scope cls resolution known := by
    rcases eq_of_cached?_learning known with before | ⟨rfl, rfl, rfl⟩
    · exact sound.resolutions scope cls resolution before
    · exact sound.compute reflection described available

theorem Used.sound (used : resolver.Used catalogue) : resolver.Sound catalogue := by
  induction used with
  | empty => exact ⟨fun _ _ found => absurd found nofun, fun _ _ _ found => absurd found nofun⟩
  | resolve _ reflection described available ih => exact ih.learning reflection described available

end Resolver

/-- What stays unresolved stands in the order of the signature. -/
theorem unresolved_resolve_sublist (reflection : Reflection) (handle : Handle)
    (params : List Signature.Param) (available : Available) :
    (resolve reflection handle params available).unresolved.Sublist
      (params.map (·.asUnresolved)) := by
  unfold resolve
  split
  · exact List.nil_sublist _
  · rw [unresolved_resolveParams]
    exact (List.filter_sublist.trans List.filter_sublist).map _

end Trellis
