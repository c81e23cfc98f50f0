import Trellis.Object.Blueprint
import Trellis.Proofs.Metadata.Writing
import Trellis.Proofs.Steps
/-!
# Orderly registries

A registry in which services stand under the tags of their classes, and in which constructors make
what they are said to make. Any registry that decorations with such constructors lead to is orderly,
whichever tags they ask for.
-/

namespace Trellis

/-! ## Constructors that make instances of their class -/

/-- Whatever a constructor makes is an instance of a class. -/
def Constructor.Makes (cls : Class) (construct : Constructor) : Prop :=
  ∀ args before subject after,
    (construct args).run before = (.ok subject, after) → subject.cls = cls

/-- The constructor of services that a handle knows makes instances of its class. -/
def Handle.Honest (handle : Handle) : Prop :=
  ∀ construct ∈ handle.serviceConstructor, Constructor.Makes handle.cls construct

theorem Blueprint.makes_constructor (blueprint : Blueprint) :
    Constructor.Makes blueprint.cls blueprint.constructor := by
  intro args before subject after made
  -- The role is settled and the dependencies are there before the instance is made.
  obtain ⟨role, settled, -, made⟩ := Steps.run_bind_eq_ok_iff.mp made
  obtain ⟨-, required, -, made⟩ := Steps.run_bind_eq_ok_iff.mp made
  cases made
  rfl

theorem Blueprint.honest_handle (blueprint : Blueprint) (kind : HandleKind) :
    (blueprint.handle kind).Honest := by
  intro construct known
  cases kind with
  | bare | controller => cases known
  | provider =>
    obtain rfl : blueprint.constructor = construct := Option.some.inj known
    exact blueprint.makes_constructor

/-- The providers of a module and the implementation of a service are honest. -/
def Decoration.Honest : Decoration → Prop
  | service handle _ => handle.Honest
  | module _ metadata => ∀ provider ∈ metadata.providers, provider.Honest
  | controller _ _ | route _ _ | param _ _ _ | paramTypes _ _ => True

/-! ## Services under the tags of their classes -/

/-- The tag that a class is a service under is bound to it, and everything that may be constructed is
an instance of the class it is constructed for. -/
structure Registry.Orderly (registry : Registry) : Prop where
  services : ∀ cls metadata, registry.serviceMetadata? cls = some metadata →
    registry.tags.get? cls = some metadata.tag ∧
      metadata.implementation.cls = cls ∧ metadata.implementation.Honest
  providers : ∀ cls metadata, registry.moduleMetadata? cls = some metadata →
    ∀ provider ∈ metadata.providers, provider.Honest

namespace Registry

variable {registry : Registry} {decoration : Decoration}

theorem orderly_empty (name : String) : Orderly { name } :=
  ⟨fun _ _ declared => absurd declared nofun, fun _ _ declared => absurd declared nofun⟩

/-- A class that is decorated as a service gets its tag there and then, or it has one already: either
way it is a service under the tag that is bound to it from then on. -/
theorem Orderly.decorate (orderly : registry.Orderly) (honest : decoration.Honest) :
    (registry.decorate decoration).Orderly where
  services cls metadata declared := by
    rcases eq_of_serviceMetadata?_decorate declared with before | ⟨tag, rfl, rfl, settled⟩
    · obtain ⟨bound, implementation⟩ := orderly.services cls metadata before
      exact ⟨(registry.grows_decorate decoration).tags cls metadata.tag bound, implementation⟩
    · refine ⟨?_, rfl, honest⟩
      rw [settled]
      exact bound_settleTag_self registry metadata.implementation.cls tag
  providers cls metadata declared := by
    rcases eq_of_moduleMetadata?_decorate declared with before | ⟨handle, rfl⟩
    · exact orderly.providers cls metadata before
    · exact honest

theorem Orderly.foldl_claimTag (orderly : registry.Orderly) (classes : List Class) :
    (classes.foldl claimTag registry).Orderly where
  services cls metadata declared := by
    rw [serviceMetadata?_foldl_claimTag] at declared
    obtain ⟨bound, implementation⟩ := orderly.services cls metadata declared
    exact ⟨bound_foldl_claimTag bound classes, implementation⟩
  providers cls metadata declared := by
    rw [moduleMetadata?_foldl_claimTag] at declared
    exact orderly.providers cls metadata declared

end Registry

end Trellis
