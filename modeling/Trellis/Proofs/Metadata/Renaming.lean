import Trellis.Proofs.Layer.Renaming
import Trellis.Proofs.Metadata.Writing
/-!
# Registries under other tags

Two registries say the same if a module, a service and a constructor of one are those of the other,
but for the tags: the second one has its own for them. Which decorators wrote that, in which order and
what else they wrote, does not count, and handing tags out makes no difference.
-/

namespace Trellis

/-- The record of a service under another tag. -/
def ServiceMetadata.under (rename : Tag → Tag) (metadata : ServiceMetadata) : ServiceMetadata :=
  { metadata with tag := rename metadata.tag }

namespace Registry

/-- The second registry says the same under renamed tags. -/
structure Renamed (rename : Tag → Tag) (registry other : Registry) : Prop where
  modules : ∀ cls, other.moduleMetadata? cls = registry.moduleMetadata? cls
  services : ∀ cls, other.serviceMetadata? cls =
    (registry.serviceMetadata? cls).map (ServiceMetadata.under rename)
  paramTypes : ∀ cls, other.read cls { key := MetadataKey.paramTypes } =
    registry.read cls { key := MetadataKey.paramTypes }
  tags : ∀ cls, other.tagOf cls = rename (registry.tagOf cls)
  serviceConstructors : ∀ cls, (other.knownHandle cls).bind (·.serviceConstructor) =
    (registry.knownHandle cls).bind (·.serviceConstructor)
  controllerConstructors : ∀ cls, (other.knownHandle cls).bind (·.controllerConstructor) =
    (registry.knownHandle cls).bind (·.controllerConstructor)

/-- The constructors that a bootstrap may find in the registry are deterministic: those of services,
of the providers of modules and of their controllers. -/
structure Steady (registry : Registry) : Prop where
  services : ∀ cls metadata, registry.serviceMetadata? cls = some metadata →
    ∀ construct ∈ metadata.implementation.serviceConstructor, Constructor.Deterministic construct
  providers : ∀ cls metadata, registry.moduleMetadata? cls = some metadata →
    ∀ provider ∈ metadata.providers, ∀ construct ∈ registry.serviceConstructor? provider,
      Constructor.Deterministic construct
  controllers : ∀ cls metadata, registry.moduleMetadata? cls = some metadata →
    ∀ handle ∈ metadata.controllers, ∀ construct ∈ registry.controllerConstructor? handle,
      Constructor.Deterministic construct

/-- A constructor that a bootstrap may find in the registry: one of a service, of a provider of a module
or of a controller of a module. -/
inductive Finds (registry : Registry) : Constructor → Prop
  | service {cls : Class} {metadata : ServiceMetadata} {construct : Constructor}
      (declared : registry.serviceMetadata? cls = some metadata)
      (known : metadata.implementation.serviceConstructor = some construct) :
      Finds registry construct
  | provider {cls : Class} {metadata : ModuleMetadata} {provider : Handle}
      {construct : Constructor} (declared : registry.moduleMetadata? cls = some metadata)
      (listed : provider ∈ metadata.providers)
      (found : registry.serviceConstructor? provider = some construct) :
      Finds registry construct
  | controller {cls : Class} {metadata : ModuleMetadata} {handle : Handle}
      {construct : Constructor} (declared : registry.moduleMetadata? cls = some metadata)
      (listed : handle ∈ metadata.controllers)
      (found : registry.controllerConstructor? handle = some construct) :
      Finds registry construct

variable {rename : Tag → Tag} {registry other : Registry}

theorem steady_iff : registry.Steady ↔
    ∀ construct, registry.Finds construct → Constructor.Deterministic construct := by
  constructor
  · rintro ⟨services, providers, controllers⟩ construct finds
    cases finds with
    | service declared known => exact services _ _ declared construct known
    | provider declared listed found => exact providers _ _ declared _ listed construct found
    | controller declared listed found => exact controllers _ _ declared _ listed construct found
  · intro deterministic
    constructor
    · exact fun _ _ declared construct known => deterministic construct (.service declared known)
    · exact fun _ _ declared _ listed construct found =>
        deterministic construct (.provider declared listed found)
    · exact fun _ _ declared _ listed construct found =>
        deterministic construct (.controller declared listed found)

/-- A registry says the same as itself. -/
theorem Renamed.refl (registry : Registry) : registry.Renamed id registry where
  modules _ := rfl
  services cls := by
    show _ = (registry.serviceMetadata? cls).map id
    rw [Option.map_id, id]
  paramTypes _ := rfl
  tags _ := rfl
  serviceConstructors _ := rfl
  controllerConstructors _ := rfl

theorem Renamed.serviceConstructor? (renamed : registry.Renamed rename other) (handle : Handle) :
    other.serviceConstructor? handle = registry.serviceConstructor? handle := by
  rw [Registry.serviceConstructor?, renamed.serviceConstructors]
  rfl

theorem Renamed.controllerConstructor? (renamed : registry.Renamed rename other) (handle : Handle) :
    other.controllerConstructor? handle = registry.controllerConstructor? handle := by
  rw [Registry.controllerConstructor?, renamed.controllerConstructors]
  rfl

/-! ## Handing tags out -/

theorem tagOf_foldl_claimTag (registry : Registry) (classes : List Class) (cls : Class) :
    (classes.foldl claimTag registry).tagOf cls = registry.tagOf cls := by
  induction classes generalizing registry with
  | nil => rfl
  | cons first rest ih => rw [List.foldl_cons, ih, tagOf_claimTag]

theorem knownHandle_foldl_claimTag (registry : Registry) (classes : List Class) (cls : Class) :
    (classes.foldl claimTag registry).knownHandle cls = registry.knownHandle cls := by
  rw [knownHandle, entries_foldl_claimTag]
  rfl

theorem Renamed.foldl_claimTag (renamed : registry.Renamed rename other)
    (classes others : List Class) :
    (classes.foldl claimTag registry).Renamed rename (others.foldl claimTag other) where
  modules cls := by simpa using renamed.modules cls
  services cls := by simpa using renamed.services cls
  paramTypes cls := by simpa using renamed.paramTypes cls
  tags cls := by simpa only [tagOf_foldl_claimTag] using renamed.tags cls
  serviceConstructors cls := by
    simpa only [knownHandle_foldl_claimTag] using renamed.serviceConstructors cls
  controllerConstructors cls := by
    simpa only [knownHandle_foldl_claimTag] using renamed.controllerConstructors cls

theorem finds_foldl_claimTag {classes : List Class} {construct : Constructor}
    (finds : (classes.foldl claimTag registry).Finds construct) : registry.Finds construct := by
  cases finds with
  | service declared known =>
    rw [serviceMetadata?_foldl_claimTag] at declared
    exact .service declared known
  | provider declared listed found =>
    rw [moduleMetadata?_foldl_claimTag] at declared
    rw [Registry.serviceConstructor?, knownHandle_foldl_claimTag] at found
    exact .provider declared listed found
  | controller declared listed found =>
    rw [moduleMetadata?_foldl_claimTag] at declared
    rw [Registry.controllerConstructor?, knownHandle_foldl_claimTag] at found
    exact .controller declared listed found

theorem Steady.foldl_claimTag (steady : registry.Steady) (classes : List Class) :
    (classes.foldl claimTag registry).Steady :=
  steady_iff.mpr fun construct finds => steady_iff.mp steady construct (finds_foldl_claimTag finds)

end Registry

end Trellis
