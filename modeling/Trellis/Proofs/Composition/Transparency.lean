import Trellis.Proofs.Composition.Process
import Trellis.Proofs.Composition.Remembering
import Trellis.Proofs.Resolution.Used
/-!
# The resolver's memory makes no difference

A resolver answers from memory if it can, and its memory lives as long as the process: other modules
declare the same controllers, and classes go on being decorated. Still every controller has the
resolution that a resolver without a memory works out for it. A scope stands for a module, what makes
a class a module is settled once, and so whatever is remembered within a scope was worked out from
the providers that the module still has.

* `Resolver.Coherent` says that of a resolver. Learning keeps it (`Coherent.learning`), and so does
  whatever else leaves the resolved constructors alone (`Coherent.of_unchanged`).
* `Process.Coherent` is the invariant of a process that `Process.Permits` its deeds.
-/

namespace Trellis

/-! ## Sources that look at the class alone -/

namespace MetadataSource

/-- A source that answers alike for handles of one class that differ in their constructors alone. -/
def IgnoresConstructors (source : MetadataSource) : Prop :=
  ∀ handle other : Handle, handle.cls = other.cls → handle.signature = other.signature →
    handle.emitted = other.emitted → source.read handle = source.read other

theorem ignoresConstructors_emitted : emitted.IgnoresConstructors := by
  intro handle other _ _ same
  funext address
  simp only [emitted, same]

theorem ignoresConstructors_ofRegistry (registry : Registry) :
    (ofRegistry registry).IgnoresConstructors := by
  intro handle other same _ _
  simp only [ofRegistry, same]

theorem IgnoresConstructors.injectableTypes {source : MetadataSource}
    (ignores : source.IgnoresConstructors) {catalogue : Catalogue} {handle other : Handle}
    (described : catalogue.Describes handle) (again : catalogue.Describes other)
    (same : handle.cls = other.cls) :
    source.injectableTypes handle = source.injectableTypes other := by
  have signatures : handle.signature = other.signature := by
    rw [described.signature, same, again.signature]
  have types : handle.emitted = other.emitted := by
    rw [described.emitted, same, again.emitted]
  rw [MetadataSource.injectableTypes, ignores handle other same signatures types]
  rfl

end MetadataSource

/-! ## Resolutions without a memory -/

/-- The resolution of a controller of a module by a resolver that remembers nothing. -/
def Declared.resolution (declared : Declared) (reflection : Reflection) (handle : Handle) :
    Resolution :=
  ({} : Resolver).resolution reflection handle declared.available

/-- A module as it stands in a registry lists a controller. -/
structure Registry.Lists (registry : Registry) (module : Declared) (handle : Handle) : Prop where
  declared : registry.moduleMetadata? module.cls = some module.metadata
  listed : handle ∈ module.metadata.controllers

/-- All controllers that modules list are described by their handles. -/
def Registry.Described (catalogue : Catalogue) (registry : Registry) : Prop :=
  ∀ declared handle, registry.Lists declared handle → catalogue.Describes handle

/-- The controllers of a decoration that makes a class a module are described by their handles. -/
def Decoration.Described (catalogue : Catalogue) : Decoration → Prop
  | .module _ metadata => ∀ handle ∈ metadata.controllers, catalogue.Describes handle
  | .service .. | .controller .. | .route .. | .param .. | .paramTypes .. => True

namespace Registry

variable {catalogue : Catalogue} {registry : Registry}

theorem described_nil (catalogue : Catalogue) (name : String) :
    Described catalogue { name } := fun _ _ lists => absurd lists.declared nofun

/-- A module was one before, or it is the one that the decoration makes one. -/
theorem Described.decorate (described : registry.Described catalogue) {decoration : Decoration}
    (own : decoration.Described catalogue) :
    (registry.decorate decoration).Described catalogue := by
  intro declared handle lists
  rcases eq_of_moduleMetadata?_decorate lists.declared with before | ⟨target, rfl⟩
  · exact described declared handle ⟨before, lists.listed⟩
  · exact own handle lists.listed

theorem Described.foldl_decorate (described : registry.Described catalogue)
    {decorations : List Decoration} (all : ∀ decoration ∈ decorations, decoration.Described catalogue) :
    (decorations.foldl Registry.decorate registry).Described catalogue :=
  List.foldlRecOn decorations _ described fun _ kept decoration member =>
    kept.decorate (all decoration member)

end Registry

section Fresh

variable {catalogue : Catalogue} {reflection again : Reflection} {declared : Declared}
  {handle other : Handle}

/-- The types that reflection knows, the signature and the classes of the module's providers are all
that a resolution is worked out from. -/
theorem Declared.resolution_congr {module : Declared}
    (types : reflection.constructorTypes? handle = again.constructorTypes? other)
    (signature : handle.signature = other.signature)
    (providers : declared.metadata.providers.map (·.cls) =
      module.metadata.providers.map (·.cls)) :
    declared.resolution reflection handle = module.resolution again other := by
  have classes : declared.available.byName = module.available.byName := by
    have empty : Available.byName { scope := .module declared.cls } =
        Available.byName { scope := .module module.cls } := rfl
    rw [available, available, providers]
    exact Available.byName_insertAll_congr empty _
  show resolve reflection handle (Signature.params handle.signature) declared.available =
    resolve again other (Signature.params other.signature) module.available
  rw [signature]
  exact resolve_congr types classes

/-- Which handle of the controller a module lists is no matter. -/
theorem Declared.resolution_eq_of_described (ignores : reflection.host.IgnoresConstructors)
    (described : catalogue.Describes handle) (redescribed : catalogue.Describes other)
    (same : handle.cls = other.cls) :
    declared.resolution reflection handle = declared.resolution reflection other := by
  have host := ignores.injectableTypes described redescribed same
  have store := (MetadataSource.ignoresConstructors_ofRegistry reflection.store).injectableTypes
    described redescribed same
  refine Declared.resolution_congr (Reflection.constructorTypes?_congr host store) ?_ rfl
  rw [described.signature, same, redescribed.signature]

end Fresh

/-! ## What is remembered is what would be worked out -/

/-- A resolver remembers signatures of the catalogue, and resolutions that a resolver without a
memory works out for controllers of the modules that the scopes stand for. -/
structure Resolver.Coherent (catalogue : Catalogue) (reflection : Reflection)
    (resolver : Resolver) : Prop where
  signatures : ∀ cls params, resolver.signatures.get? cls = some params →
    params = Signature.params (catalogue.signature cls)
  resolutions : ∀ scope cls resolution, resolver.cached? scope cls = some resolution →
    ∃ declared handle, reflection.store.Lists declared handle ∧ scope = .module declared.cls ∧
      cls = handle.cls ∧ resolution = declared.resolution reflection handle

namespace Resolver

variable {catalogue : Catalogue} {reflection again : Reflection} {resolver : Resolver}
  {declared : Declared} {handle : Handle}

theorem coherent_empty : Coherent catalogue reflection {} :=
  ⟨fun _ _ found => absurd found nofun, fun _ _ _ found => absurd found nofun⟩

/-- What is worked out with a memory of signatures is what is worked out without one. -/
theorem Coherent.compute (coherent : resolver.Coherent catalogue reflection)
    (described : catalogue.Describes handle) :
    resolver.compute reflection handle declared.available =
      declared.resolution reflection handle := by
  have params : resolver.paramsOf handle = Signature.params handle.signature := by
    unfold paramsOf
    cases known : resolver.signatures.get? handle.cls with
    | none => rfl
    | some params =>
      rw [coherent.signatures handle.cls params known, described.signature]
      rfl
  rw [Resolver.compute, params]
  rfl

/-- A resolver with a memory answers like one without. -/
theorem Coherent.resolution (coherent : resolver.Coherent catalogue reflection)
    (described : reflection.store.Described catalogue)
    (ignores : reflection.host.IgnoresConstructors)
    (lists : reflection.store.Lists declared handle) :
    resolver.resolution reflection handle declared.available =
      declared.resolution reflection handle := by
  unfold Resolver.resolution
  cases known : resolver.cached? declared.available.scope handle.cls with
  | none => exact coherent.compute (described declared handle lists)
  | some resolution =>
    -- It was worked out for the module of the same scope, so for this one, with some handle of it.
    obtain ⟨⟨module, metadata⟩, other, relists, scope, same, rfl⟩ :=
      coherent.resolutions _ _ _ known
    rw [declared.scope_available] at scope
    obtain rfl : declared.cls = module := Scope.module.inj scope
    obtain rfl : declared.metadata = metadata :=
      Option.some.inj (lists.declared.symm.trans relists.declared)
    exact (Declared.resolution_eq_of_described ignores (described declared handle lists)
      (described _ other relists) same).symm

theorem Coherent.learning (coherent : resolver.Coherent catalogue reflection)
    (described : reflection.store.Described catalogue)
    (lists : reflection.store.Lists declared handle) :
    (resolver.learning reflection handle declared.available).Coherent catalogue reflection where
  signatures cls params known := by
    rcases eq_of_signatures_learning known with before | ⟨rfl, rfl⟩
    · exact coherent.signatures cls params before
    · rw [(described declared handle lists).signature]
  resolutions scope cls resolution known := by
    rcases eq_of_cached?_learning known with before | ⟨rfl, rfl, rfl⟩
    · exact coherent.resolutions scope cls resolution before
    · exact ⟨declared, handle, lists, declared.scope_available, rfl,
        coherent.compute (described declared handle lists)⟩

/-- Modules may be added to the store and types may be told of constructors, as long as none of these
was resolved. -/
theorem Coherent.of_unchanged (coherent : resolver.Coherent catalogue reflection)
    (host : again.host = reflection.host)
    (grows : reflection.store.Grows again.store)
    (types : ∀ scope cls resolution, resolver.cached? scope cls = some resolution →
      again.store.read cls { key := MetadataKey.paramTypes } =
        reflection.store.read cls { key := MetadataKey.paramTypes }) :
    resolver.Coherent catalogue again := by
  refine ⟨coherent.signatures, fun scope cls resolution known => ?_⟩
  obtain ⟨declared, handle, lists, rfl, rfl, rfl⟩ :=
    coherent.resolutions scope cls resolution known
  have hosts : again.host.injectableTypes handle = reflection.host.injectableTypes handle := by
    rw [host]
  have stores : (MetadataSource.ofRegistry again.store).injectableTypes handle =
      (MetadataSource.ofRegistry reflection.store).injectableTypes handle := by
    simp only [MetadataSource.injectableTypes, MetadataSource.ofRegistry, types _ _ _ known]
  refine ⟨declared, handle, ⟨grows.modules _ _ lists.declared, lists.listed⟩, rfl, rfl, ?_⟩
  exact (Declared.resolution_congr (Reflection.constructorTypes?_congr hosts stores) rfl rfl).symm

end Resolver

/-! ## The invariant of a process -/

namespace Process

/-- Modules list handles that describe their classes, and nothing new is said of the types of a
constructor that was resolved. -/
def Permits (catalogue : Catalogue) (process : Process) : Deed → Prop
  | .decorate (.module _ metadata) => ∀ handle ∈ metadata.controllers, catalogue.Describes handle
  | .decorate (.paramTypes cls _) => ∀ scope, process.resolver.cached? scope cls = none
  | .decorate _ | .create .. | .setUp _ => True

/-- What holds of a process after permitted deeds. -/
structure Coherent (catalogue : Catalogue) (process : Process) : Prop where
  described : process.registry.Described catalogue
  resolver : process.resolver.Coherent catalogue process.reflection

variable {catalogue : Catalogue} {process : Process} {host : MetadataSource}

theorem coherent_start (catalogue : Catalogue) (host : MetadataSource) (name : String) :
    Coherent catalogue { host, registry := { name } } where
  described _ _ lists := absurd lists.declared nofun
  resolver := Resolver.coherent_empty

theorem Coherent.decorate (coherent : process.Coherent catalogue) (decoration : Decoration)
    (permitted : process.Permits catalogue (.decorate decoration)) :
    (process.after (.decorate decoration)).Coherent catalogue where
  described := by
    refine coherent.described.decorate ?_
    cases decoration with
    | module target metadata => exact permitted
    | service | controller | route | param | paramTypes => trivial
  resolver := by
    refine coherent.resolver.of_unchanged rfl (process.registry.grows_decorate decoration) ?_
    intro scope cls resolution known
    refine Registry.read_paramTypes_decorate ?_
    rintro types rfl
    exact absurd ((permitted scope).symm.trans known) nofun

/-- Handing tags out leaves the entries alone, so everything is read as before. -/
theorem Coherent.create (coherent : process.Coherent catalogue) (cls : Class) (app : App) :
    (process.after (.create cls app)).Coherent catalogue := by
  obtain ⟨⟨classes, registry⟩, -⟩ := process.after_create cls app
  refine ⟨?_, coherent.resolver.of_unchanged rfl (process.grows_after (.create cls app)) ?_⟩
  · intro declared handle ⟨known, listed⟩
    rw [registry, Registry.moduleMetadata?_foldl_claimTag] at known
    exact coherent.described declared handle ⟨known, listed⟩
  · intro _ owner _ _
    show (process.after (.create cls app)).registry.read owner _ = _
    rw [registry, Registry.read_foldl_claimTag]
    rfl

/-- A set-up resolves controllers that modules of the registry list. -/
theorem Coherent.setUp (coherent : process.Coherent catalogue)
    (modules : ∀ composition ∈ process.compositions, ∀ declared ∈ composition.modules,
      process.registry.moduleMetadata? declared.cls = some declared.metadata) (index : Nat) :
    (process.after (.setUp index)).Coherent catalogue := by
  rcases process.after_setUp index with same | ⟨composition, member, stop, final, setsUp, same⟩
  · rw [same]
    exact coherent
  have learnt : final.resolver.Coherent catalogue process.reflection := by
    refine setsUp.resolver_induction _ ?_ coherent.resolver
    intro declared module handle listed resolver known
    exact known.learning coherent.described ⟨modules composition member declared module, listed⟩
  rw [same]
  exact ⟨coherent.described, learnt⟩

theorem Reached.coherent (reached : process.Reached host (Permits catalogue)) :
    process.Coherent catalogue := by
  induction reached with
  | start name => exact coherent_start catalogue host name
  | next reached deed permitted ih =>
    cases deed with
    | decorate decoration => exact ih.decorate decoration permitted
    | create cls app => exact ih.create cls app
    | setUp index => exact ih.setUp reached.modules index

/-- Whatever was decorated, created and set up in a process, in whatever order, every controller that
was wired, in any of the set-ups, has the resolution that a resolver without a memory works out for it
from the classes of its own module's providers, from the types that reflection knows of its
constructor, and from the signature. The same holds of all that the resolver remembers, so also of a
controller at which a set-up was stopped, and of all that it will answer next. -/
theorem resolution_of_reached (ignores : host.IgnoresConstructors)
    (reached : process.Reached host (Permits catalogue)) :
    (∀ composition ∈ process.compositions, ∀ wired ∈ composition.controllers,
      ∃ module handle, process.registry.Lists module handle ∧
        wired.place = (module.cls, handle.cls) ∧
        wired.resolution = ({} : Resolver).resolution process.reflection handle module.available ∧
        ∀ (reflection : Reflection) (other : Handle) (elsewhere : Declared),
          reflection.constructorTypes? other = process.reflection.constructorTypes? handle →
          other.signature = handle.signature →
          elsewhere.metadata.providers.map (·.cls) = module.metadata.providers.map (·.cls) →
          wired.resolution = ({} : Resolver).resolution reflection other elsewhere.available) ∧
    (∀ scope cls resolution, process.resolver.cached? scope cls = some resolution →
      ∃ module handle, process.registry.Lists module handle ∧
        (scope, cls) = (.module module.cls, handle.cls) ∧
        resolution = ({} : Resolver).resolution process.reflection handle module.available) ∧
    ∀ module handle, process.registry.Lists module handle →
      process.resolver.resolution process.reflection handle module.available =
        ({} : Resolver).resolution process.reflection handle module.available := by
  have coherent := reached.coherent
  refine ⟨fun composition member wired listed => ?_, fun scope cls resolution known => ?_,
    fun module handle lists => ?_⟩
  · obtain ⟨module, handle, lists, scope, same, resolution⟩ :=
      coherent.resolver.resolutions _ _ _ (reached.remembered composition member wired listed)
    have place : wired.place = (module.cls, handle.cls) :=
      Prod.ext (Scope.module.inj scope) same
    refine ⟨module, handle, lists, place, resolution, ?_⟩
    intro reflection other elsewhere types signature providers
    rw [resolution]
    exact Declared.resolution_congr types.symm signature.symm providers.symm
  · obtain ⟨module, handle, lists, rfl, rfl, rfl⟩ :=
      coherent.resolver.resolutions scope cls resolution known
    exact ⟨module, handle, lists, rfl, rfl⟩
  · have host : process.reflection.host.IgnoresConstructors := by
      show process.host.IgnoresConstructors
      rw [reached.host_eq]
      exact ignores
    exact coherent.resolver.resolution coherent.described host lists

/-- By day and by night the page has the clock of its own module, and the one it had by day it still
has when the second module is set up. -/
theorem resolution_of_reached_shifts : ∃ catalogue,
    Shifts.midnight.Reached .emitted (Permits catalogue) ∧
      (Shifts.midnight.compositions.map fun composition => composition.controllers.map fun wired =>
        (wired.module.name, wired.resolution.dependencies)) =
        [[("Day", [Shifts.dayClock.cls])],
          [("Night", [Shifts.nightClock.cls]), ("Day", [Shifts.dayClock.cls])]] ∧
      ∀ composition ∈ Shifts.midnight.compositions, ∀ wired ∈ composition.controllers,
        ∃ module handle, Shifts.midnight.registry.Lists module handle ∧
          wired.resolution =
            ({} : Resolver).resolution Shifts.midnight.reflection handle module.available := by
  let catalogue : Catalogue := { signature := fun _ => Shifts.page.signature, emitted := fun _ => [] }
  have described : ∀ handle ∈ [Shifts.page.handle .controller], catalogue.Describes handle := by
    intro handle member
    rw [List.mem_singleton.mp member]
    exact ⟨rfl, rfl⟩
  have permitted : ∀ process, ∀ deed ∈ Shifts.deeds, Permits catalogue process deed := by
    intro process
    simp only [Shifts.deeds, List.forall_mem_cons, List.not_mem_nil, false_imp_iff, implies_true,
      Permits, and_true, true_and]
    exact ⟨described, described⟩
  have reached : Shifts.midnight.Reached .emitted (Permits catalogue) :=
    ((Reached.start "main").foldl permitted).next (.setUp 1) trivial
  obtain ⟨wired, -, -⟩ :=
    resolution_of_reached MetadataSource.ignoresConstructors_emitted reached
  refine ⟨catalogue, reached, Shifts.dependencies_midnight, fun composition member other listed => ?_⟩
  obtain ⟨module, handle, lists, -, resolution, -⟩ := wired composition member other listed
  exact ⟨module, handle, lists, resolution⟩

end Process

end Trellis
