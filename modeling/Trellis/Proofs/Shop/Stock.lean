import Mathlib.Data.List.Nodup
import Trellis.Applications
import Trellis.Proofs.Composition.Sharing
import Trellis.Proofs.Metadata.Batch
/-!
# What is known of the shop

The shop's classes are decorated among others, in any order, while other applications are started. If
nothing is said of the shop's classes but what the shop says itself, then whatever is known of them is
as the shop declares it.

* `Shop.Permits` are the decorations of such a process.
* `Kept` is what holds of its registry at any time (`kept_of_reached`).
* `Stocked` adds that both modules and both services are known by now.
* The process of the shop and the greeting application is such a one (`Applications.reached_warmedUp`,
  `Applications.stocked_warmedUp`).
-/

namespace Trellis.Shop

/-! ## The declarations -/

def services : List Blueprint := [catalogService, cartService]

def controllers : List Blueprint := [catalogController, cartController, healthController]

/-- The module of the store, as it is declared. -/
def store : Declared where
  cls := storeModule
  metadata :=
    { controllers := [catalogController.handle .controller, cartController.handle .controller]
      providers := services.map (·.handle .provider) }

/-- The module of the shop, as it is declared. -/
def shop : Declared where
  cls := shopModule
  metadata :=
    { imports := [storeModule], controllers := [healthController.handle .controller] }

def modules : List Declared := [store, shop]

/-- The classes of the shop. -/
def classes : List Class := handles.map (·.cls)

/-- What the shop says of its classes. -/
def said : List Decoration := decorations.map (·.2)

section Declarations

variable {handle : Handle} {blueprint : Blueprint} {declared : Declared}

theorem exists_module_of_mem_said {metadata : ModuleMetadata}
    (member : .module handle metadata ∈ said) :
    ∃ declared ∈ modules, handle = declared.cls.handle ∧ metadata = declared.metadata := by
  rcases (by simpa [said, decorations] using member :
      handle = storeModule.handle ∧ _ ∨ handle = shopModule.handle ∧ _) with ⟨rfl, rfl⟩ | ⟨rfl, rfl⟩
  · exact ⟨store, by simp [modules], rfl, rfl⟩
  · exact ⟨shop, by simp [modules], rfl, rfl⟩

theorem exists_service_of_mem_said {tag : Option Tag} (member : .service handle tag ∈ said) :
    tag = none ∧ ∃ blueprint ∈ services, handle = blueprint.handle .provider := by
  rcases (by simpa [said, decorations] using member :
      handle = catalogService.handle .provider ∧ _ ∨ handle = cartService.handle .provider ∧ _)
    with ⟨rfl, rfl⟩ | ⟨rfl, rfl⟩
  · exact ⟨rfl, catalogService, by simp [services], rfl⟩
  · exact ⟨rfl, cartService, by simp [services], rfl⟩

theorem paramTypes_not_mem_said (cls : Class) (types : List Class) :
    .paramTypes cls types ∉ said := by
  simp [said, decorations]

theorem store_mem_modules : store ∈ modules :=
  List.mem_cons_self

theorem catalog_mem_services : catalogService ∈ services :=
  List.mem_cons_self

theorem cart_mem_services : cartService ∈ services :=
  List.mem_cons_of_mem _ List.mem_cons_self

theorem module_mem_classes (member : declared ∈ modules) : declared.cls ∈ classes := by
  have all : ∀ cls ∈ modules.map (·.cls), cls ∈ classes := by decide
  exact all _ (List.mem_map_of_mem member)

theorem service_mem_classes (member : blueprint ∈ services) : blueprint.cls ∈ classes := by
  have all : ∀ cls ∈ services.map (·.cls), cls ∈ classes := by decide
  exact all _ (List.mem_map_of_mem member)

theorem controller_mem_classes (member : blueprint ∈ controllers) : blueprint.cls ∈ classes := by
  have all : ∀ cls ∈ controllers.map (·.cls), cls ∈ classes := by decide
  exact all _ (List.mem_map_of_mem member)

theorem exists_controller (member : declared ∈ modules)
    (listed : handle ∈ declared.metadata.controllers) :
    ∃ blueprint ∈ controllers, handle = blueprint.handle .controller ∧
      blueprint.making = .controller ∧ blueprint.required = [] := by
  rcases List.mem_pair.mp member with rfl | rfl
  · rcases List.mem_pair.mp listed with rfl | rfl
    · exact ⟨catalogController, by simp [controllers], rfl, rfl, rfl⟩
    · exact ⟨cartController, by simp [controllers], rfl, rfl, rfl⟩
  · obtain rfl := List.mem_singleton.mp listed
    exact ⟨healthController, by simp [controllers], rfl, rfl, rfl⟩

theorem eq_of_module_cls_eq {other : Declared} (member : declared ∈ modules)
    (again : other ∈ modules) (same : declared.cls = other.cls) : declared = other :=
  List.inj_on_of_nodup_map (f := Declared.cls) (by decide) member again same

theorem eq_of_service_cls_eq {other : Blueprint} (member : blueprint ∈ services)
    (again : other ∈ services) (same : blueprint.cls = other.cls) : blueprint = other :=
  List.inj_on_of_nodup_map (f := Blueprint.cls) (by decide) member again same

end Declarations

/-! ## Decorations beside the shop's -/

/-- What may be said while the shop is in use: modules list handles that describe their classes and
nothing new is said of the types of a resolved constructor; of the shop's classes nothing is said but
what the shop says; and a tag that is asked for explicitly is none that the registry gives of its own
accord. -/
structure Permits (catalogue : Catalogue) (shared : Shared) (decoration : Decoration) : Prop where
  general : Shared.Permits catalogue shared decoration
  own : decoration.target.cls ∈ classes → decoration ∈ said
  foreign : ∀ handle tag, decoration = .service handle (some tag) →
    tag.Foreign shared.registry.name

/-- What is known of the shop's classes is what the shop says of them, and no other class has a tag of
theirs. -/
structure Kept (registry : Registry) : Prop where
  modules : ∀ declared ∈ modules, ∀ metadata,
    registry.moduleMetadata? declared.cls = some metadata → metadata = declared.metadata
  services : ∀ blueprint ∈ services, ∀ metadata,
    registry.serviceMetadata? blueprint.cls = some metadata →
      metadata =
        { tag := .canonical registry.name blueprint.cls
          implementation := blueprint.handle .provider }
  types : ∀ cls ∈ classes, registry.read cls { key := MetadataKey.paramTypes } = none
  tags : ∀ cls tag, registry.tags.get? cls = some tag →
    tag = .canonical registry.name cls ∨ cls ∉ classes ∧ tag.Foreign registry.name

section Kept

open Registry

variable {catalogue : Catalogue} {shared : Shared} {registry : Registry} {decoration : Decoration}
  {cls : Class}

theorem kept_empty (name : String) : Kept { name } :=
  ⟨fun _ _ _ found => absurd found nofun, fun _ _ _ found => absurd found nofun, fun _ _ => rfl,
    fun _ _ found => absurd found nofun⟩

/-- The shop's classes have the tags that the registry gives of its own accord. -/
theorem Kept.tagOf (kept : Kept registry) (own : cls ∈ classes) :
    registry.tagOf cls = .canonical registry.name cls := by
  unfold Registry.tagOf
  cases bound : registry.tags.get? cls with
  | none => rfl
  | some tag => exact (kept.tags cls tag bound).resolve_right fun other => other.1 own

/-- No class that is not the shop's has a tag of the shop's. -/
theorem Kept.tagOf_ne (kept : Kept registry) {other : Class} (apart : other ≠ cls) :
    registry.tagOf other ≠ .canonical registry.name cls := by
  unfold Registry.tagOf
  cases bound : registry.tags.get? other with
  | none => simpa using apart
  | some tag =>
    rcases kept.tags other tag bound with rfl | ⟨-, foreign⟩
    · simpa using apart
    · exact foreign cls

theorem Kept.decorate (kept : Kept shared.registry) (permits : Permits catalogue shared decoration) :
    Kept (shared.registry.decorate decoration) where
  modules declared listed metadata found := by
    rcases eq_of_read_decorate (moduleMetadata?_eq_some_iff.mp found) rfl with
      stood | ⟨owner, -, written⟩
    · exact kept.modules declared listed metadata (moduleMetadata?_eq_some_iff.mpr stood)
    · cases decoration with
      | module handle told =>
        obtain rfl : metadata = told := MetadataValue.module.inj written
        have owner : declared.cls = handle.cls := owner
        have own : handle.cls ∈ classes := owner ▸ module_mem_classes listed
        obtain ⟨other, among, rfl, rfl⟩ := exists_module_of_mem_said (permits.own own)
        rw [eq_of_module_cls_eq listed among owner]
      | service | controller | route | param | paramTypes => cases written
  services blueprint listed metadata found := by
    rw [name_decorate]
    rcases eq_of_serviceMetadata?_decorate found with stood | ⟨tag, rfl, owner, settled⟩
    · exact kept.services blueprint listed metadata stood
    · have own := service_mem_classes listed
      obtain ⟨rfl, other, among, same⟩ := exists_service_of_mem_said (permits.own (owner ▸ own))
      rw [same] at owner
      obtain rfl := eq_of_service_cls_eq listed among owner.symm
      have tag : metadata.tag = .canonical shared.registry.name blueprint.cls := by
        rw [settled]
        exact (tagOf_claimTag ..).trans (kept.tagOf own)
      cases metadata
      exact congrArg₂ ServiceMetadata.mk tag same
  types cls own := by
    rw [read_paramTypes_decorate, kept.types cls own]
    rintro types rfl
    exact paramTypes_not_mem_said cls types (permits.own own)
  tags cls tag found := by
    rw [name_decorate]
    cases decoration with
    | service handle explicit =>
      cases explicit with
      | none =>
        rcases get?_bindTag found with stood | ⟨rfl, rfl⟩
        · exact kept.tags cls tag stood
        · exact .inl rfl
      | some asked =>
        rcases get?_bindTag found with stood | ⟨rfl, rfl⟩
        · exact kept.tags cls tag stood
        · refine .inr ⟨fun own => ?_, permits.foreign handle tag rfl⟩
          cases (exists_service_of_mem_said (permits.own own)).1
    | controller | route | param | module | paramTypes => exact kept.tags cls tag found

/-- Handing tags out keeps what is known. -/
theorem Kept.foldl_claimTag (kept : Kept registry) (claimed : List Class) :
    Kept (claimed.foldl claimTag registry) where
  modules declared listed metadata found := by
    rw [moduleMetadata?_foldl_claimTag] at found
    exact kept.modules declared listed metadata found
  services blueprint listed metadata found := by
    rw [serviceMetadata?_foldl_claimTag] at found
    rw [name_foldl_claimTag]
    exact kept.services blueprint listed metadata found
  types cls own := by
    rw [read_foldl_claimTag]
    exact kept.types cls own
  tags cls tag found := by
    rw [name_foldl_claimTag]
    rcases get?_foldl_claimTag found with stood | ⟨-, rfl⟩
    · exact kept.tags cls tag stood
    · exact .inl rfl

/-- Whatever was decorated and started, in whatever order. -/
theorem kept_of_reached {host : MetadataSource} (reached : shared.Reached host (Permits catalogue)) :
    Kept shared.registry := by
  induction reached with
  | begin name => exact kept_empty name
  | decorate _ decoration permitted ih => exact ih.decorate permitted
  | @bootstrap shared _ cls app onComposed onReady ledger ih =>
    obtain ⟨classes, handed, -⟩ :=
      Composition.exists_claimed_of_compose shared.registry cls app ledger
    show Kept (Composition.bootstrap shared.hostInUse shared.registry shared.resolver cls app
      onComposed onReady ledger).1.registry
    rw [Composition.registry_bootstrap, handed]
    exact ih.foldl_claimTag classes

end Kept

/-! ## The shop in stock -/

/-- Both modules and both services are known. -/
structure Stocked (registry : Registry) : Prop where
  modules : ∀ declared ∈ modules, (registry.moduleMetadata? declared.cls).isSome
  services : ∀ blueprint ∈ services, (registry.serviceMetadata? blueprint.cls).isSome

section Stocked

variable {registry : Registry} {shared : Shared}

theorem Stocked.foldl_claimTag (stocked : Stocked registry) (claimed : List Class) :
    Stocked (claimed.foldl Registry.claimTag registry) where
  modules := by simpa using stocked.modules
  services := by simpa using stocked.services

/-- Starting applications takes nothing away. -/
theorem Stocked.warmedUp (stocked : Stocked shared.registry) (started : List Class)
    (ledger : Ledger) : Stocked (shared.warmedUp started ledger).1.registry := by
  induction started generalizing shared ledger with
  | nil => exact stocked
  | cons cls rest ih =>
    obtain ⟨handed, claims, -⟩ :=
      Composition.exists_claimed_of_compose shared.registry cls (.ofConfig {}) ledger
    have next : Stocked (Composition.bootstrap shared.hostInUse shared.registry shared.resolver cls
        (.ofConfig {}) (fun _ => []) (fun _ => []) ledger).1.registry := by
      rw [Composition.registry_bootstrap, claims]
      exact stocked.foldl_claimTag handed
    exact ih next _

end Stocked

end Trellis.Shop

/-! ## The shop beside the greeting application -/

namespace Trellis.Applications

open Shop

/-- What the handles of both applications say of their classes. -/
def catalogue : Catalogue where
  signature cls := ((handle? cls.name).map (·.signature)).getD ""
  emitted cls := ((handle? cls.name).map (·.emitted)).getD []

theorem describes_controller {blueprint : Blueprint} (member : blueprint ∈ controllers) :
    catalogue.Describes (blueprint.handle .controller) := by
  have all : ∀ blueprint ∈ controllers,
      blueprint.signature = catalogue.signature blueprint.cls ∧
        blueprint.emitted = catalogue.emitted blueprint.cls := by
    decide
  exact ⟨(all blueprint member).1, (all blueprint member).2⟩

theorem permits_of_mem_said {shared : Shared} {decoration : Decoration}
    (member : decoration ∈ said) : Permits catalogue shared decoration where
  general := by
    cases decoration with
    | module handle metadata =>
      obtain ⟨declared, among, rfl, rfl⟩ := exists_module_of_mem_said member
      intro handle listed
      obtain ⟨blueprint, known, rfl, -⟩ := exists_controller among listed
      exact describes_controller known
    | paramTypes cls types => exact absurd member (paramTypes_not_mem_said cls types)
    | service | controller | route | param => trivial
  own _ := member
  foreign handle tag settled := by
    rw [settled] at member
    cases (exists_service_of_mem_said member).1

/-- Nothing that is said of the classes of the greeting application is about the shop's. -/
theorem permits_greeting {registry : Registry} {clock : Tag} (foreign : clock.Foreign registry.name)
    {entry : String × Decoration} (member : entry ∈ Greeting.decorations clock) :
    Permits catalogue { registry } entry.2 := by
  have others : ∀ entry ∈ Greeting.decorations clock,
      entry.2.target.cls ∈ Greeting.handles.map (·.cls) := by
    simp [Greeting.decorations, Greeting.handles, Decoration.target, Blueprint.handle, Class.handle]
  have apart : ∀ cls ∈ Greeting.handles.map (·.cls), cls ∉ classes := by decide
  refine ⟨?_, fun about => absurd about (apart _ (others entry member)), ?_⟩
  · have describes : catalogue.Describes (Greeting.greetController.handle .controller) :=
      ⟨by decide, by decide⟩
    obtain ⟨label, decoration⟩ := entry
    cases decoration with
    | module handle metadata =>
      obtain ⟨-, -, rfl⟩ : _ ∧ _ ∧ metadata = _ := by simpa [Greeting.decorations] using member
      intro handle listed
      exact List.mem_singleton.mp listed ▸ describes
    | paramTypes cls types => exact fun _ => rfl
    | service | controller | route | param => trivial
  · obtain ⟨label, decoration⟩ := entry
    rintro handle tag rfl
    obtain ⟨-, -, rfl⟩ : _ ∧ _ ∧ tag = clock := by simpa [Greeting.decorations] using member
    exact foreign

/-- What both applications say. -/
def declarations (ledger : Ledger) : List (String × Decoration) :=
  Shop.decorations ++
    Greeting.decorations (.custom ledger.tags Greeting.clockIdentifier)

/-- What is shared before anything has been started. -/
def unstarted (ledger : Ledger) : Shared × Ledger :=
  Shared.ofDecorations "global" (declarations ledger)
    (Tag.make Greeting.clockIdentifier ledger).2

theorem warmedUp_fst (ledger : Ledger) :
    (warmedUp ledger).1 =
      ((unstarted ledger).1.warmedUp [shopModule, storeModule, Greeting.greetModule]
        (unstarted ledger).2).1 :=
  rfl

/-- All that is shared by both applications once they are warmed up. -/
theorem reached_warmedUp (ledger : Ledger) :
    (warmedUp ledger).1.Reached .emitted (Permits catalogue) := by
  rw [warmedUp_fst]
  refine Shared.Reached.warmedUp (Shared.reached_ofDecorations "global" ?_ _) _ _
  intro registry entry member
  rcases List.mem_append.mp member with own | other
  · exact permits_of_mem_said (List.mem_map_of_mem own)
  · exact permits_greeting (fun _ same => by cases same) other

theorem stocked_warmedUp (ledger : Ledger) : Stocked (warmedUp ledger).1.registry := by
  rw [warmedUp_fst]
  refine Stocked.warmedUp ⟨fun known member => ?_, fun blueprint member => ?_⟩ _ _
  · rcases List.mem_pair.mp member with rfl | rfl
    · rfl
    · rfl
  · rcases List.mem_pair.mp member with rfl | rfl
    · rfl
    · rfl

end Trellis.Applications
