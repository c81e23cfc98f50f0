import Trellis.Proofs.Composition.Providers
import Trellis.Proofs.Composition.SetUp
import Trellis.Proofs.Metadata.Batch
/-!
# Known constructors

A class is referred to through handles, some of which know a constructor. A plain provider and a
controller are constructed if any handle knows how: the one at hand or one that the class was
registered through, in whatever order. A service is constructed by the handle that it was first
registered as a service through, or else by the one at hand; what other handles know is overlooked.

* `Handle.siblings` are the handles of a class, and `serviceConstructor?_registered` and
  `controllerConstructor?_registered` say what is found among them.
* `Registry.Provides` and `Registry.Wires` say that a constructor is put to use.
-/

namespace Trellis

/-! ## The handles of a class -/

namespace Handle

/-- The handles of a class: the one at hand and those that the class was registered through. -/
def siblings (decorations : List Decoration) (handle : Handle) : List Handle :=
  handle :: (decorations.map (·.target)).filter (·.cls = handle.cls)

/-- One of the handles of the class knows a constructor. -/
def Known (part : Handle → Option Constructor) (decorations : List Decoration)
    (handle : Handle) : Prop :=
  ∃ sibling ∈ handle.siblings decorations, (part sibling).isSome

/-- The class is a service, but neither the handle at hand nor the one through which it was first
registered as a service knows a constructor. -/
def Overlooked (decorations : List Decoration) (handle : Handle) : Prop :=
  ∃ first tag, decorations.findSome? (Decoration.service? handle.cls) = some (first, tag) ∧
    first.serviceConstructor = none ∧ handle.serviceConstructor = none

variable {part : Handle → Option Constructor} {decorations again : List Decoration}
  {handle sibling : Handle}

theorem perm_siblings (shuffled : decorations.Perm again) (handle : Handle) :
    (handle.siblings decorations).Perm (handle.siblings again) :=
  ((shuffled.map _).filter _).cons handle

theorem known_congr (shuffled : decorations.Perm again) (part : Handle → Option Constructor)
    (handle : Handle) : handle.Known part decorations ↔ handle.Known part again := by
  simp only [Known, (perm_siblings shuffled handle).mem_iff]

theorem isSome_findSome?_siblings_iff :
    ((handle.siblings decorations).findSome? part).isSome ↔ handle.Known part decorations :=
  List.findSome?_isSome_iff

theorem cls_of_mem_siblings (member : sibling ∈ handle.siblings decorations) :
    sibling.cls = handle.cls := by
  rcases List.mem_cons.mp member with rfl | registered
  · rfl
  · simpa using (List.mem_filter.mp registered).2

/-- The handle through which a class is first registered as a service is one of its handles. -/
theorem mem_siblings_of_service? {first : Handle} {tag : Option Tag}
    (said : decorations.findSome? (Decoration.service? handle.cls) = some (first, tag)) :
    first ∈ handle.siblings decorations := by
  obtain ⟨decoration, member, found⟩ := List.exists_of_findSome?_eq_some said
  cases decoration with
  | service known asked =>
    obtain ⟨same, rfl, -⟩ : known.cls = handle.cls ∧ known = first ∧ asked = tag := by
      simpa [Decoration.service?] using found
    refine List.mem_cons_of_mem _ (List.mem_filter.mpr ⟨?_, by simpa using same⟩)
    exact List.mem_map.mpr ⟨_, member, rfl⟩
  | controller | route | param | module | paramTypes => simp [Decoration.service?] at found

end Handle

/-! ## What is found among them -/

namespace Registry

/-- The registry after classes were registered and some tags were handed out. -/
def registered (name : String) (decorations : List Decoration) (handed : List Class) : Registry :=
  handed.foldl claimTag (decorations.foldl decorate { name })

variable {part : Handle → Option Constructor} {name : String} {decorations : List Decoration}
  {handed : List Class} {handle : Handle}

theorem findSome?_siblings (merging : Handle.Merging part) :
    (part handle).or (((registered name decorations handed).knownHandle handle.cls).bind part) =
      (handle.siblings decorations).findSome? part := by
  rw [registered, knownHandle_foldl_claimTag, bind_knownHandle_batch merging, Handle.siblings,
    List.findSome?_cons, List.filter_map, List.findSome?_map]
  cases part handle <;> rfl

theorem serviceConstructor?_registered :
    (registered name decorations handed).serviceConstructor? handle =
      (handle.siblings decorations).findSome? (·.serviceConstructor) :=
  findSome?_siblings Handle.merging_serviceConstructor

theorem controllerConstructor?_registered :
    (registered name decorations handed).controllerConstructor? handle =
      (handle.siblings decorations).findSome? (·.controllerConstructor) :=
  findSome?_siblings Handle.merging_controllerConstructor

theorem implementation_registered (name : String) (decorations : List Decoration)
    (handed : List Class) (cls : Class) :
    ((registered name decorations handed).serviceMetadata? cls).map (·.implementation) =
      (decorations.findSome? (Decoration.service? cls)).map (·.1) := by
  rw [registered, serviceMetadata?_foldl_claimTag, serviceMetadata?_batch, Option.map_map]
  rfl

/-! ## Putting a constructor to use -/

/-- A provider gives a layer that runs a constructor and nothing else: with the arguments of the
application if the class is a service, else with none. -/
structure Provides (registry : Registry) (app : App) (provider : Handle) (construct : Constructor) :
    Prop where
  clean : (registry.visitProvider app provider).fault = none
  runs : ∃ provision, (registry.visitProvider app provider).layer = [provision] ∧
    ∀ context, provision.build context =
      construct (if (registry.serviceMetadata? provider.cls).isSome then app.args else {})
  /-- The layer of a service is the one that is created for the class by itself. -/
  created : (registry.serviceMetadata? provider.cls).isSome → ∀ ledger,
    ((registry.serviceLayer provider app).run ledger).1 =
      .ok (registry.visitProvider app provider).layer

/-- Whoever wires a controller, if it is admitted, runs a constructor on its arguments, and wires what
that makes or fails as that does. -/
def Wires (registry : Registry) (handle : Handle) (construct : Constructor) : Prop :=
  ∀ (host : MetadataSource) (declared : Declared) (before : Assembly),
    let reflection : Reflection := { host, store := registry }
    before.Admits reflection declared handle →
      (Composition.wireController reflection declared.cls declared.available handle).run before =
        match (construct (before.args reflection declared handle)).run
          (before.admitted reflection declared handle).ledger with
        | (.error error, ledger) =>
          (.error error, { before.admitted reflection declared handle with ledger })
        | (.ok subject, ledger) =>
          (.ok (), before.wiring reflection declared handle subject ledger)

variable {registry : Registry} {app : App} {provider : Handle} {metadata : ServiceMetadata}
  {construct : Constructor}

theorem serviceLayer_of_service (declared : registry.serviceMetadata? provider.cls = some metadata) :
    registry.serviceLayer provider app = (do
      let provision ← Build.ofExcept (metadata.provision provider app)
      emit provision.createdEvent
      return [provision]) := by
  rw [serviceLayer, declared]

theorem provides_of_service (declared : registry.serviceMetadata? provider.cls = some metadata)
    (chosen : metadata.implementation.serviceConstructor.or provider.serviceConstructor =
      some construct) : registry.Provides app provider construct := by
  obtain ⟨provision, provided, builds⟩ : ∃ provision, metadata.provision provider app =
      .ok provision ∧ ∀ context, provision.build context = construct app.args := by
    simp only [ServiceMetadata.provision, chosen]
    exact ⟨_, rfl, fun _ => rfl⟩
  have visit : registry.visitProvider app provider = .single (.service provision) := by
    simp only [visitProvider, declared, provided]
  refine ⟨by rw [visit]; rfl, ⟨provision, by rw [visit]; rfl, ?_⟩, fun _ ledger => ?_⟩
  · rw [declared]
    exact builds
  · rw [visit, serviceLayer_of_service declared, provided]
    rfl

theorem provides_of_plain (plain : registry.serviceMetadata? provider.cls = none)
    (found : registry.serviceConstructor? provider = some construct) :
    registry.Provides app provider construct := by
  have visit : registry.visitProvider app provider =
      .single (.plain provider.cls (registry.plainProvision provider.cls construct)) := by
    simp only [visitProvider, plain, found]
  refine ⟨by rw [visit]; rfl, ⟨_, by rw [visit]; rfl, ?_⟩, fun service => ?_⟩
  · rw [plain]
    exact fun _ => rfl
  · rw [plain] at service
    cases service

theorem wires_of_found (found : registry.controllerConstructor? provider = some construct) :
    registry.Wires provider construct := by
  intro host declared before reflection admits
  have known : reflection.store.controllerConstructor? provider = some construct := found
  rw [Composition.run_wireController, if_neg admits, known]
  rfl

/-- What is not constructed is told about by the name of the class. -/
def withoutConstructor (cls : Class) : Error :=
  .construction cls.name "service class has no constructor" none

theorem provision_of_nobody (own : metadata.implementation.serviceConstructor = none)
    (listed : provider.serviceConstructor = none) :
    metadata.provision provider app = .error (withoutConstructor metadata.implementation.cls) := by
  simp only [ServiceMetadata.provision, own, listed, Option.or_none]
  rfl

theorem visitProvider_of_nobody (declared : registry.serviceMetadata? provider.cls = some metadata)
    (own : metadata.implementation.serviceConstructor = none)
    (listed : provider.serviceConstructor = none) :
    registry.visitProvider app provider =
      .stop (withoutConstructor metadata.implementation.cls) := by
  simp only [visitProvider, declared, provision_of_nobody own listed]

/-! ## Whatever was registered -/

theorem visitProvider_of_overlooked (overlooked : handle.Overlooked decorations) :
    (registered name decorations handed).visitProvider app handle =
        .stop (withoutConstructor handle.cls) ∧
      ∀ ledger, ((registered name decorations handed).serviceLayer handle app).run ledger =
        (.error (withoutConstructor handle.cls), ledger) := by
  obtain ⟨first, tag, said, own, listed⟩ := overlooked
  have implementation := implementation_registered name decorations handed handle.cls
  rw [said, Option.map_some, Option.map_eq_some_iff] at implementation
  obtain ⟨metadata, declared, rfl⟩ := implementation
  have same := Handle.cls_of_mem_siblings (Handle.mem_siblings_of_service? said)
  refine ⟨?_, fun ledger => ?_⟩
  · rw [visitProvider_of_nobody declared own listed, same]
  · rw [serviceLayer_of_service declared, provision_of_nobody own listed, same]
    rfl

/-- What is known is used, unless it is overlooked. -/
theorem exists_provides_of_known (known : handle.Known (·.serviceConstructor) decorations)
    (seen : ¬ handle.Overlooked decorations) :
    ∃ sibling ∈ handle.siblings decorations, ∃ construct ∈ sibling.serviceConstructor,
      (registered name decorations handed).Provides app handle construct := by
  have implementation := implementation_registered name decorations handed handle.cls
  cases said : decorations.findSome? (Decoration.service? handle.cls) with
  | none =>
    rw [said, Option.map_none, Option.map_eq_none_iff] at implementation
    obtain ⟨construct, found⟩ :=
      Option.isSome_iff_exists.mp (Handle.isSome_findSome?_siblings_iff.mpr known)
    obtain ⟨sibling, member, knows⟩ := List.exists_of_findSome?_eq_some found
    refine ⟨sibling, member, construct, knows, provides_of_plain implementation ?_⟩
    rw [serviceConstructor?_registered, found]
  | some asked =>
    obtain ⟨first, tag⟩ := asked
    rw [said, Option.map_some, Option.map_eq_some_iff] at implementation
    obtain ⟨metadata, declared, rfl⟩ := implementation
    -- The first handle knows a constructor, or the one at hand does.
    cases chosen : metadata.implementation.serviceConstructor.or handle.serviceConstructor with
    | none =>
      obtain ⟨own, listed⟩ := Option.or_eq_none_iff.mp chosen
      exact absurd ⟨_, tag, said, own, listed⟩ seen
    | some construct =>
      have provides : (registered name decorations handed).Provides app handle construct :=
        provides_of_service declared chosen
      rcases Option.or_eq_some_iff.mp chosen with own | ⟨-, listed⟩
      · exact ⟨_, Handle.mem_siblings_of_service? said, construct, own, provides⟩
      · exact ⟨handle, List.mem_cons_self, construct, listed, provides⟩

/-- A provider of which nobody knows a constructor, and that is no service, gives no layer. -/
theorem visitProvider_of_unknown (unknown : ¬ handle.Known (·.serviceConstructor) decorations)
    (seen : ¬ handle.Overlooked decorations) :
    (registered name decorations handed).visitProvider app handle =
      .single (.unusable handle.cls) := by
  have nobody : ∀ sibling ∈ handle.siblings decorations, sibling.serviceConstructor = none := by
    intro sibling member
    by_contra knows
    exact unknown ⟨sibling, member, Option.isSome_iff_ne_none.mpr knows⟩
  have implementation := implementation_registered name decorations handed handle.cls
  cases said : decorations.findSome? (Decoration.service? handle.cls) with
  | none =>
    rw [said, Option.map_none, Option.map_eq_none_iff] at implementation
    have found : (registered name decorations handed).serviceConstructor? handle = none := by
      rw [serviceConstructor?_registered]
      exact List.findSome?_eq_none_iff.mpr nobody
    simp only [visitProvider, implementation, found]
  | some asked =>
    obtain ⟨first, tag⟩ := asked
    refine absurd ⟨first, tag, said, ?_, nobody handle List.mem_cons_self⟩ seen
    exact nobody first (Handle.mem_siblings_of_service? said)

theorem exists_wires_of_known (known : handle.Known (·.controllerConstructor) decorations) :
    ∃ sibling ∈ handle.siblings decorations, ∃ construct ∈ sibling.controllerConstructor,
      (registered name decorations handed).Wires handle construct := by
  obtain ⟨construct, found⟩ :=
    Option.isSome_iff_exists.mp (Handle.isSome_findSome?_siblings_iff.mpr known)
  obtain ⟨sibling, member, knows⟩ := List.exists_of_findSome?_eq_some found
  refine ⟨sibling, member, construct, knows, wires_of_found ?_⟩
  rw [controllerConstructor?_registered, found]

theorem exists_provides_iff :
    (∃ construct, (registered name decorations handed).Provides app handle construct) ↔
      handle.Known (·.serviceConstructor) decorations ∧ ¬ handle.Overlooked decorations := by
  constructor
  · rintro ⟨construct, provides⟩
    have seen : ¬ handle.Overlooked decorations := by
      intro overlooked
      have clean := provides.clean
      rw [(visitProvider_of_overlooked overlooked).1] at clean
      cases clean
    refine ⟨?_, seen⟩
    by_contra unknown
    obtain ⟨provision, layer, -⟩ := provides.runs
    rw [visitProvider_of_unknown unknown seen] at layer
    cases layer
  · rintro ⟨known, seen⟩
    obtain ⟨sibling, -, construct, -, provides⟩ := exists_provides_of_known known seen
    exact ⟨construct, provides⟩

/-- Of a class that was registered through any handles, in any order, and is referred to by any handle:

* a service or a plain provider gives a layer that runs a constructor which one of the handles knows, as
  soon as one does, unless the class was first registered as a service through a handle without a
  constructor and the handle at hand has none either;
* then composing fails, whatever the other handles know;
* a controller is wired by a constructor which one of the handles knows, as soon as one does;
* registering in another order makes no difference to whether a constructor is found, unless it is
  overlooked in one of the two orders. -/
theorem constructs_known (name : String) (decorations : List Decoration) (handed : List Class)
    (handle : Handle) (app : App) :
    let registry := registered name decorations handed
    (handle.Known (·.serviceConstructor) decorations → ¬ handle.Overlooked decorations →
      ∃ sibling ∈ handle.siblings decorations, ∃ construct ∈ sibling.serviceConstructor,
        registry.Provides app handle construct) ∧
    (handle.Overlooked decorations →
      registry.visitProvider app handle = .stop (withoutConstructor handle.cls) ∧
        ∀ ledger, (registry.serviceLayer handle app).run ledger =
          (.error (withoutConstructor handle.cls), ledger)) ∧
    (handle.Known (·.controllerConstructor) decorations →
      ∃ sibling ∈ handle.siblings decorations, ∃ construct ∈ sibling.controllerConstructor,
        registry.Wires handle construct) ∧
    ∀ (other : String) (again : List Decoration) (rehanded : List Class), decorations.Perm again →
      let shuffled := registered other again rehanded
      ((registry.controllerConstructor? handle).isSome ↔
        (shuffled.controllerConstructor? handle).isSome) ∧
      (¬ handle.Overlooked decorations → ¬ handle.Overlooked again →
        ((∃ construct, registry.Provides app handle construct) ↔
          ∃ construct, shuffled.Provides app handle construct)) := by
  intro registry
  refine ⟨exists_provides_of_known, visitProvider_of_overlooked, exists_wires_of_known,
    fun other again rehanded perm => ⟨?_, fun seen reseen => ?_⟩⟩
  · rw [controllerConstructor?_registered, controllerConstructor?_registered,
      Handle.isSome_findSome?_siblings_iff, Handle.isSome_findSome?_siblings_iff]
    exact Handle.known_congr perm _ handle
  · rw [exists_provides_iff, exists_provides_iff, and_iff_left seen, and_iff_left reseen]
    exact Handle.known_congr perm _ handle

end Registry

/-! ## A clock that was announced too early -/

namespace Announced

def clock : Blueprint := { cls := .named "Clock" }

/-- The clock is registered as a service twice, first through a handle without a constructor. The
application lists it by such a handle, too. -/
def decorations : List Decoration :=
  [ .service (clock.handle .bare) none,
    .service (clock.handle .provider) none,
    .module (Class.named "App").handle { providers := [clock.handle .bare] } ]

/-- The registry knows the constructor and does not use it. In the other order, it does. -/
theorem not_constructs_announced :
    ((Registry.registered "main" decorations []).knownHandle clock.cls |>.bind
        (·.serviceConstructor)).isSome ∧
      (Composition.compose (.registered "main" decorations []) (.named "App")
          { logger := {}, config := {} } {}).1.1 =
        .error (Registry.withoutConstructor clock.cls) ∧
      ∃ composition,
        (Composition.compose (.registered "main" decorations.reverse []) (.named "App")
          { logger := {}, config := {} } {}).1.1 = .ok composition ∧
        composition.layer.tags = [.canonical "main" .logger, .canonical "main" clock.cls] := by
  refine ⟨rfl, ?_, Composition.exists_compose_of_within ?_⟩
  · rw [Composition.compose_eq_composeWithin]
    rfl
  · decide +kernel

end Announced

end Trellis
