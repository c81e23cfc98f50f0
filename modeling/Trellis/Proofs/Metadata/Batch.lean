import Mathlib.Logic.Equiv.Basic
import Trellis.Proofs.Metadata.Decorated
import Trellis.Proofs.Metadata.Renaming
/-!
# Batches of decorations

A batch says of each class at most once that it is a service, that it is a module and what its
constructor takes. In whatever order such a batch is applied to an empty registry, and however the
registry is called, what it comes to is the same but for the registry's own tags.

* `findSome?_of_perm`: what is said once is said whatever the order.
* `moduleMetadata?_batch`, `serviceMetadata?_batch`, `read_paramTypes_batch`, `tagOf_batch`,
  `bind_knownHandle_batch`: what a batch leaves, told from the batch alone.
* `renamed_of_perm` and `steady_batch` join them.
-/

namespace Trellis

/-! ## What is said once -/

/-- If all that is said is the same, it is said whatever the order. -/
theorem findSome?_of_perm {α β : Type} {items others : List α} {said : α → Option β}
    (shuffled : items.Perm others)
    (agree : ∀ one ∈ items.filterMap said, ∀ two ∈ items.filterMap said, one = two) :
    others.findSome? said = items.findSome? said := by
  have same := shuffled.filterMap said
  rw [← List.head?_filterMap, ← List.head?_filterMap]
  cases first : others.filterMap said with
  | nil =>
    rw [first] at same
    rw [same.eq_nil]
  | cons one rest =>
    cases second : items.filterMap said with
    | nil =>
      rw [first, second] at same
      cases same.symm.eq_nil
    | cons two later =>
      rw [second] at same agree
      have listed : one ∈ two :: later := same.mem_iff.mpr (first ▸ List.mem_cons_self)
      exact congrArg some (agree one listed two List.mem_cons_self)

namespace Decoration

/-- What makes a class a service: the implementation and the tag that is asked for. -/
def service? (cls : Class) : Decoration → Option (Handle × Option Tag)
  | service handle tag => if handle.cls = cls then some (handle, tag) else none
  | controller _ _ | route _ _ | param _ _ _ | module _ _ | paramTypes _ _ => none

/-- What makes a class a module. -/
def module? (cls : Class) : Decoration → Option ModuleMetadata
  | module handle metadata => if handle.cls = cls then some metadata else none
  | service _ _ | controller _ _ | route _ _ | param _ _ _ | paramTypes _ _ => none

/-- The types that the constructor of a class takes. -/
def paramTypes? (cls : Class) : Decoration → Option (List Class)
  | paramTypes owner types => if owner = cls then some types else none
  | service _ _ | controller _ _ | route _ _ | param _ _ _ | module _ _ => none

/-- The handle through which a decoration writes. -/
def target : Decoration → Handle
  | service handle _ | controller handle _ | module handle _ => handle
  | route cls _ | param cls _ _ | paramTypes cls _ => cls.handle

/-- All handles in a decoration. -/
def handles : Decoration → List Handle
  | module handle metadata => handle :: (metadata.providers ++ metadata.controllers)
  | decoration => [decoration.target]

/-- Of each class it is said at most once that it is a service, that it is a module, and what its
constructor takes. -/
structure Single (batch : List Decoration) : Prop where
  services : ∀ cls, (batch.filterMap (service? cls)).length ≤ 1
  modules : ∀ cls, (batch.filterMap (module? cls)).length ≤ 1
  paramTypes : ∀ cls, (batch.filterMap (paramTypes? cls)).length ≤ 1

theorem target_mem_handles (decoration : Decoration) : decoration.target ∈ decoration.handles := by
  cases decoration <;> exact List.mem_cons_self

/-- A service that was said of a class is a decoration of the batch. -/
theorem mem_of_findSome?_service? {batch : List Decoration} {cls : Class} {handle : Handle}
    {tag : Option Tag} (said : batch.findSome? (service? cls) = some (handle, tag)) :
    service handle tag ∈ batch := by
  obtain ⟨decoration, member, found⟩ := List.exists_of_findSome?_eq_some said
  cases decoration with
  | service known explicit =>
    obtain ⟨-, rfl, rfl⟩ : known.cls = cls ∧ known = handle ∧ explicit = tag := by
      simpa [service?] using found
    exact member
  | controller | route | param | module | paramTypes => simp [service?] at found

theorem exists_mem_of_findSome?_module? {batch : List Decoration} {cls : Class}
    {metadata : ModuleMetadata} (said : batch.findSome? (module? cls) = some metadata) :
    ∃ handle, module handle metadata ∈ batch := by
  obtain ⟨decoration, member, found⟩ := List.exists_of_findSome?_eq_some said
  cases decoration with
  | module handle known =>
    obtain ⟨-, rfl⟩ : handle.cls = cls ∧ known = metadata := by simpa [module?] using found
    exact ⟨handle, member⟩
  | service | controller | route | param | paramTypes => simp [module?] at found

theorem target_definition (tagOf : Class → Tag) (decoration : Decoration) :
    (decoration.definition tagOf).target = decoration.target := by
  cases decoration <;> rfl

end Decoration

/-! ## What a batch leaves -/

namespace Registry

open Decoration Definition

variable {name : String} {batch : List Decoration} {cls : Class}

/-- A class is the module that it was said to be first. -/
theorem moduleMetadata?_batch : (batch.foldl decorate { name }).moduleMetadata? cls =
    batch.findSome? (module? cls) := by
  have stands : (batch.foldl decorate { name }).read cls { key := MetadataKey.module } =
      (batch.findSome? (module? cls)).map .module := by
    refine read_foldl_decorate_of_single (fun decoration => ?_) fun _ => rfl
    cases decoration <;> simp +decide [valueAt?, Decoration.definition, module?]
  rw [moduleMetadata?, stands]
  cases batch.findSome? (module? cls) <;> rfl

theorem read_paramTypes_batch :
    (batch.foldl decorate { name }).read cls { key := MetadataKey.paramTypes } =
      (batch.findSome? (paramTypes? cls)).map .paramTypes := by
  refine read_foldl_decorate_of_single (fun decoration => ?_) fun _ => rfl
  cases decoration <;> simp +decide [valueAt?, Decoration.definition, paramTypes?, Class.handle]

/-- A class is the service that it was said to be first, under the tag it has in the end. -/
theorem serviceMetadata?_batch : (batch.foldl decorate { name }).serviceMetadata? cls =
    (batch.findSome? (service? cls)).map fun (handle, _) =>
      { tag := (batch.foldl decorate { name }).tagOf cls, implementation := handle } := by
  have stands : (batch.foldl decorate { name }).read cls { key := MetadataKey.service } =
      (batch.findSome? (service? cls)).map fun said =>
        .service
          { tag := (batch.foldl decorate { name }).tagOf cls, implementation := said.1 } := by
    refine read_foldl_decorate_of_single (fun decoration => ?_) fun _ => rfl
    cases decoration with
    | service handle tag =>
      by_cases same : handle.cls = cls <;> simp [valueAt?, Decoration.definition, service?, same]
    | controller | route | param | module | paramTypes =>
      simp +decide [valueAt?, Decoration.definition, service?]
  rw [serviceMetadata?, stands]
  cases batch.findSome? (service? cls) <;> rfl

/-- A class without a tag gets the one that is asked for by the first decoration that makes it a
service, or the canonical one. -/
theorem tagOf_foldl_decorate {registry : Registry} (unbound : registry.tags.get? cls = none)
    (batch : List Decoration) :
    (batch.foldl decorate registry).tagOf cls =
      ((batch.findSome? (service? cls)).bind (·.2)).getD (.canonical registry.name cls) := by
  induction batch generalizing registry with
  | nil =>
    rw [List.foldl_nil, tagOf, unbound]
    rfl
  | cons first rest ih =>
    rw [List.foldl_cons, List.findSome?_cons]
    cases said : service? cls first with
    | none =>
      -- The decoration binds a tag to another class, if it binds one at all.
      have still : (registry.decorate first).tags.get? cls = none := by
        cases first with
        | service handle tag =>
          have apart : handle.cls ≠ cls := by
            intro same
            simp [service?, same] at said
          refine Option.eq_none_iff_forall_ne_some.mpr fun bound found => ?_
          have before : registry.tags.get? cls = some bound := by
            cases tag with
            | none => exact (get?_bindTag found).resolve_right fun fresh => apart fresh.1.symm
            | some tag => exact (get?_bindTag found).resolve_right fun fresh => apart fresh.1.symm
          rw [unbound] at before
          cases before
        | controller | route | param | module | paramTypes => exact unbound
      rw [ih still, name_decorate]
    | some asked =>
      cases first with
      | service handle tag =>
        obtain ⟨rfl, rfl⟩ : handle.cls = cls ∧ asked = (handle, tag) := by
          simpa [service?, eq_comm] using said
        have bound := bound_settleTag_self registry handle.cls tag
        rw [tagOf_settleTag_of_unbound unbound] at bound
        exact tagOf_of_bound ((grows_foldl_decorate _ rest).tags handle.cls _ bound)
      | controller | route | param | module | paramTypes => simp [service?] at said

theorem tagOf_batch : (batch.foldl decorate { name }).tagOf cls =
    ((batch.findSome? (service? cls)).bind (·.2)).getD (.canonical name cls) :=
  tagOf_foldl_decorate rfl batch

/-- Of a class the constructor is known that the first of its handles to know one knew. -/
theorem bind_knownHandle_batch {part : Handle → Option Constructor}
    (merging : Handle.Merging part) :
    ((batch.foldl decorate { name }).knownHandle cls).bind part =
      (batch.filter (·.target.cls = cls)).findSome? (part ·.target) := by
  have kept : (batch.foldl decorate { name }).knownHandle cls =
      (writeAll { name } (batch.map (Decoration.definition
        (batch.foldl decorate { name }).tagOf))).knownHandle cls := by
    rw [knownHandle, entries_foldl_decorate]
    rfl
  rw [kept, bind_knownHandle_writeAll merging, List.filter_map, List.findSome?_map]
  simp only [Function.comp_def, target_definition]

end Registry

/-! ## Batches in another order -/

namespace Tag

/-- The tag that one registry gives where the other one gives this one. -/
def swap (one two : String) : Tag → Tag
  | canonical registry cls => canonical (Equiv.swap one two registry) cls
  | custom number identifier => custom number identifier

theorem renaming_swap (one two : String) : Renaming (swap one two) where
  injective := by
    intro tag other same
    cases tag <;> cases other <;> simp_all [swap]
  identifier := by
    intro tag
    cases tag <;> rfl

/-- A tag that no registry of that name gives of its own accord. -/
def Foreign (name : String) (tag : Tag) : Prop :=
  ∀ cls, tag ≠ canonical name cls

theorem swap_of_foreign {one two : String} {tag : Tag} (first : tag.Foreign one)
    (second : tag.Foreign two) : swap one two tag = tag := by
  cases tag with
  | custom => rfl
  | canonical registry cls =>
    have apart : registry ≠ one := fun same => first cls (congrArg (canonical · cls) same)
    have distinct : registry ≠ two := fun same => second cls (congrArg (canonical · cls) same)
    rw [swap, Equiv.swap_apply_of_ne_of_ne apart distinct]

end Tag

/-- The constructors of classes. Handles are made from classes: if one of them knows a constructor, it
is that of its class. -/
structure Constructors where
  service : Class → Constructor
  controller : Class → Constructor

/-- The handle knows no constructors but those of its class. -/
structure Handle.MadeFrom (constructors : Constructors) (handle : Handle) : Prop where
  service : ∀ construct ∈ handle.serviceConstructor, construct = constructors.service handle.cls
  controller : ∀ construct ∈ handle.controllerConstructor,
    construct = constructors.controller handle.cls

theorem Class.madeFrom_handle (constructors : Constructors) (cls : Class) :
    cls.handle.MadeFrom constructors :=
  ⟨nofun, nofun⟩

/-- A blueprint's handles are made from constructors among which its own is. -/
theorem Blueprint.madeFrom_handle {constructors : Constructors} {blueprint : Blueprint}
    {kind : HandleKind}
    (service : kind = .provider → constructors.service blueprint.cls = blueprint.constructor)
    (controller :
      kind = .controller → constructors.controller blueprint.cls = blueprint.constructor) :
    (blueprint.handle kind).MadeFrom constructors := by
  cases kind with
  | bare => exact ⟨nofun, nofun⟩
  | provider =>
    refine ⟨fun construct known => ?_, nofun⟩
    obtain rfl : blueprint.constructor = construct := Option.some.inj known
    exact (service rfl).symm
  | controller =>
    refine ⟨nofun, fun construct known => ?_⟩
    obtain rfl : blueprint.constructor = construct := Option.some.inj known
    exact (controller rfl).symm

structure Constructors.Deterministic (constructors : Constructors) : Prop where
  service : ∀ cls, Constructor.Deterministic (constructors.service cls)
  controller : ∀ cls, Constructor.Deterministic (constructors.controller cls)

namespace Registry

open Decoration

variable {batch again : List Decoration} {constructors : Constructors} {one two : String}
  {part : Handle → Option Constructor} {made : Class → Constructor} {cls : Class}

/-- If handles know the constructors of their classes alone, so does the registry. -/
theorem mem_filterMap_part (own : ∀ decoration ∈ batch, ∀ handle ∈ decoration.handles,
    ∀ construct ∈ part handle, construct = made handle.cls) {construct : Constructor}
    (known : construct ∈ (batch.filter (·.target.cls = cls)).filterMap (part ·.target)) :
    construct = made cls := by
  obtain ⟨decoration, member, found⟩ := List.mem_filterMap.mp known
  obtain ⟨listed, same⟩ := List.mem_filter.mp member
  rw [own decoration listed decoration.target decoration.target_mem_handles construct found]
  exact congrArg made (by simpa using same)

/-- The constructor that is found for a handle of the batch, its own or the one that is known of its
class, is that of its class. -/
theorem eq_of_found (merging : Handle.Merging part)
    (own : ∀ decoration ∈ batch, ∀ handle ∈ decoration.handles,
      ∀ construct ∈ part handle, construct = made handle.cls)
    {decoration : Decoration} (member : decoration ∈ batch) {handle : Handle}
    (listed : handle ∈ decoration.handles) {construct : Constructor}
    (found : (part handle).or (((batch.foldl decorate { name := one }).knownHandle handle.cls).bind
      part) = some construct) : construct = made handle.cls := by
  rcases Option.or_eq_some_iff.mp found with known | ⟨-, other⟩
  · exact own decoration member handle listed construct known
  · rw [bind_knownHandle_batch merging, ← List.head?_filterMap] at other
    exact mem_filterMap_part own (List.mem_of_head? other)

theorem bind_knownHandle_of_perm (merging : Handle.Merging part) (shuffled : batch.Perm again)
    (own : ∀ decoration ∈ batch, ∀ handle ∈ decoration.handles,
      ∀ construct ∈ part handle, construct = made handle.cls) :
    ((again.foldl decorate { name := two }).knownHandle cls).bind part =
      ((batch.foldl decorate { name := one }).knownHandle cls).bind part := by
  rw [bind_knownHandle_batch merging, bind_knownHandle_batch merging]
  refine findSome?_of_perm (shuffled.filter _) fun first listed second relisted => ?_
  rw [mem_filterMap_part own listed, mem_filterMap_part own relisted]

/-- What is said at most once is said whatever the order. -/
theorem findSome?_of_perm_of_length {α : Type} {said : Decoration → Option α}
    (shuffled : batch.Perm again) (once : (batch.filterMap said).length ≤ 1) :
    again.findSome? said = batch.findSome? said := by
  refine findSome?_of_perm shuffled ?_
  match batch.filterMap said, once with
  | [], _ => simp
  | [item], _ => simp

/-- Classes have the tags that they were given explicitly, or each registry's own. -/
theorem tagOf_of_perm (shuffled : batch.Perm again)
    (once : (batch.filterMap (service? cls)).length ≤ 1)
    (fixed : ∀ handle tag, .service handle (some tag) ∈ batch →
      tag.Foreign one ∧ tag.Foreign two) :
    (again.foldl decorate { name := two }).tagOf cls =
      Tag.swap one two ((batch.foldl decorate { name := one }).tagOf cls) := by
  rw [tagOf_batch, tagOf_batch, findSome?_of_perm_of_length shuffled once]
  cases said : batch.findSome? (service? cls) with
  | none => simp [Tag.swap]
  | some asked =>
    obtain ⟨handle, _ | tag⟩ := asked
    · simp [Tag.swap]
    · -- No registry gives the explicit tag, so the renaming leaves it.
      obtain ⟨first, second⟩ := fixed handle tag (mem_of_findSome?_service? said)
      exact (Tag.swap_of_foreign first second).symm

/-- A batch in another order, applied to another empty registry, says the same under the tags of that
registry. -/
theorem renamed_of_perm (shuffled : batch.Perm again) (single : Decoration.Single batch)
    (own : ∀ decoration ∈ batch, ∀ handle ∈ decoration.handles, handle.MadeFrom constructors)
    (fixed : ∀ handle tag, .service handle (some tag) ∈ batch →
      tag.Foreign one ∧ tag.Foreign two) :
    (batch.foldl decorate { name := one }).Renamed (Tag.swap one two)
      (again.foldl decorate { name := two }) where
  modules cls := by
    rw [moduleMetadata?_batch, moduleMetadata?_batch,
      findSome?_of_perm_of_length shuffled (single.modules cls)]
  services cls := by
    rw [serviceMetadata?_batch, serviceMetadata?_batch,
      findSome?_of_perm_of_length shuffled (single.services cls),
      tagOf_of_perm shuffled (single.services cls) fixed, Option.map_map]
    rfl
  paramTypes cls := by
    rw [read_paramTypes_batch, read_paramTypes_batch,
      findSome?_of_perm_of_length shuffled (single.paramTypes cls)]
  tags cls := tagOf_of_perm shuffled (single.services cls) fixed
  serviceConstructors cls :=
    bind_knownHandle_of_perm Handle.merging_serviceConstructor shuffled
      fun decoration member handle listed => (own decoration member handle listed).service
  controllerConstructors cls :=
    bind_knownHandle_of_perm Handle.merging_controllerConstructor shuffled
      fun decoration member handle listed => (own decoration member handle listed).controller

/-- In what a batch leaves, no constructors are found but those of classes. -/
theorem eq_of_finds_batch {name : String}
    (own : ∀ decoration ∈ batch, ∀ handle ∈ decoration.handles, handle.MadeFrom constructors)
    {construct : Constructor} (finds : (batch.foldl decorate { name }).Finds construct) :
    ∃ cls, construct = constructors.service cls ∨ construct = constructors.controller cls := by
  cases finds with
  | service declared known =>
    rw [serviceMetadata?_batch] at declared
    obtain ⟨⟨handle, tag⟩, said, rfl⟩ := Option.map_eq_some_iff.mp declared
    have made := own _ (mem_of_findSome?_service? said) handle List.mem_cons_self
    exact ⟨handle.cls, .inl (made.service construct known)⟩
  | @provider _ _ provider _ declared listed found =>
    rw [moduleMetadata?_batch] at declared
    obtain ⟨handle, member⟩ := exists_mem_of_findSome?_module? declared
    refine ⟨provider.cls, .inl ?_⟩
    exact eq_of_found Handle.merging_serviceConstructor
      (fun decoration member handle listed => (own decoration member handle listed).service)
      member (by simp [handles, listed]) found
  | @controller _ _ handle _ declared listed found =>
    rw [moduleMetadata?_batch] at declared
    obtain ⟨target, member⟩ := exists_mem_of_findSome?_module? declared
    refine ⟨handle.cls, .inr ?_⟩
    exact eq_of_found Handle.merging_controllerConstructor
      (fun decoration member handle listed => (own decoration member handle listed).controller)
      member (by simp [handles, listed]) found

theorem steady_batch {name : String} (deterministic : constructors.Deterministic)
    (own : ∀ decoration ∈ batch, ∀ handle ∈ decoration.handles, handle.MadeFrom constructors) :
    (batch.foldl decorate { name }).Steady := by
  refine steady_iff.mpr fun construct finds => ?_
  obtain ⟨cls, rfl | rfl⟩ := eq_of_finds_batch own finds
  · exact deterministic.service cls
  · exact deterministic.controller cls

end Registry

end Trellis
