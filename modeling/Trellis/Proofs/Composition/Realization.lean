import Trellis.Proofs.Composition.Services
import Trellis.Proofs.Layer.Lookup
import Trellis.Proofs.Metadata.Orderly
/-!
# What services are bound to

Every service is bound to the tag of its own class, so a class has one instance at most, if the
registry is orderly and every provider can be constructed.

* `Provision.Serves` says that a provision binds the tag of a class to instances of it; all provisions
  of a composition do (`serves_of_compose`).
* `Context.Tagged` says it of services, and `tagged_of_build` joins the two.
-/

namespace Trellis

/-- A module has a provider, itself or by the modules it imports. -/
def Registry.HasProvider (registry : Registry) (root : Class) (provider : Handle) : Prop :=
  ∃ cls metadata, registry.Reaches root cls ∧ registry.moduleMetadata? cls = some metadata ∧
    provider ∈ metadata.providers

/-- A class of which a module may have an instance: the logger's or that of a provider. -/
def Registry.HasClass (registry : Registry) (root cls : Class) : Prop :=
  cls = .logger ∨ ∃ provider, registry.HasProvider root provider ∧ provider.cls = cls

namespace Registry

variable {registry later : Registry} {root cls : Class} {provider : Handle} {walk : List Handle}

theorem Grows.reaches (grows : registry.Grows later) (reaches : registry.Reaches root cls) :
    later.Reaches root cls := by
  have edges : ∀ importer cls, registry.Imports importer cls → later.Imports importer cls := by
    rintro importer cls ⟨known, found, member⟩
    exact ⟨known, grows.modules importer known found, member⟩
  exact Relation.ReflTransGen.mono edges _ _ reaches

theorem Grows.hasProvider (grows : registry.Grows later)
    (has : registry.HasProvider root provider) : later.HasProvider root provider := by
  obtain ⟨cls, metadata, reaches, declared, listed⟩ := has
  exact ⟨cls, metadata, grows.reaches reaches, grows.modules cls metadata declared, listed⟩

theorem Grows.hasClass (grows : registry.Grows later) (has : registry.HasClass root cls) :
    later.HasClass root cls :=
  has.imp_right fun ⟨provider, listed, same⟩ => ⟨provider, grows.hasProvider listed, same⟩

/-- What a module has when it can be composed is all it will ever have. -/
theorem Composable.hasProvider (composable : registry.Composable root)
    (grows : registry.Grows later) (has : later.HasProvider root provider) :
    registry.HasProvider root provider := by
  obtain ⟨cls, metadata, reaches, declared, listed⟩ := has
  -- Every module on the way is declared already, so it has the same imports.
  have known : ∀ cls metadata, registry.Reaches root cls →
      later.moduleMetadata? cls = some metadata → registry.moduleMetadata? cls = some metadata := by
    intro cls metadata reaches found
    obtain ⟨own, declared⟩ := Option.isSome_iff_exists.mp (composable.declared cls reaches)
    rw [declared, ← grows.modules cls own declared, found]
  have before : registry.Reaches root cls := by
    clear declared
    induction reaches with
    | refl => exact .refl
    | @tail importer imported _ edge ih =>
      obtain ⟨own, declared, member⟩ := edge
      exact ih.tail ⟨own, known importer own ih declared, member⟩
  exact ⟨cls, metadata, before, known cls metadata before declared, listed⟩

theorem Preorder.mem_iff_hasProvider (preorder : registry.Preorder [root] walk) :
    provider ∈ walk ↔ registry.HasProvider root provider := by
  rw [preorder.mem_iff]
  simp [HasProvider]

end Registry

/-! ## What the provisions of a composition bind -/

/-- A provision binds the tag of a class, and what it builds is an instance of the class. -/
structure Provision.Serves (registry : Registry) (cls : Class) (provision : Provision) : Prop where
  bound : registry.tags.get? cls = some provision.tag
  makes : ∀ given before subject after,
    (provision.build given).run before = (.ok subject, after) → subject.cls = cls

theorem Provision.Serves.grows {registry later : Registry} {cls : Class} {provision : Provision}
    (serves : provision.Serves registry cls) (grows : registry.Grows later) :
    provision.Serves later cls :=
  ⟨grows.tags cls provision.tag serves.bound, serves.makes⟩

namespace Registry

variable {registry : Registry} {provider : Handle}

/-- A provider that can be constructed provides instances of its class under the tag of the class,
which is bound or handed out. -/
theorem Orderly.exists_provision (orderly : registry.Orderly) (app : App) (honest : provider.Honest)
    (constructible : provider.serviceConstructor.isSome) :
    ∃ provision, registry.provision? app provider = some provision ∧
      provision.tag = registry.tagOf provider.cls ∧
      (registry.tags.get? provider.cls = some provision.tag ∨
        registry.claimed? provider = some provider.cls) ∧
      ∀ given before subject after,
        (provision.build given).run before = (.ok subject, after) → subject.cls = provider.cls := by
  obtain ⟨construct, own⟩ := Option.isSome_iff_exists.mp constructible
  unfold provision? claimed?
  cases declared : registry.serviceMetadata? provider.cls with
  | none =>
    have known : registry.serviceConstructor? provider = some construct := by
      rw [serviceConstructor?, own]
      rfl
    rw [known]
    exact ⟨registry.plainProvision provider.cls construct, rfl, rfl, .inr rfl,
      fun given => honest construct own {}⟩
  | some metadata =>
    obtain ⟨bound, same, implementation⟩ := orderly.services provider.cls metadata declared
    -- Whether it is the implementation's constructor or the handle's, it is one of the class.
    obtain ⟨chosen, first⟩ : ∃ chosen,
        metadata.implementation.serviceConstructor.or provider.serviceConstructor = some chosen := by
      refine Option.isSome_iff_exists.mp ?_
      rw [Option.isSome_or, constructible, Bool.or_true]
    have makes : Constructor.Makes provider.cls chosen := by
      rcases Option.or_eq_some_iff.mp first with known | ⟨-, known⟩
      · rw [← same]
        exact implementation chosen known
      · exact honest chosen known
    simp only [ServiceMetadata.provision, first]
    exact ⟨_, rfl, (tagOf_of_bound bound).symm, .inl bound, fun given => makes app.args⟩

end Registry

namespace Composition

variable {registry claimed : Registry} {root : Class} {app : App} {ledger : Ledger}
  {composition : Composition}

/-- The tags handed out by composing a module: the logger's and those of the plain providers. -/
theorem exists_claimed_of_composed
    (composed : (compose registry root app ledger).1 = (.ok composition, claimed)) :
    ∃ walk, registry.Preorder [root] walk ∧
      claimed = (.logger :: walk.filterMap registry.claimed?).foldl Registry.claimTag registry := by
  have result : (compose registry root app ledger).1.1 = .ok composition := by rw [composed]
  obtain ⟨metadata, declared, clean, -⟩ := eq_ofTrail_of_compose result
  obtain ⟨walk, preorder, visits⟩ :=
    Registry.exists_claimed_of_clean (registry.claimTag .logger) app [] root clean
  refine ⟨walk, Registry.preorder_claimTag preorder, ?_⟩
  have after : (compose registry root app ledger).1 = _ := compose_of_clean declared clean
  rw [composed] at after
  rw [(Prod.mk.inj after).2, Trail.claimTags, visits, Registry.claimed?_claimTag]
  rfl

/-- Every provision of a composition serves the logger's class or that of a provider, and every
provider is served, if all of them can be constructed. -/
theorem serves_of_compose (orderly : registry.Orderly)
    (composed : (compose registry root app ledger).1 = (.ok composition, claimed))
    (constructible : ∀ provider, registry.HasProvider root provider →
      provider.serviceConstructor.isSome) :
    (∀ provision ∈ composition.layer, ∃ cls, provision.Serves claimed cls ∧
      registry.HasClass root cls) ∧
    ∀ provider, registry.HasProvider root provider →
      ∃ provision ∈ composition.layer, provision.Serves claimed provider.cls := by
  obtain ⟨walk, preorder, handed⟩ := exists_claimed_of_composed composed
  obtain ⟨again, reorder, layer⟩ :=
    exists_layer_of_compose (by rw [composed] : (compose registry root app ledger).1.1 = _)
  obtain rfl := preorder.unique reorder
  -- What a provider provides is in the layer and serves its class.
  have provided : ∀ provider ∈ walk, ∃ provision,
      registry.provision? app provider = some provision ∧
        provision.Serves claimed provider.cls := by
    intro provider member
    have has := preorder.mem_iff_hasProvider.mp member
    have ⟨cls, metadata, _, declared, listed⟩ := has
    have honest := orderly.providers cls metadata declared provider listed
    obtain ⟨provision, provides, tag, settled, makes⟩ :=
      orderly.exists_provision app honest (constructible provider has)
    refine ⟨provision, provides, ?_, makes⟩
    rw [handed]
    rcases settled with bound | free
    · exact Registry.bound_foldl_claimTag bound _
    · rw [tag]
      exact Registry.bound_foldl_claimTag_of_mem
        (List.mem_cons_of_mem _ (List.mem_filterMap.mpr ⟨provider, member, free⟩))
  have logger : claimed.tags.get? .logger = some (registry.tagOf .logger) := by
    rw [handed]
    exact Registry.bound_foldl_claimTag_of_mem List.mem_cons_self
  rw [layer]
  refine ⟨fun provision member => ?_, fun provider has => ?_⟩
  · rcases List.mem_append.mp member with first | later
    · obtain rfl := List.mem_singleton.mp first
      refine ⟨.logger, ⟨logger, ?_⟩, .inl rfl⟩
      intro given before subject after made
      cases made
      rfl
    · obtain ⟨provider, listed, provides⟩ := List.mem_filterMap.mp later
      obtain ⟨other, found, serves⟩ := provided provider listed
      obtain rfl := Option.some.inj (provides.symm.trans found)
      exact ⟨provider.cls, serves, .inr ⟨provider, preorder.mem_iff_hasProvider.mp listed, rfl⟩⟩
  · have member := preorder.mem_iff_hasProvider.mpr has
    obtain ⟨provision, provides, serves⟩ := provided provider member
    have listed : provision ∈ walk.filterMap (registry.provision? app) :=
      List.mem_filterMap.mpr ⟨provider, member, provides⟩
    exact ⟨provision, List.mem_append_right _ listed, serves⟩

end Composition

/-! ## Services under the tags of their classes -/

/-- Every service is bound to the tag of its own class. -/
def Context.Tagged (registry : Registry) (services : Context) : Prop :=
  ∀ tag subject, (tag, subject) ∈ services → registry.tags.get? subject.cls = some tag

namespace Context

variable {registry : Registry} {services order : Context} {tag : Tag} {subject : Instance}

/-- A class whose instances are bound to the tag of the class has one instance at most, so that it is
found in any order. -/
theorem Tagged.ofClass? (tagged : services.Tagged registry)
    (distinct : (Table.keys services).Nodup) (perm : order.Perm services)
    (bound : (tag, subject) ∈ services) : order.ofClass? subject.cls = some subject := by
  have instanced : (order.ofClass? subject.cls).isSome := by
    rw [isSome_ofClass?_of_perm perm, isSome_ofClass?_iff]
    exact ⟨subject, List.mem_map_of_mem bound, rfl⟩
  obtain ⟨other, found⟩ := Option.isSome_iff_exists.mp instanced
  obtain ⟨member, same⟩ := mem_of_ofClass? found
  obtain ⟨⟨again, _⟩, rebound, rfl⟩ := List.mem_map.mp ((perm.map Prod.snd).mem_iff.mp member)
  -- Both are bound to the tag of the class, so they are bound once.
  have first := tagged tag subject bound
  have second := tagged again _ rebound
  rw [same, first, Option.some.injEq] at second
  subst second
  rw [found, ← (Table.get?_eq_some_iff_mem distinct).mpr bound,
    (Table.get?_eq_some_iff_mem distinct).mpr rebound]

end Context

/-- What is built from provisions that serve classes is tagged, and every tag of a provision has an
instance of one of the classes. -/
theorem tagged_of_build {registry : Registry} {layer : Layer} {services : Context}
    {ledger after : Ledger} (among : Class → Prop)
    (serves : ∀ provision ∈ layer, ∃ cls, provision.Serves registry cls ∧ among cls)
    (built : layer.build.run ledger = (.ok services, after)) :
    services.Tagged registry ∧
      ∀ provision ∈ layer, ∃ subject, (provision.tag, subject) ∈ services ∧ among subject.cls := by
  have made : ∀ tag subject, (tag, subject) ∈ services →
      registry.tags.get? subject.cls = some tag ∧ among subject.cls := by
    intro tag subject bound
    obtain ⟨provision, member, rfl, given, before, later, run⟩ :=
      Layer.exists_provision_of_build built bound
    obtain ⟨cls, ⟨own, makes⟩, one⟩ := serves provision member
    obtain rfl := makes given before subject later run
    exact ⟨own, one⟩
  refine ⟨fun tag subject bound => (made tag subject bound).1, fun provision member => ?_⟩
  have key : provision.tag ∈ Table.keys services := by
    rw [Layer.keys_of_build built, List.mem_eraseDups]
    exact List.mem_map_of_mem member
  obtain ⟨⟨tag, subject⟩, bound, same⟩ := List.mem_map.mp key
  change tag = provision.tag at same
  subst same
  exact ⟨subject, bound, (made _ subject bound).2⟩

end Trellis
