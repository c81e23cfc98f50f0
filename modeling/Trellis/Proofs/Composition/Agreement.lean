import Mathlib.Data.List.Forall2
import Trellis.Proofs.Composition.Injection
import Trellis.Proofs.Composition.Lookup
import Trellis.Proofs.Composition.Process
import Trellis.Proofs.Composition.Realization
/-!
# Names and instances agree

A parameter of a controller is matched by name among the providers of one module, and what is injected
for it is searched by class among the services of the whole composition. These are two searches over
two things. They agree if every provider can be constructed and no two classes share a tag.

* `Resolver.Within` says that names lead to providers of the module that declares the controller.
* `injected_of_setup` joins that to what the services are bound to.
-/

namespace Trellis

/-! ## Names lead to providers of the own module -/

/-- All remembered resolutions that were read from a signature lead to providers of the module they
are remembered for. -/
def Resolver.Within (registry : Registry) (resolver : Resolver) : Prop :=
  ∀ scope cls resolution, resolver.cached? scope cls = some resolution →
    resolution.source = .signature →
      ∃ module metadata, scope = .module module ∧
        registry.moduleMetadata? module = some metadata ∧
        ∀ dependency ∈ resolution.dependencies, dependency ∈ metadata.providers.map (·.cls)

namespace Resolver

variable {registry later : Registry} {resolver : Resolver} {reflection : Reflection}
  {declared : Declared} {handle : Handle}

theorem within_empty (registry : Registry) : Within registry {} :=
  fun _ _ _ found => absurd found nofun

theorem Within.grows (within : resolver.Within registry) (grows : registry.Grows later) :
    resolver.Within later := by
  intro scope cls resolution known read
  obtain ⟨module, metadata, own, found, among⟩ := within scope cls resolution known read
  exact ⟨module, metadata, own, grows.modules module metadata found, among⟩

theorem Within.learning (within : resolver.Within registry)
    (known : registry.moduleMetadata? declared.cls = some declared.metadata) :
    (resolver.learning reflection handle declared.available).Within registry := by
  intro scope cls resolution cached read
  rcases eq_of_cached?_learning cached with before | ⟨rfl, -, rfl⟩
  · exact within scope cls resolution before read
  · refine ⟨declared.cls, declared.metadata, declared.scope_available, known, ?_⟩
    intro dependency member
    obtain ⟨name, found⟩ := mem_of_resolve_signature read member
    -- Nothing was available before the providers were.
    exact (Available.eq_of_get?_insertAll found).resolve_left nofun

end Resolver

namespace Process

variable {process : Process} {host : MetadataSource} {permits : Process → Deed → Prop}

theorem Reached.within (reached : process.Reached host permits) :
    process.resolver.Within process.registry := by
  induction reached with
  | start name => exact Resolver.within_empty { name }
  | @next process reached deed _ ih =>
    have kept := ih.grows (process.grows_after deed)
    cases deed with
    | decorate decoration => exact kept
    | create cls app => exact kept
    | setUp index =>
      rcases process.after_setUp index with same | ⟨composition, member, stop, final, setsUp, same⟩
      · rw [same]
        exact ih
      · rw [same]
        refine setsUp.resolver_induction (fun resolver => resolver.Within process.registry) ?_ ih
        intro declared module handle _ resolver within
        exact within.learning (reached.modules composition member declared module)

/-! ## Decorations with constructors that make what they are said to make -/

/-- Handles of services are made from classes, and their constructors make instances of these. -/
def PermitsHonest (_ : Process) : Deed → Prop
  | .decorate decoration => decoration.Honest
  | .create _ _ | .setUp _ => True

theorem Reached.orderly (reached : process.Reached host PermitsHonest) :
    process.registry.Orderly := by
  induction reached with
  | start name => exact Registry.orderly_empty name
  | @next process _ deed permitted ih =>
    cases deed with
    | decorate decoration => exact ih.decorate permitted
    | create cls app =>
      obtain ⟨⟨classes, registry⟩, -⟩ := process.after_create cls app
      rw [registry]
      exact ih.foldl_claimTag classes
    | setUp index =>
      rcases process.after_setUp index with same | ⟨_, -, _, _, -, same⟩
      · rw [same]
        exact ih
      · rw [same]
        exact ih

end Process

/-! ## What is injected -/

/-- The providers of a module can all be constructed by the handles that are listed, and the tags tell
their classes apart, from each other and from the logger. -/
structure Registry.Distinct (registry : Registry) (root : Class) : Prop where
  constructible : ∀ provider, registry.HasProvider root provider →
    provider.serviceConstructor.isSome
  apart : ∀ one other, registry.HasProvider root one → registry.HasProvider root other →
    one.cls ≠ other.cls → registry.tagOf one.cls ≠ registry.tagOf other.cls
  unlike : ∀ provider, registry.HasProvider root provider →
    registry.tagOf provider.cls ≠ registry.tagOf .logger

theorem Registry.Distinct.eq_of_tagOf_eq {registry : Registry} {root cls : Class}
    {provider : Handle} (distinct : registry.Distinct root)
    (has : registry.HasProvider root provider) (other : registry.HasClass root cls)
    (same : registry.tagOf cls = registry.tagOf provider.cls) : cls = provider.cls := by
  rcases other with rfl | ⟨other, listed, rfl⟩
  · exact absurd same.symm (distinct.unlike provider has)
  · by_contra differ
    exact distinct.apart other provider listed has differ same

/-- If each of some values is found and is related to what is found, all that is found is related to
the values, one by one. -/
theorem forall₂_filterMap {α β : Type} {related : α → β → Prop} {find : α → Option β}
    {values : List α} (found : ∀ a ∈ values, ∃ b, find a = some b ∧ related a b) :
    List.Forall₂ related values (values.filterMap find) := by
  induction values with
  | nil => exact .nil
  | cons a rest ih =>
    obtain ⟨b, first, relates⟩ := found a List.mem_cons_self
    rw [List.filterMap_cons_some first]
    exact .cons relates (ih fun other member => found other (List.mem_cons_of_mem _ member))

namespace Process

variable {process : Process} {host : MetadataSource} {composition : Composition}
  {resolver : Resolver} {ledger : Ledger} {final : Assembly}

/-- A provider whose class can be told apart from the others has one instance, to which both its tag
and its class lead, in any order of the search. -/
theorem Reached.exists_instance (reached : process.Reached host PermitsHonest)
    (created : composition ∈ process.compositions) (fresh : composition.stage = .layersComposed)
    (distinct : process.registry.Distinct composition.root.cls) {services : Context}
    {start after : Ledger} (built : composition.layer.build.run start = (.ok services, after))
    {provider : Handle} (has : process.registry.HasProvider composition.root.cls provider) :
    ∃ subject, subject.cls = provider.cls ∧
      services.find? (process.registry.tagOf provider.cls) = some subject ∧
      ∀ order : Context, order.Perm services → order.ofClass? provider.cls = some subject := by
  obtain ⟨earlier, claimed, before, composed, grown⟩ := reached.originates composition created fresh
  have result : (Composition.compose earlier.registry composition.root.cls composition.app
      earlier.ledger).1.1 = .ok composition := by rw [composed]
  have grows : earlier.registry.Grows process.registry := by
    obtain ⟨walk, -, rfl⟩ := Composition.exists_claimed_of_composed composed
    exact (earlier.registry.grows_foldl_claimTag _).trans grown
  obtain ⟨serves, served⟩ := Composition.serves_of_compose before.orderly composed
    fun provider has => distinct.constructible provider (grows.hasProvider has)
  have serving : ∀ provision ∈ composition.layer, ∃ cls,
      provision.Serves process.registry cls ∧
        process.registry.HasClass composition.root.cls cls := by
    intro provision listed
    obtain ⟨cls, own, one⟩ := serves provision listed
    exact ⟨cls, own.grows grown, grows.hasClass one⟩
  obtain ⟨tagged, instanced⟩ := tagged_of_build _ serving built
  -- The provider's tag has an instance, which can only be one of its class.
  obtain ⟨provision, listed, own⟩ :=
    served provider ((Composition.composable_of_compose result).hasProvider grows has)
  obtain ⟨subject, bound, one⟩ := instanced provision listed
  have tag : process.registry.tagOf provider.cls = provision.tag :=
    Registry.tagOf_of_bound (own.grows grown).bound
  have same : subject.cls = provider.cls := by
    refine distinct.eq_of_tagOf_eq has one ?_
    rw [tag]
    exact Registry.tagOf_of_bound (tagged provision.tag subject bound)
  have keys := Layer.nodup_keys_of_build built
  refine ⟨subject, same, ?_, fun order perm => ?_⟩
  · rw [tag, Context.find?, (Table.get?_eq_some_iff_mem keys).mpr bound]
    rfl
  · rw [← same]
    exact tagged.ofClass? keys perm bound

/-- Every module of a composition that was not set up is reached in the registry. -/
theorem Reached.reaches {permits : Process → Deed → Prop} (reached : process.Reached host permits)
    (created : composition ∈ process.compositions) (fresh : composition.stage = .layersComposed) :
    ∀ declared ∈ composition.modules,
      process.registry.Reaches composition.root.cls declared.cls := by
  obtain ⟨earlier, -, grows, composed⟩ :=
    (reached.originates composition created fresh).exists_composed
  intro declared member
  exact grows.reaches (Composition.reaches_of_compose composed declared member)

/-- A composition whose set-up succeeds was as it had been created, and its layer was built. -/
theorem Reached.fresh_of_setup {permits : Process → Deed → Prop} {reflection : Reflection}
    (reached : process.Reached host permits) (created : composition ∈ process.compositions)
    (ran : (Composition.setup reflection).run ⟨composition, resolver, ledger⟩ = (.ok (), final)) :
    composition.Fresh ∧ ∃ after,
      composition.layer.build.run ledger = (.ok final.composition.services, after) := by
  obtain ⟨stop, setsUp, result⟩ := Composition.run_setup_iff.mp ran
  obtain rfl := Stop.result_eq_ok_iff.mp result.symm
  cases setsUp with
  | @done services after last stage built wiring =>
    obtain ⟨earlier, -, -, composed⟩ :=
      (reached.originates composition created stage).exists_composed
    obtain ⟨made, left, same, -⟩ := wiring.composition
    have realized : last.finished.composition.services = services := by
      show last.composition.services = services
      rw [same]
      rfl
    refine ⟨Composition.fresh_of_compose composed, after, ?_⟩
    rw [realized]
    exact built

/-- The names of parameters lead to providers of the composition. -/
theorem Reached.exists_provider {permits : Process → Deed → Prop} {reflection : Reflection}
    (reached : process.Reached host permits) (created : composition ∈ process.compositions)
    (used : resolver = process.resolver ∨ resolver = {})
    (ran : (Composition.setup reflection).run ⟨composition, resolver, ledger⟩ = (.ok (), final))
    {wired : Wired} (member : wired ∈ final.composition.controllers)
    (read : wired.resolution.source = .signature) :
    ∀ cls ∈ wired.resolution.dependencies, ∃ provider,
      process.registry.HasProvider composition.root.cls provider ∧ provider.cls = cls := by
  obtain ⟨fresh, after, built⟩ := reached.fresh_of_setup created ran
  obtain ⟨stop, setsUp, -⟩ := Composition.run_setup_iff.mp ran
  obtain ⟨made, left, same, planned, -⟩ := setsUp.composition_of_built fresh.stage built
  have first : resolver.Within process.registry := by
    rcases used with rfl | rfl
    · exact reached.within
    · exact Resolver.within_empty process.registry
  have within : final.resolver.Within process.registry := by
    refine setsUp.resolver_induction (fun resolver => resolver.Within process.registry) ?_ first
    intro declared module handle _ resolver within
    exact within.learning (reached.modules composition created declared module)
  have none : ∀ wired ∈ composition.controllers, wired.RememberedBy resolver :=
    fun wired member => absurd (fresh.controllers ▸ member) List.not_mem_nil
  have remembered := setsUp.remembered none wired member
  obtain ⟨module, metadata, scope, declared, among⟩ := within _ _ _ remembered read
  obtain rfl : wired.module = module := Scope.module.inj scope
  -- The module that declares the controller is one of the composition.
  have listed : wired.place ∈ composition.plan := by
    rw [same, fresh.controllers, List.nil_append] at member
    rw [planned]
    exact List.mem_append_left _ (List.mem_map_of_mem member)
  obtain ⟨own, inside, handle, -, place⟩ := Composition.exists_declared_of_mem_plan listed
  have reaches : process.registry.Reaches composition.root.cls wired.module := by
    rw [(Prod.mk.inj place).1]
    exact reached.reaches created fresh.stage own inside
  intro cls dependency
  obtain ⟨provider, provided, same⟩ := List.mem_map.mp (among cls dependency)
  exact ⟨provider, ⟨wired.module, metadata, reaches, declared, provided⟩, same⟩

/-- In a process whose constructors make what they are said to make, a set-up of a composition whose
providers can be constructed and told apart injects every class that the name of a parameter led to.
The constructor of each controller, which is the one known for the handle that is listed in its place,
received one instance for each dependency of the resolution, in order, and that is the instance which
the composition gives for the tag of the class and the controller for the class itself, in whatever
order it searches. The resolver may be the one of the process or a new one. -/
theorem injected_of_setup (reached : process.Reached host PermitsHonest)
    (created : composition ∈ process.compositions)
    (distinct : process.registry.Distinct composition.root.cls)
    (used : resolver = process.resolver ∨ resolver = {})
    (ran : (Composition.setup process.reflection).run ⟨composition, resolver, ledger⟩ =
      (.ok (), final)) :
    composition.listed.length = final.composition.controllers.length ∧
      ∀ (index : Nat) (wired : Wired), final.composition.controllers[index]? = some wired →
        wired.resolution.source = .signature →
          ∃ (declared : Declared) (handle : Handle) (construct : Constructor)
            (injected : List Instance) (before after : Ledger),
            composition.listed[index]? = some (declared, handle) ∧
              wired.place = (declared.cls, handle.cls) ∧
              process.registry.controllerConstructor? handle = some construct ∧
              (construct { composition.app.args with dependencies := injected }).run before =
                (.ok wired.controller.subject, after) ∧
              injected.map (·.cls) = wired.resolution.dependencies ∧
              List.Forall₂ (fun cls subject =>
                  final.composition.serviceOfTag? (process.registry.tagOf cls) = some subject ∧
                    ∀ order : Context, order.Perm wired.controller.services →
                      Controller.getByClass { wired.controller with services := order } cls =
                        .ok subject)
                wired.resolution.dependencies injected := by
  obtain ⟨fresh, after, built⟩ := reached.fresh_of_setup created ran
  refine ⟨(Composition.constructed_of_setup ran fresh.controllers).2 rfl,
    fun index wired there read => ?_⟩
  have member := List.mem_of_getElem? there
  -- Whatever a name leads to is found, and found alike.
  have found : ∀ cls ∈ wired.resolution.dependencies, ∃ subject,
      final.composition.services.ofClass? cls = some subject ∧ subject.cls = cls ∧
        final.composition.serviceOfTag? (process.registry.tagOf cls) = some subject ∧
          ∀ order : Context, order.Perm final.composition.services →
            order.ofClass? cls = some subject := by
    intro cls dependency
    obtain ⟨provider, has, rfl⟩ := reached.exists_provider created used ran member read cls dependency
    obtain ⟨subject, same, tagged, ordered⟩ :=
      reached.exists_instance created fresh.stage distinct built has
    exact ⟨subject, ordered _ (.refl _), same, tagged, ordered⟩
  have injected := forall₂_filterMap found
  obtain ⟨declared, handle, listed, place, construct, known, before, later, made⟩ :=
    Composition.exists_listed_of_wired ran fresh.controllers there
  obtain ⟨stop, setsUp, -⟩ := Composition.run_setup_iff.mp ran
  rw [Composition.given, setsUp.app] at made
  refine ⟨declared, handle, construct, wired.resolution.injected final.composition.services, before,
    later, listed, place, known, made, ?_, ?_⟩
  · have classes : List.Forall₂ (fun cls subject => cls = Instance.cls subject)
        wired.resolution.dependencies
        (wired.resolution.injected final.composition.services) :=
      List.Forall₂.imp (fun cls subject found => found.1.symm) injected
    rw [← List.forall₂_map_right_iff, List.forall₂_eq_eq_eq] at classes
    exact classes.symm
  · refine List.Forall₂.imp (fun cls subject found => ?_) injected
    obtain ⟨-, tagged, ordered⟩ := found
    refine ⟨tagged, fun order perm => ?_⟩
    rw [(Composition.services_of_wired fresh ran).2 wired member] at perm
    simp only [Controller.getByClass, ordered order perm, Option.some_or]

end Process

namespace Shifts

/-- The clocks can be told apart by their tags, though not by their names. -/
theorem distinct_evening : evening.registry.Distinct (.named "Night") := by
  obtain ⟨daily, nightly⟩ := moduleMetadata?_evening
  have walk : evening.registry.Preorder [.named "Night"]
      [nightClock.handle .provider, dayClock.handle .provider] :=
    .cons nightly (.cons daily .nil .nil) .nil
  have handles : ∀ provider, evening.registry.HasProvider (.named "Night") provider →
      provider = nightClock.handle .provider ∨ provider = dayClock.handle .provider := by
    intro provider has
    simpa using walk.mem_iff_hasProvider.mpr has
  have tags : evening.registry.tagOf nightClock.cls ≠ evening.registry.tagOf dayClock.cls ∧
      evening.registry.tagOf nightClock.cls ≠ evening.registry.tagOf .logger ∧
        evening.registry.tagOf dayClock.cls ≠ evening.registry.tagOf .logger := by
    rw [evening_eq]
    decide +kernel
  obtain ⟨apart, unlikeNight, unlikeDay⟩ := tags
  refine ⟨?_, ?_, ?_⟩
  · intro provider has
    rcases handles provider has with rfl | rfl <;> rfl
  · intro one other has again
    rcases handles one has with rfl | rfl <;> rcases handles other again with rfl | rfl
    · exact fun differ => absurd rfl differ
    · exact fun _ => apart
    · exact fun _ => apart.symm
    · exact fun differ => absurd rfl differ
  · intro provider has
    rcases handles provider has with rfl | rfl
    · exact unlikeNight
    · exact unlikeDay

/-- By night each page receives the clock of its own module, and looks up the very same one. -/
theorem injected_of_setup_evening : ∃ composition final,
    composition ∈ evening.compositions ∧
      (Composition.setup evening.reflection).run ⟨composition, evening.resolver, {}⟩ =
        (.ok (), final) ∧
      (final.composition.controllers.map fun wired => (wired.module.name, wired.resolution.source,
        wired.controller.subject.received.map (·.cls))) =
        [("Night", .signature, [nightClock.cls]), ("Day", .signature, [dayClock.cls])] ∧
      ∀ (index : Nat) (wired : Wired), final.composition.controllers[index]? = some wired →
        wired.resolution.source = .signature →
          ∃ (declared : Declared) (handle : Handle) (construct : Constructor)
            (injected : List Instance) (before after : Ledger),
            composition.listed[index]? = some (declared, handle) ∧
              evening.registry.controllerConstructor? handle = some construct ∧
              (construct { composition.app.args with dependencies := injected }).run before =
                (.ok wired.controller.subject, after) ∧
              injected.map (·.cls) = wired.resolution.dependencies ∧
              List.Forall₂ (fun cls subject => wired.controller.getByClass cls = .ok subject)
                wired.resolution.dependencies injected := by
  let run (composition : Composition) : Except Error Unit × Assembly :=
    (Composition.setup evening.reflection).run ⟨composition, evening.resolver, {}⟩
  have outcome : (evening.compositions[1]?.map fun composition =>
      (composition.root.cls, (run composition).1.toBool)) = some (.named "Night", true) := by
    simp only [run]
    rw [evening_eq]
    decide +kernel
  have received : (evening.compositions[1]?.map fun composition =>
      (run composition).2.composition.controllers.map fun wired => (wired.module.name,
        wired.resolution.source, wired.controller.subject.received.map (·.cls))) =
      some [("Night", .signature, [nightClock.cls]), ("Day", .signature, [dayClock.cls])] := by
    simp only [run]
    rw [evening_eq]
    decide +kernel
  cases here : evening.compositions[1]? with
  | none =>
    rw [here] at outcome
    cases outcome
  | some composition =>
    rw [here, Option.map_some, Option.some.injEq] at outcome received
    obtain ⟨root, works⟩ := Prod.mk.inj outcome
    rcases ran : run composition with ⟨error | ⟨⟩, final⟩
    · rw [ran] at works
      cases works
    rw [ran] at received
    have reached : evening.Reached .emitted Process.PermitsHonest := by
      refine (Process.Reached.start "main").foldl ?_
      intro process
      simp only [deeds, List.forall_mem_cons, List.not_mem_nil, false_imp_iff, implies_true,
        Process.PermitsHonest, Decoration.Honest, day, night, Blueprint.honest_handle, and_true]
    have created := List.mem_of_getElem? here
    have distinct : evening.registry.Distinct composition.root.cls := root ▸ distinct_evening
    refine ⟨composition, final, created, ran, received, fun index wired there read => ?_⟩
    obtain ⟨-, each⟩ := Process.injected_of_setup reached created distinct (.inl rfl) ran
    obtain ⟨declared, handle, construct, injected, before, after, listed, -, known, made, classes,
      found⟩ := each index wired there read
    exact ⟨declared, handle, construct, injected, before, after, listed, known, made, classes,
      List.Forall₂.imp (fun cls subject found => found.2 _ (.refl _)) found⟩

end Shifts

end Trellis
