import Trellis.Proofs.Composition.Process
import Trellis.Proofs.Composition.Realization
import Trellis.Proofs.Composition.SetUp
/-!
# Launches

A launch creates a module from a registry and sets it up. The module is kept as far as it has got, also
when the set-up fails. `launch_of_error` and `exists_launch_of_composed` say what a launch comes to in
terms of composing and of the rules of a set-up.

What a launch does to the registry is said by `Registry.SameButTags`: whether and wherever it fails, it
hands out tags, of the logger and of plain providers, and touches nothing else.
-/

namespace Trellis

namespace Trail

variable {visit : Visit} {trails : List Trail}

/-! ### What is met on a trail, whether or not it stopped -/

theorem mem_visits_andThen {first second : Trail}
    (met : visit ∈ (first.andThen second).visits) : visit ∈ first.visits ∨ visit ∈ second.visits := by
  unfold andThen at met
  cases fault : first.fault with
  | some error =>
    rw [fault] at met
    exact .inl met
  | none =>
    rw [fault] at met
    exact List.mem_append.mp met

theorem exists_mem_of_mem_visits_sequence (met : visit ∈ (sequence trails).visits) :
    ∃ trail ∈ trails, visit ∈ trail.visits := by
  induction trails with
  | nil => cases met
  | cons first rest ih =>
    rcases mem_visits_andThen met with here | later
    · exact ⟨first, List.mem_cons_self, here⟩
    · obtain ⟨trail, member, there⟩ := ih later
      exact ⟨trail, List.mem_cons_of_mem _ member, there⟩

end Trail

namespace Composition

/-- What came of a launch, and the registry and the resolver after it. -/
structure Launched where
  /-- The error, if the module could not be composed; else the module as far as it has got, and what
  came of its set-up. -/
  outcome : Except Error (Composition × Except Error Unit)
  registry : Registry
  resolver : Resolver

/-- Composes a module and sets it up. -/
def launch (host : MetadataSource) (registry : Registry) (resolver : Resolver) (root : Class)
    (app : App) : Logged Launched := do
  let (composed, registry) ← compose registry root app
  match composed with
  | .error error => return { outcome := .error error, registry, resolver }
  | .ok composition =>
    let (result, composition, resolver) ← setupIn host registry resolver composition
    return { outcome := .ok (composition, result), registry, resolver }

/-- What is left of a launch if a module whose set-up failed is let go. -/
def Launched.started (launched : Launched) : Started where
  result := launched.outcome.bind fun (composition, result) => result.map fun _ => composition
  registry := launched.registry
  resolver := launched.resolver

/-- What a launch tells: its error, or the report of the module and what came of its set-up. -/
def Launched.told (launched : Launched) : Except Error (WiringReport × Except Error Unit) :=
  launched.outcome.map fun (composition, result) => (composition.report, result)

variable {host : MetadataSource} {registry : Registry} {resolver : Resolver} {root : Class}
  {app : App} {ledger : Ledger}

/-! ## What a launch comes to -/

theorem launch_of_error {error : Error}
    (failed : (compose registry root app ledger).1.1 = .error error) :
    launch host registry resolver root app ledger =
      ({ outcome := .error error
         registry := (compose registry root app ledger).1.2
         resolver },
        (compose registry root app ledger).2) := by
  rcases composed : compose registry root app ledger with ⟨⟨result, claimed⟩, mid⟩
  rw [composed] at failed
  obtain rfl : result = .error error := failed
  simp only [launch, bind, StateT.bind, composed]
  rfl

theorem launch_of_setsUp {composition : Composition} {stop : Option Stop} {final : Assembly}
    (composed : (compose registry root app ledger).1.1 = .ok composition)
    (setsUp : SetsUp { host, store := (compose registry root app ledger).1.2 }
      ⟨composition, resolver, (compose registry root app ledger).2⟩ stop final) :
    launch host registry resolver root app ledger =
      ({ outcome := .ok (final.composition, Stop.result stop)
         registry := (compose registry root app ledger).1.2
         resolver := final.resolver },
        final.ledger) := by
  have ran := run_setup_of_setsUp setsUp
  rcases made : compose registry root app ledger with ⟨⟨result, claimed⟩, mid⟩
  rw [made] at composed ran
  obtain rfl : result = .ok composition := composed
  simp only [launch, bind, StateT.bind, made, setupIn]
  rw [ran]
  rfl

/-- A module that can be composed is set up by the rules, as far as that gets. -/
theorem exists_launch_of_composed {composition : Composition} (host : MetadataSource)
    (resolver : Resolver) (composed : (compose registry root app ledger).1.1 = .ok composition) :
    ∃ stop final, SetsUp { host, store := (compose registry root app ledger).1.2 }
        ⟨composition, resolver, (compose registry root app ledger).2⟩ stop final ∧
      launch host registry resolver root app ledger =
        ({ outcome := .ok (final.composition, Stop.result stop)
           registry := (compose registry root app ledger).1.2
           resolver := final.resolver },
          final.ledger) := by
  obtain ⟨stop, final, setsUp⟩ := exists_setsUp
    { host, store := (compose registry root app ledger).1.2 }
    ⟨composition, resolver, (compose registry root app ledger).2⟩
  exact ⟨stop, final, setsUp, launch_of_setsUp composed setsUp⟩

theorem registry_launch (host : MetadataSource) (registry : Registry) (resolver : Resolver)
    (root : Class) (app : App) (ledger : Ledger) :
    (launch host registry resolver root app ledger).1.registry =
      (compose registry root app ledger).1.2 := by
  cases composed : (compose registry root app ledger).1.1 with
  | error error => rw [launch_of_error composed]
  | ok composition =>
    obtain ⟨stop, final, -, launched⟩ := exists_launch_of_composed host resolver composed
    rw [launched]

/-- A bootstrap that reports nothing of its course is a launch. -/
theorem bootstrap_eq_launch (host : MetadataSource) (registry : Registry) (resolver : Resolver)
    (root : Class) (app : App) (ledger : Ledger) :
    bootstrap host registry resolver root app (fun _ => []) (fun _ => []) ledger =
      ((launch host registry resolver root app ledger).1.started,
        (launch host registry resolver root app ledger).2) := by
  have silent (ledger : Ledger) : emitAll [] ledger = ((), ledger) := by
    simp [emitAll, modify, modifyGet, MonadStateOf.modifyGet, StateT.modifyGet, pure]
  rcases composed : compose registry root app ledger with ⟨⟨error | composition, claimed⟩, mid⟩
  · simp only [bootstrap, launch, bind, StateT.bind, composed]
    rfl
  · rcases ran : (setup { host, store := claimed }).run ⟨composition, resolver, mid⟩ with
      ⟨error | ⟨⟩, assembly⟩ <;>
      simp only [bootstrap, launch, bind, StateT.bind, composed, silent, setupIn, ran] <;>
      rfl

end Composition

/-! ## What becomes of the registry -/

namespace Registry

/-- A class that the root leads to as a provider: it is no service, but it can be constructed. -/
def PlainProvider (registry : Registry) (root cls : Class) : Prop :=
  ∃ provider, registry.HasProvider root provider ∧ provider.cls = cls ∧
    registry.serviceMetadata? cls = none ∧ (registry.serviceConstructor? provider).isSome

/-- The later registry differs in tags alone: a class that had one keeps it, and only the logger and the
plain providers that the root leads to may have got one, their canonical one. -/
structure SameButTags (registry : Registry) (root : Class) (later : Registry) : Prop where
  name : later.name = registry.name
  /-- What was written about classes, and the handles seen of them. -/
  entries : later.entries = registry.entries
  bound : ∀ cls tag, registry.tags.get? cls = some tag → later.tags.get? cls = some tag
  added : ∀ cls tag, later.tags.get? cls = some tag → registry.tags.get? cls = some tag ∨
    tag = .canonical registry.name cls ∧ (cls = .logger ∨ registry.PlainProvider root cls)

variable {registry : Registry} {app : App} {stack : List Class} {root cls other : Class}
  {provider : Handle} {visit : Visit}

theorem PlainProvider.of_import {imported : Class} (edge : registry.Imports cls imported)
    (plain : registry.PlainProvider imported other) : registry.PlainProvider cls other := by
  obtain ⟨provider, ⟨module, metadata, reaches, declared, listed⟩, known⟩ := plain
  exact ⟨provider, ⟨module, metadata, .head edge reaches, declared, listed⟩, known⟩

theorem plainProvider_claimTag (claimed : Class)
    (plain : (registry.claimTag claimed).PlainProvider root cls) :
    registry.PlainProvider root cls := by
  obtain ⟨provider, ⟨module, metadata, reaches, declared, listed⟩, same, plain, known⟩ := plain
  refine ⟨provider, ⟨module, metadata, ?_, ?_, listed⟩, same, ?_, ?_⟩
  · simpa using reaches
  · simpa using declared
  · simpa using plain
  · simpa [serviceConstructor?, knownHandle] using known

theorem plain_of_visitProvider (met : visit ∈ (registry.visitProvider app provider).visits)
    (claims : visit.claimed? = some cls) : provider.cls = cls ∧
      registry.serviceMetadata? cls = none ∧ (registry.serviceConstructor? provider).isSome := by
  unfold visitProvider at met
  cases service : registry.serviceMetadata? provider.cls with
  | some metadata =>
    rw [service] at met
    dsimp only at met
    -- A service is built or it stops the walk; its tag is not handed out.
    cases provided : metadata.provision provider app with
    | ok provision =>
      rw [provided] at met
      obtain rfl := List.mem_singleton.mp met
      cases claims
    | error fault =>
      rw [provided] at met
      exact absurd met List.not_mem_nil
  | none =>
    rw [service] at met
    dsimp only at met
    cases known : registry.serviceConstructor? provider with
    | some construct =>
      rw [known] at met
      obtain rfl := List.mem_singleton.mp met
      obtain rfl : provider.cls = cls := Option.some.inj claims
      exact ⟨rfl, service, rfl⟩
    | none =>
      rw [known] at met
      obtain rfl := List.mem_singleton.mp met
      cases claims

/-- Wherever a walk stops, it claims the tags of plain providers alone. -/
theorem plainProvider_of_walkModule (app : App) (stack : List Class) (cls : Class) :
    ∀ visit ∈ (registry.walkModule app stack cls).visits, ∀ other, visit.claimed? = some other →
      registry.PlainProvider cls other := by
  induction stack, cls using walk_induction registry with
  | step stack cls ih =>
    intro visit met other claims
    by_cases again : cls ∈ stack
    · rw [walkModule_of_mem again] at met
      exact absurd met List.not_mem_nil
    cases declared : registry.moduleMetadata? cls with
    | none =>
      rw [walkModule_of_undeclared again declared] at met
      exact absurd met List.not_mem_nil
    | some metadata =>
      rw [walkModule_of_declared again declared] at met
      rcases Trail.mem_visits_andThen met with own | below
      · obtain ⟨trail, member, here⟩ := Trail.exists_mem_of_mem_visits_sequence own
        obtain ⟨provider, listed, rfl⟩ := List.mem_map.mp member
        exact ⟨provider, ⟨cls, metadata, .refl, declared, listed⟩, plain_of_visitProvider here claims⟩
      · obtain ⟨trail, member, here⟩ := Trail.exists_mem_of_mem_visits_sequence below
        obtain ⟨imported, listed, rfl⟩ := List.mem_map.mp member
        rcases Trail.mem_visits_andThen here with walked | finish
        · have plain := ih metadata again declared imported listed visit walked other claims
          exact plain.of_import ⟨metadata, declared, listed⟩
        · obtain rfl := List.mem_singleton.mp finish
          cases claims

end Registry

namespace Composition

variable {host : MetadataSource} {registry : Registry} {resolver : Resolver} {root : Class}
  {app : App} {ledger : Ledger}

theorem sameButTags_of_compose (registry : Registry) (root : Class) (app : App) (ledger : Ledger) :
    registry.SameButTags root (compose registry root app ledger).1.2 := by
  obtain ⟨classes, handed, claims⟩ := exists_claimed_of_compose registry root app ledger
  rw [handed]
  refine ⟨Registry.name_foldl_claimTag registry classes,
    Registry.entries_foldl_claimTag registry classes,
    fun cls tag bound => Registry.bound_foldl_claimTag bound classes, fun cls tag found => ?_⟩
  rcases Registry.get?_foldl_claimTag found with before | ⟨claimed, canonical⟩
  · exact .inl before
  · refine .inr ⟨canonical, ?_⟩
    rcases claims cls claimed with logger | ⟨visit, met, claim⟩
    · exact .inl logger
    · right
      refine Registry.plainProvider_claimTag .logger ?_
      exact Registry.plainProvider_of_walkModule app [] root visit met cls claim

end Composition

end Trellis
