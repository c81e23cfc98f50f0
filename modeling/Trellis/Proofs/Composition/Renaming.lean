import Trellis.Composition.Application
import Trellis.Proofs.Composition.Process
import Trellis.Proofs.Composition.Services
import Trellis.Proofs.Metadata.Renaming
import Trellis.Proofs.Resolution.Memory
/-!
# Bootstraps under other tags

A module is bootstrapped on two registries that say the same under other tags, in any two states. The
walk over the imports meets the same and stops at the same fault; the layers differ in their tags, the
realized services in their tags and identities; and every controller is resolved, refused or made
alike. So both bootstraps end with the same error, or with the same report.

* `walkModule_renamed`: the walk.
* `compose_renamed`: what it is made into.
* `Turn.twin`, `Wiring.twin` and `SetsUp.twin`: a set-up, turn by turn.
* `bootstrap_renamed` joins them.
-/

namespace Trellis

variable {rename : Tag → Tag}

/-! ## The walk -/

def Provision.under (rename : Tag → Tag) (provision : Provision) : Provision :=
  { provision with tag := rename provision.tag }

/-- The visit of a provider that provides under another tag. -/
def Visit.under (rename : Tag → Tag) : Visit → Visit
  | service provision => service (provision.under rename)
  | plain cls provision => plain cls (provision.under rename)
  | unusable cls => unusable cls
  | imported importer cls => imported importer cls

namespace Trail

def under (rename : Tag → Tag) (trail : Trail) : Trail :=
  { trail with visits := trail.visits.map (Visit.under rename) }

theorem under_andThen (rename : Tag → Tag) (first second : Trail) :
    (first.andThen second).under rename = (first.under rename).andThen (second.under rename) := by
  unfold andThen
  cases fault : first.fault <;> simp [under, fault]

theorem under_sequence (rename : Tag → Tag) (trails : List Trail) :
    (sequence trails).under rename = sequence (trails.map (under rename)) := by
  induction trails with
  | nil => rfl
  | cons first rest ih =>
    show (first.andThen (sequence rest)).under rename = _
    rw [under_andThen, ih]
    rfl

theorem layer_under (rename : Tag → Tag) (trail : Trail) :
    (trail.under rename).layer = trail.layer.map (Provision.under rename) := by
  rw [layer, layer, under, List.filterMap_map, List.map_filterMap]
  congr 1
  funext visit
  cases visit <;> rfl

theorem imports_under (rename : Tag → Tag) (trail : Trail) :
    (trail.under rename).imports = trail.imports := by
  rw [imports, imports, under, List.filterMap_map]
  congr 2
  funext visit
  cases visit <;> rfl

end Trail

namespace Registry

variable {registry other : Registry} {app : App}

theorem Renamed.visitProvider (renamed : registry.Renamed rename other) (app : App)
    (provider : Handle) :
    other.visitProvider app provider = (registry.visitProvider app provider).under rename := by
  unfold Registry.visitProvider
  rw [renamed.services, renamed.serviceConstructor?]
  cases registry.serviceMetadata? provider.cls with
  | none =>
    cases registry.serviceConstructor? provider with
    | none => rfl
    | some construct =>
      simp only [Option.map_none, plainProvision, renamed.tags]
      rfl
  | some metadata =>
    simp only [Option.map_some, ServiceMetadata.provision, ServiceMetadata.under]
    cases metadata.implementation.serviceConstructor.or provider.serviceConstructor <;> rfl

/-- Both walks meet the same, provisions under other tags, and stop at the same fault. -/
theorem Renamed.walkModule (renamed : registry.Renamed rename other) (app : App)
    (stack : List Class) (cls : Class) :
    other.walkModule app stack cls = (registry.walkModule app stack cls).under rename := by
  induction stack, cls using walk_induction registry with
  | step stack cls ih =>
    by_cases met : cls ∈ stack
    · rw [walkModule_of_mem met, walkModule_of_mem met]
      rfl
    have again := renamed.modules cls
    cases declared : registry.moduleMetadata? cls with
    | none =>
      rw [declared] at again
      rw [walkModule_of_undeclared met declared, walkModule_of_undeclared met again]
      rfl
    | some metadata =>
      rw [declared] at again
      have imports : ∀ imported ∈ metadata.imports,
          (other.walkModule app (stack ++ [cls]) imported).andThen
              (.single (.imported cls imported)) =
            ((registry.walkModule app (stack ++ [cls]) imported).andThen
              (.single (.imported cls imported))).under rename := by
        intro imported listed
        rw [ih metadata met declared imported listed, Trail.under_andThen]
        rfl
      rw [walkModule_of_declared met declared, walkModule_of_declared met again,
        Trail.under_andThen, Trail.under_sequence, Trail.under_sequence, List.map_map, List.map_map,
        List.map_congr_left imports, funext (renamed.visitProvider app)]
      rfl

/-- What a walk without a fault gathers is built by constructors that the registry holds. -/
theorem exists_finds_of_mem_layer {stack : List Class} {cls : Class} {provision : Provision}
    (clean : (registry.walkModule app stack cls).fault = none)
    (member : provision ∈ (registry.walkModule app stack cls).layer) :
    ∃ construct args, registry.Finds construct ∧ provision.build = fun _ => construct args := by
  obtain ⟨walk, preorder, layer⟩ := exists_layer_of_clean registry app stack cls clean
  rw [layer] at member
  obtain ⟨provider, walked, provided⟩ := List.mem_filterMap.mp member
  obtain ⟨_, -, module, declaration, -, declared, listed⟩ := preorder.mem_iff.mp walked
  unfold Registry.provision? at provided
  cases service : registry.serviceMetadata? provider.cls with
  | none =>
    -- The provider is constructed without arguments.
    rw [service] at provided
    obtain ⟨construct, known, rfl⟩ := Option.map_eq_some_iff.mp provided
    exact ⟨construct, {}, .provider declared listed known, rfl⟩
  | some metadata =>
    rw [service] at provided
    cases known : metadata.implementation.serviceConstructor.or provider.serviceConstructor with
    | none => simp [ServiceMetadata.provision, known, Except.toOption] at provided
    | some construct =>
      simp only [ServiceMetadata.provision, known, Except.toOption, Option.some.injEq] at provided
      subst provided
      refine ⟨construct, app.args, ?_, rfl⟩
      rcases Option.or_eq_some_iff.mp known with first | ⟨-, second⟩
      · exact .service service first
      · exact .provider declared listed (Option.or_eq_some_iff.mpr (.inl second))

/-- What a walk of a steady registry gathers is built alike under other tags. -/
theorem Steady.renamed_layer (steady : registry.Steady) (rename : Tag → Tag) {stack : List Class}
    {cls : Class} (clean : (registry.walkModule app stack cls).fault = none) :
    List.Forall₂ (Provision.Renamed rename) (registry.walkModule app stack cls).layer
      ((registry.walkModule app stack cls).layer.map (Provision.under rename)) := by
  rw [List.forall₂_map_right_iff, List.forall₂_same]
  intro provision member
  obtain ⟨construct, args, finds, built⟩ := exists_finds_of_mem_layer clean member
  refine ⟨rfl, rfl, fun given again _ => ?_⟩
  show Build.Twins Instance.Like (provision.build given) (provision.build again)
  rw [built]
  exact steady_iff.mp steady construct finds args args rfl

end Registry

/-! ## Composing -/

namespace Composition

/-- Compositions of one module that differ in their tags and in the identities of what they hold; of
the controllers they tell the same. -/
structure Renamed (rename : Tag → Tag) (one other : Composition) : Prop where
  root : other.root = one.root
  imported : other.imported = one.imported
  app : other.app = one.app
  layer : List.Forall₂ (Provision.Renamed rename) one.layer other.layer
  stage : other.stage = one.stage
  services : one.services.Renamed rename other.services
  controllers : other.controllers.map Wired.report = one.controllers.map Wired.report

theorem Renamed.report_eq (keeps : Tag.Renaming rename) {one other : Composition}
    (renamed : one.Renamed rename other) : one.report = other.report := by
  have services :
      one.services.map (fun entry => ServiceReport.mk entry.1.identifier entry.2.cls.name) =
        other.services.map fun entry => ServiceReport.mk entry.1.identifier entry.2.cls.name :=
    renamed.services.map_eq fun tag subject again like => by
      rw [keeps.identifier, like.cls]
  unfold report imports
  rw [renamed.root, renamed.imported, renamed.app, renamed.stage, renamed.controllers, services]

variable {registry other : Registry}

/-- A module is composed alike on both registries, and what is left of them says the same again. -/
theorem compose_renamed (renamed : registry.Renamed rename other) (steady : registry.Steady)
    (root : Class) (app : App) (ledger later : Ledger) :
    Steps.Matches (Renamed rename) (compose registry root app ledger).1.1
        (compose other root app later).1.1 ∧
      (compose registry root app ledger).1.2.Renamed rename (compose other root app later).1.2 ∧
      (compose registry root app ledger).1.2.Steady := by
  obtain ⟨classes, claimed, -⟩ := exists_claimed_of_compose registry root app ledger
  obtain ⟨others, reclaimed, -⟩ := exists_claimed_of_compose other root app later
  refine ⟨?_, by rw [claimed, reclaimed]; exact renamed.foldl_claimTag classes others,
    by rw [claimed]; exact steady.foldl_claimTag classes⟩
  have handed : (registry.claimTag .logger).Renamed rename (other.claimTag .logger) :=
    renamed.foldl_claimTag [.logger] [.logger]
  have modules := renamed.modules root
  cases declared : registry.moduleMetadata? root with
  | none =>
    rw [declared] at modules
    rw [compose_of_undeclared declared, compose_of_undeclared modules]
    exact .error _
  | some metadata =>
    rw [declared] at modules
    have walk := handed.walkModule app [] root
    have fault := congrArg Trail.fault walk
    cases stopped : ((registry.claimTag .logger).walkModule app [] root).fault with
    | some error =>
      rw [compose_of_fault declared stopped, compose_of_fault modules (fault.trans stopped)]
      exact .error error
    | none =>
      rw [compose_of_clean declared stopped, compose_of_clean modules (fault.trans stopped)]
      refine .ok ⟨rfl, ?_, rfl, ?_, rfl, .nil, rfl⟩
      · -- What was imported is declared alike.
        have known : (other.claimTag .logger).declared? = (registry.claimTag .logger).declared? := by
          funext cls
          rw [Registry.declared?, Registry.declared?, handed.modules cls]
        simp only [ofTrail, walk, Trail.imports_under, known]
      · have still : (registry.claimTag .logger).Steady := steady.foldl_claimTag [.logger]
        have providers := still.renamed_layer rename stopped
        rw [← Trail.layer_under, ← walk] at providers
        exact .cons ⟨handed.tags .logger, rfl, fun _ _ _ =>
          .pure (Instance.like_newLoggerInstance app.logger ledger later)⟩ providers

end Composition

/-! ## Setting up -/

namespace Registry

/-- Both registries name the same types for a constructor. -/
theorem Renamed.constructorTypes? {registry other : Registry}
    (renamed : registry.Renamed rename other) (host : MetadataSource) (handle : Handle) :
    Reflection.constructorTypes? { host, store := registry } handle =
      Reflection.constructorTypes? { host, store := other } handle := by
  refine Reflection.constructorTypes?_congr rfl ?_
  simp only [MetadataSource.injectableTypes, MetadataSource.ofRegistry, renamed.paramTypes]

end Registry

namespace Composition

/-! ### The turn of a controller

Both compositions hold the same but for tags and identities, and the controller is resolved alike. -/

section Turns

variable {reflection again : Reflection} {declared : Declared} {handle : Handle} {one two : Assembly}

theorem Renamed.omitted (begun : one.composition.Renamed rename two.composition)
    (same : two.resolution again declared handle = one.resolution reflection declared handle) :
    two.omitted again declared handle = one.omitted reflection declared handle := by
  have realized (cls : Class) : (two.composition.services.ofClass? cls).isNone =
      (one.composition.services.ofClass? cls).isNone := by
    have found := congrArg Option.isNone (begun.services.ofClass? cls)
    simpa only [Option.isNone_map] using found.symm
  simp only [Assembly.omitted, same, Resolution.omitted, realized]

theorem Renamed.admits (begun : one.composition.Renamed rename two.composition)
    (same : two.resolution again declared handle = one.resolution reflection declared handle)
    (admits : one.Admits reflection declared handle) : two.Admits again declared handle := by
  rw [Assembly.Admits, begun.omitted same, begun.app]
  exact admits

/-- A constructor is given what differs in identities alone. -/
theorem Renamed.shape_args (begun : one.composition.Renamed rename two.composition)
    (same : two.resolution again declared handle = one.resolution reflection declared handle) :
    (one.args reflection declared handle).shape = (two.args again declared handle).shape := by
  have injected : (one.injected reflection declared handle).map Instance.shape =
      (two.injected again declared handle).map Instance.shape := by
    simp only [Assembly.injected, Resolution.injected, same, List.map_filterMap,
      begun.services.ofClass?]
  simp only [Assembly.args, Args.shape, injected, App.args, begun.app]

/-- The controllers are wired, whatever their constructors made and left in the ledgers. -/
theorem Renamed.wiring (begun : one.composition.Renamed rename two.composition)
    (same : two.resolution again declared handle = one.resolution reflection declared handle)
    (subject object : Instance) (ledger later : Ledger) :
    (one.wiring reflection declared handle subject ledger).composition.Renamed rename
      (two.wiring again declared handle object later).composition := by
  have report : (two.wired again declared handle object).report =
      (one.wired reflection declared handle subject).report := by
    simp only [Wired.report, Assembly.wired, same, begun.services.length_eq]
  refine { begun with controllers := ?_ }
  simp only [Assembly.wiring, List.map_append, begun.controllers, List.map_cons, report]

/-- A controller that had its turn has a turn like it: it goes without the same, and is refused,
unknown or made alike. -/
theorem Turn.twin {outcome : Except Stop Wired} {after : Assembly}
    (turn : Turn reflection declared handle one outcome after)
    (begun : one.composition.Renamed rename two.composition)
    (same : two.resolution again declared handle = one.resolution reflection declared handle)
    (known : again.store.controllerConstructor? handle =
      reflection.store.controllerConstructor? handle)
    (steady : ∀ construct ∈ reflection.store.controllerConstructor? handle,
      Constructor.Deterministic construct) :
    ∃ result later, Turn again declared handle two result later ∧
      Steps.Matches (fun _ _ => True) outcome result ∧
        after.composition.Renamed rename later.composition := by
  have omitted := begun.omitted same
  cases turn with
  | refused omission strict =>
    rw [← omitted] at omission ⊢
    exact ⟨_, _, .refused omission (begun.app ▸ strict), .error _, begun⟩
  | unknown admits unknown =>
    exact ⟨_, _, .unknown (begun.admits same admits) (known.trans unknown), .error _, begun⟩
  | failed admits found failed =>
    -- The constructors begin in different ledgers, which makes no difference to what they make.
    have deterministic := steady _ found _ _ (begun.shape_args same)
    obtain ⟨last, refused⟩ := deterministic.exists_run_of_error trivial failed
    exact ⟨_, _, .failed (begun.admits same admits) (known.trans found) refused, .error _, begun⟩
  | wired admits found made =>
    have deterministic := steady _ found _ _ (begun.shape_args same)
    obtain ⟨object, last, remade, -⟩ := deterministic.exists_run_of_ok trivial made
    exact ⟨_, _, .wired (begun.admits same admits) (known.trans found) remade, .ok trivial,
      begun.wiring same _ object _ last⟩

end Turns

/-! ### All turns, one after the other -/

variable {registry other : Registry} {host : MetadataSource} {one two final : Assembly}
  {stop : Option Stop}

/-- Tasks are done again on the other registry, as far as they were done, with a resolver that gives
the same answers. -/
theorem Wiring.twin {tasks : List Task}
    (wiring : Wiring { host, store := registry } tasks one stop final)
    (begun : one.composition.Renamed rename two.composition)
    (replays : two.resolver.Replays one.resolver final.resolver)
    (renamed : registry.Renamed rename other)
    (steady : ∀ declared handle, .wire declared handle ∈ tasks →
      ∀ construct ∈ registry.controllerConstructor? handle, Constructor.Deterministic construct) :
    ∃ last, Wiring { host, store := other } tasks two stop last ∧
      final.composition.Renamed rename last.composition := by
  induction wiring generalizing two with
  | done final => exact ⟨two, .done two, begun⟩
  | @gather declared rest before final stop _ ih =>
    have gathered : (before.gathered declared).composition.Renamed rename
        (two.gathered declared).composition := begun
    obtain ⟨last, wiring, same⟩ := ih gathered replays fun declared handle later =>
      steady declared handle (List.mem_cons_of_mem _ later)
    exact ⟨last, .gather wiring, same⟩
  | @wired declared handle rest wired before mid final stop turn later ih =>
    have recalled : (before.resolver.learning { host, store := registry } handle
        declared.available).RecalledBy final.resolver := by
      rw [← turn.resolver]
      exact later.recalledBy
    obtain ⟨resolved, kept⟩ := replays.learning (renamed.constructorTypes? host handle) recalled
    obtain ⟨result, next, returned, outcome, composition⟩ := turn.twin begun resolved
      (renamed.controllerConstructor? handle) (steady declared handle List.mem_cons_self)
    cases outcome with
    | ok =>
      rw [← turn.resolver, ← returned.resolver] at kept
      obtain ⟨last, wiring, same⟩ := ih composition kept fun declared handle later =>
        steady declared handle (List.mem_cons_of_mem _ later)
      exact ⟨last, .wired returned wiring, same⟩
  | @stopped declared handle rest before final stop turn =>
    have recalled : (before.resolver.learning { host, store := registry } handle
        declared.available).RecalledBy final.resolver := by
      rw [← turn.resolver]
      exact .refl _
    obtain ⟨resolved, -⟩ := replays.learning (renamed.constructorTypes? host handle) recalled
    obtain ⟨result, next, returned, outcome, composition⟩ := turn.twin begun resolved
      (renamed.controllerConstructor? handle) (steady declared handle List.mem_cons_self)
    cases outcome with
    | error => exact ⟨next, .stopped returned, composition⟩

theorem Renamed.modules {one other : Composition} (renamed : one.Renamed rename other) :
    other.modules = one.modules := by
  rw [Composition.modules, Composition.modules, renamed.root, renamed.imported]

/-- Composed modules are set up alike on both registries, with resolvers that give the same answers:
the same stops both. -/
theorem SetsUp.twin (setsUp : SetsUp { host, store := registry } one stop final)
    (keeps : Tag.Renaming rename) (begun : one.composition.Renamed rename two.composition)
    (replays : two.resolver.Replays one.resolver final.resolver)
    (renamed : registry.Renamed rename other) (steady : registry.Steady)
    (declared : ∀ declared ∈ one.composition.modules,
      registry.moduleMetadata? declared.cls = some declared.metadata) :
    ∃ last, SetsUp { host, store := other } two stop last ∧
      final.composition.Renamed rename last.composition := by
  have tasks : two.composition.tasks = one.composition.tasks := by
    rw [Composition.tasks, begun.modules]
    rfl
  have controllers : ∀ declared handle, .wire declared handle ∈ one.composition.tasks →
      ∀ construct ∈ registry.controllerConstructor? handle,
        Constructor.Deterministic construct := by
    intro module handle listed
    obtain ⟨member, controller⟩ := wire_mem_tasks_iff.mp listed
    exact steady.controllers module.cls module.metadata (declared module member) handle controller
  have layers := Layer.twins_build keeps begun.layer
  have start {services others : Context} (realized : services.Renamed rename others)
      (ledger later : Ledger) : (one.realized services ledger).composition.Renamed rename
        (two.realized others later).composition :=
    { begun with stage := rfl, services := realized }
  cases setsUp with
  | repeated late =>
    rw [← begun.stage] at late ⊢
    exact ⟨two, .repeated late, begun⟩
  | unbuilt composed failed =>
    obtain ⟨later, refused⟩ := layers.exists_run_of_error trivial failed
    exact ⟨_, .unbuilt (begun.stage.trans composed) refused, begun⟩
  | stopped composed built wiring =>
    obtain ⟨others, later, rebuilt, realized⟩ := layers.exists_run_of_ok trivial built
    obtain ⟨last, rewiring, same⟩ :=
      wiring.twin (start realized _ later) replays renamed controllers
    exact ⟨last, .stopped (begun.stage.trans composed) rebuilt (tasks ▸ rewiring), same⟩
  | done composed built wiring =>
    obtain ⟨others, later, rebuilt, realized⟩ := layers.exists_run_of_ok trivial built
    obtain ⟨last, rewiring, same⟩ :=
      wiring.twin (start realized _ later) replays renamed controllers
    exact ⟨last.finished, .done (begun.stage.trans composed) rebuilt (tasks ▸ rewiring),
      { same with stage := rfl }⟩

/-! ### A composed module -/

variable {root : Class} {app : App} {ledger : Ledger}

/-- Composing leaves the modules of a composition declared as they are. -/
theorem moduleMetadata?_claimed_of_compose {one : Composition}
    (composed : (compose registry root app ledger).1.1 = .ok one) :
    ∀ declared ∈ one.modules, (compose registry root app ledger).1.2.moduleMetadata? declared.cls =
      some declared.metadata := by
  obtain ⟨classes, handed, -⟩ := exists_claimed_of_compose registry root app ledger
  rw [handed]
  simpa using moduleMetadata?_of_compose composed

theorem compose_renamed_of_error {error : Error} (renamed : registry.Renamed rename other)
    (steady : registry.Steady) (failed : (compose registry root app ledger).1.1 = .error error)
    (later : Ledger) : (compose other root app later).1.1 = .error error := by
  obtain ⟨composed, -⟩ := compose_renamed renamed steady root app ledger later
  rw [failed] at composed
  generalize (compose other root app later).1.1 = result at composed ⊢
  cases composed
  rfl

/-- What one registry composes, the other one composes as well, and set-ups of both go the same way,
wherever they begin. -/
theorem exists_twin_of_compose (keeps : Tag.Renaming rename)
    (renamed : registry.Renamed rename other) (steady : registry.Steady) {one : Composition}
    (composed : (compose registry root app ledger).1.1 = .ok one) (later : Ledger) :
    ∃ two, (compose other root app later).1.1 = .ok two ∧
      ∀ {resolver again : Resolver} {begun : Ledger} (rebegun : Ledger) {stop : Option Stop}
        {final : Assembly},
        SetsUp { host, store := (compose registry root app ledger).1.2 } ⟨one, resolver, begun⟩ stop
          final → again.Replays resolver final.resolver →
        ∃ last, SetsUp { host, store := (compose other root app later).1.2 } ⟨two, again, rebegun⟩
            stop last ∧
          final.composition.Renamed rename last.composition := by
  obtain ⟨results, claimed, still⟩ := compose_renamed renamed steady root app ledger later
  have declared := moduleMetadata?_claimed_of_compose composed
  rw [composed] at results
  generalize (compose other root app later).1.1 = result at results ⊢
  cases results with
  | @ok _ two same =>
    refine ⟨two, rfl, fun rebegun _ _ setsUp replays => ?_⟩
    exact setsUp.twin keeps same replays claimed still declared

/-! ## Bootstraps -/

/-- A bootstrap comes to what setting up the composed module comes to. -/
theorem result_bootstrap (host : MetadataSource) (registry : Registry) (resolver : Resolver)
    (root : Class) (app : App) (onComposed onReady : Composition → List Event) (ledger : Ledger) :
    ∃ begun : Ledger,
      (bootstrap host registry resolver root app onComposed onReady ledger).1.result =
        match (compose registry root app ledger).1.1 with
        | .error error => .error error
        | .ok composition =>
          let ran := (setup { host, store := (compose registry root app ledger).1.2 }).run
            ⟨composition, resolver, begun⟩
          ran.1.map fun _ => ran.2.composition := by
  rcases composed : compose registry root app ledger with ⟨⟨error | composition, claimed⟩, mid⟩
  · refine ⟨mid, ?_⟩
    simp only [bootstrap, bind, StateT.bind, composed]
    rfl
  · rcases told : emitAll (onComposed composition) mid with ⟨⟨⟩, begun⟩
    refine ⟨begun, ?_⟩
    rcases ran : (setup { host, store := claimed }).run ⟨composition, resolver, begun⟩ with
      ⟨error | ⟨⟩, assembly⟩ <;>
      simp only [bootstrap, bind, StateT.bind, composed, told, setupIn, ran] <;> rfl

/-- Registries that say the same under other tags are bootstrapped alike, whatever was done before. -/
theorem bootstrap_renamed (keeps : Tag.Renaming rename) (renamed : registry.Renamed rename other)
    (steady : registry.Steady) (host : MetadataSource) (resolver : Resolver) (root : Class)
    (app : App) (onComposed onReady : Composition → List Event) (ledger later : Ledger) :
    (bootstrap host registry resolver root app onComposed onReady ledger).1.result.map report =
      (bootstrap host other resolver root app onComposed onReady later).1.result.map report := by
  obtain ⟨begun, first⟩ :=
    result_bootstrap host registry resolver root app onComposed onReady ledger
  obtain ⟨rebegun, second⟩ :=
    result_bootstrap host other resolver root app onComposed onReady later
  rw [first, second]
  cases composed : (compose registry root app ledger).1.1 with
  | error error =>
    rw [compose_renamed_of_error renamed steady composed later]
  | ok one =>
    obtain ⟨two, recomposed, twin⟩ := exists_twin_of_compose keeps renamed steady composed later
    obtain ⟨stop, final, setsUp⟩ := exists_setsUp
      { host, store := (compose registry root app ledger).1.2 } ⟨one, resolver, begun⟩
    obtain ⟨last, again, same⟩ := twin rebegun setsUp (.own resolver final.resolver)
    rw [recomposed]
    dsimp only
    rw [run_setup_of_setsUp setsUp, run_setup_of_setsUp again]
    -- What stops one stops the other, and on success the reports are the same.
    cases stop with
    | some stop => rfl
    | none => exact congrArg Except.ok (same.report_eq keeps)

end Composition

end Trellis
