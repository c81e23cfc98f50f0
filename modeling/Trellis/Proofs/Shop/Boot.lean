import Trellis.Proofs.Composition.Lookup
import Trellis.Proofs.Composition.Unstopped
import Trellis.Proofs.Resolution.Tiers
import Trellis.Proofs.Shop.Stock
import Trellis.Shop.Basic
/-!
# Opening the shop

Wherever the shop is known as it declares itself, each of its modules can be started, under any
configuration: it is composed, its services are realized and its controllers are wired, and both the
shop and the cart's controller have the one cart and the one catalog.

* `exists_composed` and `exists_services`: the composition and its services.
* `exists_wired`: the turn of one of the shop's controllers.
* `exists_open`: what a start comes to, as an `Open` shop.
-/

namespace Trellis.Shop

open Trellis.Composition

variable {registry : Registry} {app : App} {ledger : Ledger} {root declared : Declared}
  {blueprint : Blueprint} {handle : Handle} {composition : Composition}

/-! ## The composition -/

theorem moduleMetadata?_of_stocked (kept : Kept registry) (stocked : Stocked registry)
    (member : declared ∈ modules) :
    registry.moduleMetadata? declared.cls = some declared.metadata := by
  obtain ⟨metadata, found⟩ := Option.isSome_iff_exists.mp (stocked.modules declared member)
  rw [found, kept.modules declared member metadata found]

theorem serviceMetadata?_of_stocked (kept : Kept registry) (stocked : Stocked registry)
    (member : blueprint ∈ services) :
    registry.serviceMetadata? blueprint.cls =
      some
        { tag := .canonical registry.name blueprint.cls
          implementation := blueprint.handle .provider } := by
  obtain ⟨metadata, found⟩ := Option.isSome_iff_exists.mp (stocked.services blueprint member)
  rw [found, kept.services blueprint member metadata found]

/-- What one of the shop's services provides. -/
def provision (registry : Registry) (app : App) (blueprint : Blueprint) : Provision where
  tag := .canonical registry.name blueprint.cls
  label := blueprint.cls.name
  build _ := blueprint.constructor app.args

theorem visitProvider_of_stocked (kept : Kept registry) (stocked : Stocked registry) (app : App)
    (member : blueprint ∈ services) :
    registry.visitProvider app (blueprint.handle .provider) =
      .single (.service (provision registry app blueprint)) := by
  have known : registry.serviceMetadata? (blueprint.handle .provider).cls = _ :=
    serviceMetadata?_of_stocked kept stocked member
  unfold Registry.visitProvider
  rw [known]
  rfl

theorem provision?_of_stocked (kept : Kept registry) (stocked : Stocked registry) (app : App)
    (member : blueprint ∈ services) :
    registry.provision? app (blueprint.handle .provider) =
      some (provision registry app blueprint) := by
  have known : registry.serviceMetadata? (blueprint.handle .provider).cls = _ :=
    serviceMetadata?_of_stocked kept stocked member
  unfold Registry.provision?
  rw [known]
  rfl

/-- The walk meets no fault: the store's providers are services, and the shop imports the store. -/
theorem fault_walkModule_of_stocked (kept : Kept registry) (stocked : Stocked registry) (app : App)
    (member : root ∈ modules) : (registry.walkModule app [] root.cls).fault = none := by
  have inStore : ∀ stack, store.cls ∉ stack →
      (registry.walkModule app stack store.cls).fault = none := by
    intro stack fresh
    rw [Registry.walkModule_of_declared fresh
      (moduleMetadata?_of_stocked kept stocked store_mem_modules), Trail.fault_andThen,
      Option.or_eq_none_iff, Trail.fault_sequence_eq_none_iff]
    refine ⟨fun trail visited => ?_, rfl⟩
    obtain ⟨provider, listed, rfl⟩ := List.mem_map.mp visited
    obtain ⟨blueprint, among, rfl⟩ := List.mem_map.mp listed
    rw [visitProvider_of_stocked kept stocked app among]
    rfl
  rcases List.mem_pair.mp member with rfl | rfl
  · exact inStore [] List.not_mem_nil
  · rw [Registry.walkModule_of_declared List.not_mem_nil
      (moduleMetadata?_of_stocked kept stocked member), Trail.fault_andThen, Option.or_eq_none_iff,
      Trail.fault_sequence_eq_none_iff, Trail.fault_sequence_eq_none_iff]
    refine ⟨nofun, fun trail visited => ?_⟩
    obtain ⟨imported, listed, rfl⟩ := List.mem_map.mp visited
    obtain rfl : imported = store.cls := List.mem_singleton.mp listed
    rw [Trail.fault_andThen, inStore _ (by decide)]
    rfl

/-- The providers are those of the store. -/
theorem preorder_of_stocked (kept : Kept registry) (stocked : Stocked registry)
    (member : root ∈ modules) :
    registry.Preorder [root.cls] (services.map (·.handle .provider)) := by
  have inStore : registry.Preorder [store.cls] (services.map (·.handle .provider)) :=
    .cons (moduleMetadata?_of_stocked kept stocked store_mem_modules) .nil .nil
  rcases List.mem_pair.mp member with rfl | rfl
  · exact inStore
  · exact .cons (moduleMetadata?_of_stocked kept stocked member) inStore .nil

/-- Both modules lead to the store and to nothing else. -/
theorem modules_of_compose (kept : Kept registry) (stocked : Stocked registry)
    (member : root ∈ modules)
    (composed : (compose registry root.cls app ledger).1.1 = .ok composition) :
    store ∈ composition.modules ∧ ∀ declared ∈ composition.modules, declared ∈ modules := by
  have inStore := moduleMetadata?_of_stocked kept stocked store_mem_modules
  obtain ⟨metadata, passed, known, postorder, own, imported⟩ := exists_imported_of_compose composed
  obtain rfl : root.metadata = metadata :=
    Option.some.inj ((moduleMetadata?_of_stocked kept stocked member).symm.trans known)
  have found : registry.declared? store.cls = some store := by
    rw [Registry.declared?, inStore]
    rfl
  rw [Composition.modules, own, imported]
  rcases List.mem_pair.mp member with rfl | rfl
  · obtain rfl := postorder.unique .nil
    exact ⟨List.mem_cons_self, by simpa using member⟩
  · obtain rfl := postorder.unique (.cons inStore .nil .nil)
    have once : ([] ++ [storeModule] ++ []).eraseDups = [store.cls] := by decide
    rw [once, List.filterMap_cons_some found]
    exact ⟨by simp, by simpa using ⟨member, store_mem_modules⟩⟩

/-- Each module of the shop can be composed, into the logger and the store's services. -/
theorem exists_composed (kept : Kept registry) (stocked : Stocked registry) (app : App)
    (ledger : Ledger) (member : root ∈ modules) :
    ∃ composition logger, (compose registry root.cls app ledger).1.1 = .ok composition ∧
      logger.cls = .logger ∧
      composition.layer = (Layer.succeed (registry.tagOf .logger) logger).merge
        (services.map (provision registry app)) := by
  have clean := fault_walkModule_of_stocked (kept.foldl_claimTag [.logger])
    (stocked.foldl_claimTag [.logger]) app member
  have declared := moduleMetadata?_of_stocked kept stocked member
  obtain ⟨composition, composed⟩ : ∃ composition,
      (compose registry root.cls app ledger).1.1 = .ok composition :=
    ⟨_, congrArg Prod.fst (compose_of_clean declared clean)⟩
  obtain ⟨walk, preorder, layer⟩ := exists_layer_of_compose composed
  obtain rfl := preorder.unique (preorder_of_stocked kept stocked member)
  have provided : (services.map (·.handle .provider)).filterMap (registry.provision? app) =
      services.map (provision registry app) := by
    rw [List.filterMap_map, ← List.filterMap_eq_map]
    refine List.filterMap_congr fun blueprint among => ?_
    exact provision?_of_stocked kept stocked app among
  rw [provided] at layer
  exact ⟨composition, _, composed, rfl, layer⟩

/-! ## The services -/

/-- The services of a shop: the logger, the catalog and the cart. -/
def stock (registry : Registry) (logger catalog cart : Instance) : Context :=
  [ (registry.tagOf .logger, logger),
    (.canonical registry.name catalogService.cls, catalog),
    (.canonical registry.name cartService.cls, cart) ]

/-- An instance of a service's class, built with a configuration. -/
structure Serves (blueprint : Blueprint) (config : AppConfig) (subject : Instance) : Prop where
  cls : subject.cls = blueprint.cls
  configured : ∃ base, subject.base? = some base ∧ base.config = config

theorem exists_serves (app : App) (member : blueprint ∈ services) (ledger : Ledger) :
    ∃ subject later, (blueprint.constructor app.args).run ledger = (.ok subject, later) ∧
      Serves blueprint app.config subject := by
  have making : ∀ blueprint ∈ services, blueprint.making = .service ∧ blueprint.required = [] := by
    simp [services, catalogService, cartService]
  obtain ⟨service, undemanding⟩ := making blueprint member
  obtain ⟨subject, base, later, made, own, -, based, configured⟩ :=
    Blueprint.exists_made (.inl service) undemanding (rfl : app.args.logger = _) ledger
  exact ⟨subject, later, made, own, base, based, configured⟩

/-- The services are realized one after the other, for no two of them share a tag. -/
theorem exists_services (kept : Kept registry) (app : App) (logger : Instance) (ledger : Ledger) :
    ∃ catalog cart after,
      ((Layer.succeed (registry.tagOf .logger) logger).merge
        (services.map (provision registry app))).build.run ledger =
          (.ok (stock registry logger catalog cart), after) ∧
      Serves catalogService app.config catalog ∧ Serves cartService app.config cart := by
  obtain ⟨catalog, mid, madeCatalog, servesCatalog⟩ :=
    exists_serves app catalog_mem_services ledger
  obtain ⟨cart, after, madeCart, servesCart⟩ :=
    exists_serves app cart_mem_services mid
  refine ⟨catalog, cart, after, ?_, servesCatalog, servesCart⟩
  have distinct : ((Layer.succeed (registry.tagOf .logger) logger).merge
      (services.map (provision registry app))).firsts [] =
        (Layer.succeed (registry.tagOf .logger) logger).merge
          (services.map (provision registry app)) := by
    have first := kept.tagOf_ne (by decide : Class.logger ≠ catalogService.cls)
    have second := kept.tagOf_ne (by decide : Class.logger ≠ cartService.cls)
    have apart : catalogService.cls ≠ cartService.cls := by decide
    simp [Layer.succeed, Layer.merge, services, provision, Layer.firsts, first.symm, second.symm,
      apart.symm]
  rw [Layer.build_eq_runAll, distinct, Layer.runAll_eq_ok_iff]
  exact .cons rfl (.cons madeCatalog (.cons madeCart (.nil _ _)))

section Stock

variable {logger catalog cart : Instance} {config : AppConfig}

theorem ofClass?_stock (registry : Registry) (own : logger.cls = .logger) (catalogs : Serves catalogService config catalog)
    (carts : Serves cartService config cart) :
    (stock registry logger catalog cart).ofClass? catalogService.cls = some catalog ∧
      (stock registry logger catalog cart).ofClass? cartService.cls = some cart := by
  have first : Class.logger ≠ catalogService.cls := by decide
  have second : Class.logger ≠ cartService.cls := by decide
  have apart : catalogService.cls ≠ cartService.cls := by decide
  simp [stock, Context.ofClass?, Table.values, Instance.isOf, own, catalogs.cls,
    carts.cls, first, second, apart]

theorem find?_stock (kept : Kept registry) :
    (stock registry logger catalog cart).find? (.canonical registry.name cartService.cls) =
      some cart := by
  have first := kept.tagOf_ne (by decide : Class.logger ≠ cartService.cls)
  have apart : catalogService.cls ≠ cartService.cls := by decide
  simp [stock, Context.find?, Table.get?, first, apart]

end Stock

/-! ## The controllers -/

/-- The resolution of a controller by its signature alone. -/
def resolutionOf (declared : Declared) (handle : Handle) : Resolution :=
  resolveParams (Signature.params handle.signature) declared.available

/-- All parameters of the shop's controllers match services of the shop, or the framework supplies
them. -/
theorem resolutionOf_complete (member : declared ∈ modules)
    (listed : handle ∈ declared.metadata.controllers) :
    (resolutionOf declared handle).unresolved = [] ∧
      ∀ cls ∈ (resolutionOf declared handle).dependencies, cls ∈ services.map (·.cls) := by
  have all : ∀ declared ∈ modules, ∀ handle ∈ declared.metadata.controllers,
      (resolutionOf declared handle).unresolved = [] ∧
        ∀ cls ∈ (resolutionOf declared handle).dependencies, cls ∈ services.map (·.cls) := by
    decide +kernel
  exact all declared member handle listed

/-- The names in the signature of the cart's controller are guessed right. -/
theorem dependencies_cartController :
    (resolutionOf store (cartController.handle .controller)).dependencies =
      [cartService.cls, catalogService.cls] := by
  decide +kernel

/-- No other controller is of the class of the cart's. -/
theorem eq_of_cartController (member : declared ∈ modules)
    (listed : handle ∈ declared.metadata.controllers) (same : handle.cls = cartController.cls) :
    declared = store ∧ handle = cartController.handle .controller := by
  rcases List.mem_pair.mp member with rfl | rfl
  · rcases List.mem_pair.mp listed with rfl | rfl
    · exact absurd same (by decide)
    · exact ⟨rfl, rfl⟩
  · obtain rfl := List.mem_singleton.mp listed
    exact absurd same (by decide)

/-- A host that names no types for the shop's controllers. -/
def Silent (host : MetadataSource) : Prop :=
  ∀ blueprint ∈ controllers, host.injectableTypes (blueprint.handle .controller) = []

theorem silent_emitted : Silent .emitted := by
  simp [Silent, controllers, MetadataSource.injectableTypes, MetadataSource.emitted,
    Blueprint.handle, catalogController, cartController, healthController]

section Wired

variable {catalogue : Catalogue} {reflection : Reflection} {before after : Assembly}
  {logger catalog cart : Instance} {config : AppConfig} {ledger : Ledger}

/-- Nothing but the signature tells of the types of a controller's parameters. -/
theorem resolution_eq_resolutionOf (kept : Kept reflection.store) (silent : Silent reflection.host)
    (member : declared ∈ modules) (listed : handle ∈ declared.metadata.controllers) :
    declared.resolution reflection handle = resolutionOf declared handle := by
  obtain ⟨blueprint, among, rfl, -⟩ := exists_controller member listed
  have untold : (MetadataSource.ofRegistry reflection.store).injectableTypes
      (blueprint.handle .controller) = [] := by
    have unwritten : reflection.store.read (blueprint.handle .controller).cls
        { key := MetadataKey.paramTypes } = none :=
      kept.types _ (controller_mem_classes among)
    simp only [MetadataSource.injectableTypes, MetadataSource.ofRegistry, unwritten]
  show resolve reflection _ (Signature.params _) _ = _
  rw [resolve, Reflection.constructorTypes?_eq_none (silent blueprint among) untold]
  rfl

/-- A controller of the shop as it is wired: it has the services, and its object has what its signature
asks for. -/
structure Made (realized : Context) (declared : Declared) (handle : Handle) (wired : Wired) :
    Prop where
  cls : wired.cls = handle.cls
  services : wired.controller.services = realized
  subject : wired.controller.subject.cls = handle.cls
  received : wired.controller.subject.received = (resolutionOf declared handle).injected realized

/-- Each of the shop's controllers is wired at its turn. -/
theorem exists_wired (kept : Kept reflection.store) (silent : Silent reflection.host)
    (ignores : reflection.host.IgnoresConstructors) (described : reflection.store.Described catalogue)
    (own : logger.cls = .logger) (catalogs : Serves catalogService config catalog)
    (carts : Serves cartService config cart) (member : declared ∈ modules)
    (lists : reflection.store.Lists declared handle)
    (coherent : before.resolver.Coherent catalogue reflection)
    (stocked : before.composition.services = stock registry logger catalog cart)
    {outcome : Except Stop Wired} (turn : Turn reflection declared handle before outcome after) :
    ∃ wired, outcome = .ok wired ∧
      Made (stock registry logger catalog cart) declared handle wired := by
  have resolution : before.resolution reflection declared handle = resolutionOf declared handle :=
    (coherent.resolution described ignores lists).trans
      (resolution_eq_resolutionOf kept silent member lists.listed)
  obtain ⟨complete, within⟩ := resolutionOf_complete member lists.listed
  obtain ⟨blueprint, among, rfl, making, undemanding⟩ := exists_controller member lists.listed
  have realized : ∀ cls ∈ services.map (·.cls),
      ((stock registry logger catalog cart).ofClass? cls).isSome := by
    obtain ⟨first, second⟩ := ofClass?_stock registry own catalogs carts
    simp [services, first, second]
  have whole : before.omitted reflection declared (blueprint.handle .controller) = [] := by
    rw [Assembly.omitted, resolution, stocked, Resolution.omitted, complete, List.map_nil,
      List.nil_append, List.map_eq_nil_iff, List.filter_eq_nil_iff]
    intro cls dependency
    simpa [Option.isSome_iff_ne_none] using realized cls (within cls dependency)
  let args := before.args reflection declared (blueprint.handle .controller)
  have made := Blueprint.exists_made (.inr making) undemanding
    (rfl : args.logger = some before.composition.app.logger)
  obtain ⟨subject, ledger, later, wired, ran⟩ := turn.exists_wired whole rfl fun ledger => by
    obtain ⟨subject, -, later, ran, -⟩ := made ledger
    exact ⟨subject, later, ran⟩
  obtain ⟨object, base, last, again, cls, received, -⟩ := made ledger
  obtain ⟨same, -⟩ := Prod.mk.inj (ran.symm.trans again)
  obtain rfl := Except.ok.inj same
  refine ⟨_, wired, rfl, stocked, cls, ?_⟩
  show subject.received = _
  rw [received, ← stocked, ← resolution]
  rfl

/-- The cart's controller is found, with the services of the shop, and it received the cart. -/
theorem exists_typedController (own : logger.cls = .logger)
    (catalogs : Serves catalogService config catalog) (carts : Serves cartService config cart)
    (planned : (store.cls, cartController.cls) ∈ composition.controllers.map Wired.place)
    (all : ∀ wired ∈ composition.controllers, ∃ declared ∈ modules,
      ∃ handle ∈ declared.metadata.controllers,
        Made (stock registry logger catalog cart) declared handle wired) :
    ∃ controller, composition.typedController? cartController.cls = some controller ∧
      controller.services = stock registry logger catalog cart ∧
      received controller cartService = .ok cart := by
  obtain ⟨other, there, placed⟩ := List.mem_map.mp planned
  have some : (composition.controllers.find? (·.cls = cartController.cls)).isSome :=
    List.find?_isSome.mpr ⟨other, there, by simpa using (Prod.mk.inj placed).2⟩
  obtain ⟨wired, found⟩ := Option.isSome_iff_exists.mp some
  have same : wired.cls = cartController.cls := by simpa using List.find?_some found
  obtain ⟨declared, module, handle, listed, made⟩ := all wired (List.mem_of_find?_eq_some found)
  obtain ⟨rfl, rfl⟩ := eq_of_cartController module listed (made.cls.symm.trans same)
  refine ⟨wired.controller, ?_, made.services, ?_⟩
  · have typed : wired.controller.subject.cls = cartController.cls := made.subject
    simp [typedController?, Composition.controller?, found, Instance.isOf, typed]
  · -- The cart was injected first, as the first parameter asks for it.
    obtain ⟨first, second⟩ := ofClass?_stock registry own catalogs carts
    have injected : wired.controller.subject.received = [cart, catalog] := by
      rw [made.received, Resolution.injected, dependencies_cartController]
      simp [first, second]
    simp [Shop.received, Instance.dependency?, injected, Instance.isOf, carts.cls]

end Wired

/-! ## The open shop -/

/-- A shop that is open: through its cart's controller and through itself one finds one cart, which is
empty, and the controller was given that very cart. -/
structure Open (config : AppConfig) (shop : Shop) (controller : Controller)
    (catalog cart : Instance) : Prop where
  hasController : shop.controller? cartController = some controller
  hasService : shop.service? cartService = some cart
  empty : shop.carts = []
  findsCatalog : controller.service catalogService.cls = .ok catalog
  findsCart : controller.service cartService.cls = .ok cart
  given : received controller cartService = .ok cart
  configured : ∃ base, catalog.base? = some base ∧ base.config = config

theorem fst_start (module : Class) (config : AppConfig) (shared : Shared) (ledger : Ledger) :
    (Shop.start module config shared ledger).1.1 =
      let started := (Composition.start shared.hostInUse shared.registry shared.resolver module config
        "" ledger).1
      started.result.map fun composition => { composition, registry := started.registry } :=
  rfl

/-- Whatever was decorated and started before, and whatever the configuration: the shop opens. -/
theorem exists_open {catalogue : Catalogue} {host : MetadataSource} {shared : Shared}
    (reached : shared.Reached host (Permits catalogue)) (ignores : host.IgnoresConstructors)
    (silent : Silent host) (stocked : Stocked shared.registry) (member : root ∈ modules)
    (config : AppConfig) (ledger : Ledger) :
    ∃ shop controller catalog cart, (Shop.start root.cls config shared ledger).1.1 = .ok shop ∧
      Open config shop controller catalog cart := by
  have kept := kept_of_reached reached
  rw [← reached.hostInUse_eq] at ignores silent
  obtain ⟨onComposed, onReady, begun, start⟩ := exists_bootstrap_eq_start shared.hostInUse
    shared.registry shared.resolver root.cls config "" ledger
  obtain ⟨composition, logger, composed, own, layer⟩ :=
    exists_composed kept stocked (.ofConfig config) begun member
  obtain ⟨opening, stop, final, setsUp, ran⟩ := exists_bootstrap_of_composed shared.hostInUse
    shared.resolver onComposed onReady composed
  obtain ⟨catalog, cart, after, built, catalogs, carts⟩ :=
    exists_services kept (.ofConfig config) logger opening
  -- What was composed stands in the registry after it, in which tags have been handed out.
  obtain ⟨handed, claims, -⟩ :=
    exists_claimed_of_compose shared.registry root.cls (.ofConfig config) begun
  have claimed := kept.foldl_claimTag handed
  have still := stocked.foldl_claimTag handed
  rw [← claims] at claimed still
  obtain ⟨described, coherent⟩ := Shared.coherent_composed
    (reached.coherent fun _ _ permitted => permitted.general) root.cls (.ofConfig config) begun
  have stands := moduleMetadata?_claimed_of_compose composed
  obtain ⟨inStore, within⟩ := modules_of_compose kept stocked member composed
  obtain ⟨rfl, realized, placed, all⟩ := setsUp.forall_made (fresh_of_compose composed)
    (layer ▸ built)
    (fun declared module handle listed resolver known =>
      known.learning described ⟨stands declared module, listed⟩) coherent
    fun declared module handle listed mid outcome later remembers services _ turn =>
      exists_wired claimed silent ignores described own catalogs carts (within declared module)
        ⟨stands declared module, listed⟩ remembers services turn
  have planned : (store.cls, cartController.cls) ∈ composition.plan :=
    List.mem_flatMap.mpr ⟨store, inStore, by simp [store, Blueprint.handle]⟩
  obtain ⟨controller, found, looks, given⟩ := exists_typedController own catalogs carts
    (placed ▸ planned) fun wired listed => by
      obtain ⟨declared, module, made⟩ := all wired listed
      exact ⟨declared, within declared module, made⟩
  obtain ⟨first, second⟩ := ofClass?_stock shared.registry own catalogs carts
  let later := (compose shared.registry root.cls (.ofConfig config) begun).1.2
  refine ⟨{ composition := final.composition, registry := later }, controller, catalog, cart, ?_,
    found, ?_, rfl, ?_, ?_, given, catalogs.configured⟩
  · rw [fst_start, ← start, ran]
    rfl
  · have tag : later.serviceTag? cartService.cls =
        some (.canonical shared.registry.name cartService.cls) := by
      rw [Registry.serviceTag?, serviceMetadata?_of_stocked claimed still cart_mem_services, claims,
        Registry.name_foldl_claimTag]
      rfl
    show final.composition.service? later cartService.cls = some cart
    simp [Composition.service?, lookupTag, tag, serviceOfTag?, realized, find?_stock kept,
      Instance.isOf, carts.cls]
  · rw [Controller.service_eq_ok_iff, looks, first]
  · rw [Controller.service_eq_ok_iff, looks, second]

end Trellis.Shop
