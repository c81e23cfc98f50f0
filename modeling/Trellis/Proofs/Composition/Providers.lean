import Trellis.Object.Blueprint
import Trellis.Proofs.Composition.Composability
/-!
# The providers of a composition

The walk over the imports gathers a layer. Which provisions that are, and in which order, is said
without the walk: the providers of the modules in depth-first pre-order, a module's own ones before
those of its imports, and for each provider what it provides, if anything.

* `Registry.provision?` is what a provider provides, and `Registry.Instantiates` says which constructor
  that runs, on what.
* `Registry.Preorder` lists the providers that some modules lead to.
-/

namespace Trellis

namespace Registry

/-- What a provider provides: a service under its declared tag, constructed for the application; any
other class under its own tag, constructed without arguments, if it can be. -/
def provision? (registry : Registry) (app : App) (provider : Handle) : Option Provision :=
  match registry.serviceMetadata? provider.cls with
  | some metadata => (metadata.provision provider app).toOption
  | none => (registry.serviceConstructor? provider).map (registry.plainProvision provider.cls)

/-- What makes the instance of a provider: under which tag, by which constructor, of which arguments. -/
inductive Instantiates (registry : Registry) (app : App) (provider : Handle) :
    Tag → Constructor → Args → Prop
  /-- For a service it is the constructor of the implementation, else that of the handle. -/
  | service {metadata : ServiceMetadata} {construct : Constructor}
      (declared : registry.serviceMetadata? provider.cls = some metadata)
      (known : metadata.implementation.serviceConstructor.or provider.serviceConstructor =
        some construct) :
      Instantiates registry app provider metadata.tag construct app.args
  /-- For any other class it is the constructor of the handle, else one that the registry has seen. -/
  | plain {construct : Constructor} (undeclared : registry.serviceMetadata? provider.cls = none)
      (known : registry.serviceConstructor? provider = some construct) :
      Instantiates registry app provider (registry.tagOf provider.cls) construct {}

/-- The class whose tag is handed out for a provider, if it is no service but can be constructed. -/
def claimed? (registry : Registry) (provider : Handle) : Option Class :=
  match registry.serviceMetadata? provider.cls with
  | some _ => none
  | none => (registry.serviceConstructor? provider).map fun _ => provider.cls

/-- The providers of some modules, each module's followed by those of its imports. -/
inductive Preorder (registry : Registry) : List Class → List Handle → Prop
  | nil : Preorder registry [] []
  | cons {cls : Class} {rest : List Class} {metadata : ModuleMetadata} {below later : List Handle}
      (declared : registry.moduleMetadata? cls = some metadata)
      (imports : Preorder registry metadata.imports below)
      (siblings : Preorder registry rest later) :
      Preorder registry (cls :: rest) (metadata.providers ++ below ++ later)

variable {registry : Registry} {app : App} {stack roots : List Class} {root cls : Class}
  {provider : Handle} {walk other : List Handle}

/-! ## What runs for a provider -/

theorem Instantiates.unique {tag again : Tag} {construct other : Constructor} {args given : Args}
    (first : registry.Instantiates app provider tag construct args)
    (second : registry.Instantiates app provider again other given) :
    tag = again ∧ construct = other ∧ args = given := by
  cases first with
  | service declared known =>
    cases second with
    | service redeclared reknown =>
      obtain rfl := Option.some.inj (declared.symm.trans redeclared)
      exact ⟨rfl, Option.some.inj (known.symm.trans reknown), rfl⟩
    | plain undeclared => cases declared.symm.trans undeclared
  | plain undeclared known =>
    cases second with
    | service declared => cases undeclared.symm.trans declared
    | plain _ reknown => exact ⟨rfl, Option.some.inj (known.symm.trans reknown), rfl⟩

/-- What a provider provides runs the constructor that makes its instance, in whatever context. -/
theorem exists_instantiates {provision : Provision}
    (provided : registry.provision? app provider = some provision) :
    ∃ construct args, registry.Instantiates app provider provision.tag construct args ∧
      ∀ context, provision.build context = construct args := by
  unfold provision? at provided
  cases declared : registry.serviceMetadata? provider.cls with
  | none =>
    simp only [declared, Option.map_eq_some_iff] at provided
    obtain ⟨construct, known, rfl⟩ := provided
    exact ⟨construct, {}, .plain declared known, fun _ => rfl⟩
  | some metadata =>
    simp only [declared, ServiceMetadata.provision] at provided
    cases known : metadata.implementation.serviceConstructor.or provider.serviceConstructor with
    | none => simp [known, Except.toOption] at provided
    | some construct =>
      simp only [known, Except.toOption, Option.some.injEq] at provided
      obtain rfl := provided
      exact ⟨construct, app.args, .service declared known, fun _ => rfl⟩

theorem Instantiates.exists_provision {tag : Tag} {construct : Constructor} {args : Args}
    (instantiates : registry.Instantiates app provider tag construct args) :
    ∃ provision, registry.provision? app provider = some provision ∧ provision.tag = tag ∧
      ∀ context, provision.build context = construct args := by
  unfold provision?
  cases instantiates with
  | service declared known =>
    simp only [declared, ServiceMetadata.provision, known]
    exact ⟨_, rfl, rfl, fun _ => rfl⟩
  | plain undeclared known =>
    simp only [undeclared, known]
    exact ⟨_, rfl, rfl, fun _ => rfl⟩

/-- A provider provides under a tag exactly if there is a constructor that makes its instance. -/
theorem tag_provision?_eq_some_iff {tag : Tag} :
    (registry.provision? app provider).map (·.tag) = some tag ↔
      ∃ construct args, registry.Instantiates app provider tag construct args := by
  constructor
  · intro provided
    obtain ⟨provision, found, rfl⟩ := Option.map_eq_some_iff.mp provided
    obtain ⟨construct, args, instantiates, -⟩ := exists_instantiates found
    exact ⟨construct, args, instantiates⟩
  · rintro ⟨construct, args, instantiates⟩
    obtain ⟨provision, found, rfl, -⟩ := instantiates.exists_provision
    rw [found]
    rfl

/-! ## The order of providers -/

/-- The providers of one module come before those of the modules after it. -/
theorem Preorder.append {later : List Handle} (first : registry.Preorder [root] walk)
    (siblings : registry.Preorder roots later) :
    registry.Preorder (root :: roots) (walk ++ later) := by
  cases first with
  | cons declared imports nothing =>
    cases nothing
    rw [List.append_nil]
    exact .cons declared imports siblings

theorem Preorder.unique (preorder : registry.Preorder roots walk)
    (again : registry.Preorder roots other) : walk = other := by
  induction preorder generalizing other with
  | nil => cases again; rfl
  | cons declared _ _ imports siblings =>
    cases again with
    | cons known below later =>
      obtain rfl := Option.some.inj (declared.symm.trans known)
      rw [imports below, siblings later]

/-- Exactly the providers of all modules reached are listed. -/
theorem Preorder.mem_iff (preorder : registry.Preorder roots walk) :
    provider ∈ walk ↔ ∃ root ∈ roots, ∃ cls metadata, registry.Reaches root cls ∧
      registry.moduleMetadata? cls = some metadata ∧ provider ∈ metadata.providers := by
  induction preorder with
  | nil => simp
  | @cons cls rest metadata below later declared _ _ imports siblings =>
    rw [List.mem_append, List.mem_append, imports, siblings]
    constructor
    · rintro ((own | ⟨imported, member, reached⟩) | ⟨sibling, member, reached⟩)
      · exact ⟨cls, by simp, cls, metadata, .refl, declared, own⟩
      · obtain ⟨last, found, reaches, known, listed⟩ := reached
        exact ⟨cls, by simp, last, found, .head ⟨metadata, declared, member⟩ reaches, known, listed⟩
      · exact ⟨sibling, by simp [member], reached⟩
    · rintro ⟨first, member, last, found, reaches, known, listed⟩
      rcases List.mem_cons.mp member with rfl | later
      · rcases reaches.cases_head with rfl | ⟨imported, ⟨own, here, edge⟩, rest⟩
        · obtain rfl := Option.some.inj (declared.symm.trans known)
          exact .inl (.inl listed)
        · obtain rfl := Option.some.inj (declared.symm.trans here)
          exact .inl (.inr ⟨imported, edge, last, found, rest, known, listed⟩)
      · exact .inr ⟨first, later, last, found, reaches, known, listed⟩

/-! ## Handing out tags does not change what is provided -/

@[simp]
theorem plainProvision_claimTag (registry : Registry) (cls other : Class) :
    (registry.claimTag cls).plainProvision other = registry.plainProvision other := by
  funext construct
  simp [plainProvision]

@[simp]
theorem provision?_claimTag (registry : Registry) (cls : Class) (app : App) :
    (registry.claimTag cls).provision? app = registry.provision? app := by
  funext provider
  simp [provision?, serviceConstructor?, knownHandle]

@[simp]
theorem claimed?_claimTag (registry : Registry) (cls : Class) :
    (registry.claimTag cls).claimed? = registry.claimed? := by
  funext provider
  simp [claimed?, serviceConstructor?, knownHandle]

theorem preorder_claimTag (preorder : (registry.claimTag cls).Preorder roots walk) :
    registry.Preorder roots walk := by
  induction preorder with
  | nil => exact .nil
  | cons declared _ _ imports siblings => exact .cons (by simpa using declared) imports siblings

/-! ## What a walk gathers from the providers -/

/-- What is gathered from the providers of modules one by one is gathered from the providers of all of
them in order. -/
theorem exists_preorder_flatMap {α : Type} {below : Class → List α} {own : Handle → List α}
    {roots : List Class}
    (each : ∀ root ∈ roots, ∃ walk, registry.Preorder [root] walk ∧ below root = walk.flatMap own) :
    ∃ walk, registry.Preorder roots walk ∧ roots.flatMap below = walk.flatMap own := by
  induction roots with
  | nil => exact ⟨[], .nil, rfl⟩
  | cons root rest ih =>
    obtain ⟨walk, first, here⟩ := each root List.mem_cons_self
    obtain ⟨later, siblings, others⟩ :=
      ih fun other member => each other (List.mem_cons_of_mem _ member)
    refine ⟨walk ++ later, first.append siblings, ?_⟩
    rw [List.flatMap_cons, here, others, List.flatMap_append]

/-- What is picked from a walk without a fault, if nothing is picked at the end of a module, is picked
from the visits of the providers, in pre-order. -/
theorem exists_preorder_of_clean {α : Type} (pick : Visit → Option α)
    (ends : ∀ importer cls, pick (.imported importer cls) = none) (registry : Registry) (app : App)
    (stack : List Class) (cls : Class) (clean : (registry.walkModule app stack cls).fault = none) :
    ∃ walk, registry.Preorder [cls] walk ∧
      (registry.walkModule app stack cls).visits.filterMap pick =
        walk.flatMap fun provider => (registry.visitProvider app provider).visits.filterMap pick := by
  induction stack, cls, clean using clean_walk_induction registry app with
  | step stack cls metadata fresh declared clean imports =>
    obtain ⟨walk, below, picked⟩ :=
      exists_preorder_flatMap fun imported member => (imports imported member).2
    refine ⟨metadata.providers ++ walk ++ [], .cons declared below .nil, ?_⟩
    rw [filterMap_visits_of_clean pick fresh declared clean]
    simp only [ends, Option.toList_none, List.append_nil]
    rw [picked, List.flatMap_append]

/-- All providers that a walk without a fault meets can provide. -/
theorem canProvide_of_preorder (clean : (registry.walkModule app stack cls).fault = none)
    (preorder : registry.Preorder [cls] walk) (member : provider ∈ walk) :
    registry.CanProvide provider := by
  obtain ⟨root, here, module, metadata, reaches, declared, listed⟩ := preorder.mem_iff.mp member
  obtain rfl := List.mem_singleton.mp here
  have composable := ((fault_walkModule_eq_none_iff app stack root).mp clean).1
  exact composable.provided module metadata reaches declared provider listed

theorem layer_visitProvider (clean : (registry.visitProvider app provider).fault = none) :
    (registry.visitProvider app provider).layer = (registry.provision? app provider).toList := by
  revert clean
  unfold visitProvider provision?
  cases registry.serviceMetadata? provider.cls with
  | none => cases registry.serviceConstructor? provider <;> exact fun _ => rfl
  | some metadata =>
    dsimp only
    cases metadata.provision provider app with
    | ok provision => exact fun _ => rfl
    | error fault => simp

/-- A walk without a fault gathers what the providers provide, in pre-order. -/
theorem exists_layer_of_clean (registry : Registry) (app : App) (stack : List Class)
    (cls : Class) (clean : (registry.walkModule app stack cls).fault = none) :
    ∃ walk, registry.Preorder [cls] walk ∧
      (registry.walkModule app stack cls).layer = walk.filterMap (registry.provision? app) := by
  obtain ⟨walk, preorder, picked⟩ :=
    exists_preorder_of_clean Visit.provision? (fun _ _ => rfl) registry app stack cls clean
  refine ⟨walk, preorder, ?_⟩
  rw [Trail.layer, picked, List.filterMap_eq_flatMap_toList]
  refine List.flatMap_congr fun provider member => layer_visitProvider ?_
  exact fault_visitProvider_eq_none_iff.mpr (canProvide_of_preorder clean preorder member)

/-- A walk without a fault hands out the tags of the plain providers. -/
theorem exists_claimed_of_clean (registry : Registry) (app : App) (stack : List Class)
    (cls : Class) (clean : (registry.walkModule app stack cls).fault = none) :
    ∃ walk, registry.Preorder [cls] walk ∧
      (registry.walkModule app stack cls).visits.filterMap Visit.claimed? =
        walk.filterMap registry.claimed? := by
  obtain ⟨walk, preorder, picked⟩ :=
    exists_preorder_of_clean Visit.claimed? (fun _ _ => rfl) registry app stack cls clean
  refine ⟨walk, preorder, ?_⟩
  rw [picked, List.filterMap_eq_flatMap_toList]
  refine List.flatMap_congr fun provider _ => ?_
  unfold visitProvider claimed?
  cases registry.serviceMetadata? provider.cls with
  | none => cases registry.serviceConstructor? provider <;> rfl
  | some metadata =>
    dsimp only
    cases metadata.provision provider app <;> rfl

end Registry

/-! ## A diamond -/

namespace Registry

/-- An application that imports two modules, each of which imports a third one. One module provides
`Cache` and the other `Backup` under the same tag; `Clock` is no service, and `Note` cannot even be
constructed. -/
def diamond : Registry :=
  let provider (name : String) : Handle := Blueprint.handle { cls := .named name } .provider
  let clock : Blueprint := { cls := .named "Clock", making := .plain }
  let page : Blueprint :=
    { cls := .named "Page"
      emitted := [clock.cls]
      making := .controller
      required := [clock.cls] }
  let shared : Tag := .custom 0 "cache"
  let decorations : List Decoration :=
    [ .service (provider "Store") none,
      .service (provider "Cache") shared,
      .service (provider "Backup") shared,
      .controller (page.handle .controller) "/",
      .module (Class.named "Core").handle { providers := [provider "Store"] },
      .module (Class.named "Left").handle
        { imports := [.named "Core"], providers := [provider "Cache"] },
      .module (Class.named "Right").handle
        { imports := [.named "Core"], providers := [provider "Backup"] },
      .module (Class.named "App").handle
        { imports := [.named "Left", .named "Right"]
          controllers := [page.handle .controller]
          providers := [clock.handle .provider, (Class.named "Note").handle] } ]
  decorations.foldl decorate { name := "diamond" }

/-- The third module's provider is listed along both paths. -/
theorem exists_preorder_diamond : ∃ walk, diamond.Preorder [.named "App"] walk ∧
    walk.map (·.name) = ["Clock", "Note", "Cache", "Store", "Backup", "Store"] :=
  ⟨_, .cons rfl (.cons rfl (.cons rfl .nil .nil) (.cons rfl (.cons rfl .nil .nil) .nil)) .nil, rfl⟩

end Registry

namespace Composition

/-- The composition of the diamond, by the walk that is cut off. -/
def diamond (app : App) (ledger : Ledger) : Composition :=
  let registry := Registry.diamond.claimTag .logger
  let cls := Class.named "App"
  ofTrail registry { cls, metadata := (registry.moduleMetadata? cls).getD {} } app
    (newLoggerInstance app.logger ledger).1
    ((registry.walkWithin app (registry.entries.length + 1) [] cls).getD {})

theorem compose_diamond (app : App) (ledger : Ledger) :
    (compose .diamond (.named "App") app ledger).1.1 = .ok (diamond app ledger) := by
  let registry := Registry.diamond.claimTag .logger
  have walk := registry.walkWithin_keys app (.named "App")
  have within : (registry.walkWithin app (registry.entries.length + 1) [] (.named "App")).map
      (·.fault) = some none := rfl
  rw [walk] at within
  rw [compose_of_clean rfl (Option.some.inj within), diamond, walk]
  rfl

end Composition

end Trellis
