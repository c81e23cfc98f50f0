import Trellis.Proofs.Composition.Providers
import Trellis.Proofs.Composition.SetUp
import Trellis.Proofs.Layer.Build
/-!
# The services of a composition

What a set-up realizes, said of the registry alone: the logger, and then one instance for every tag
in the order in which the providers bring it up, made by the first provider of the tag.

* `Registry.Builds` goes through the providers and says which of their constructors run.
* `services_of_setup` says that the services of a set-up come of it.
-/

namespace Trellis

/-! ## From provider to provider -/

/-- Providers one after the other: a tag that is met for the first time is bound to what the
constructor of its provider makes, and nothing else runs. The ledger passes from one constructor to the
next. -/
inductive Registry.Builds (registry : Registry) (app : App) :
    Context → List Handle → Ledger → Context → Ledger → Prop
  | done (services : Context) (ledger : Ledger) :
      Builds registry app services [] ledger services ledger
  | unusable {provider : Handle} {rest : List Handle} {bound services : Context}
      {ledger after : Ledger}
      (nothing : ∀ tag construct args, ¬ registry.Instantiates app provider tag construct args)
      (later : Builds registry app bound rest ledger services after) :
      Builds registry app bound (provider :: rest) ledger services after
  | again {provider : Handle} {rest : List Handle} {tag : Tag} {construct : Constructor}
      {args : Args} {bound services : Context} {ledger after : Ledger}
      (instantiates : registry.Instantiates app provider tag construct args)
      (met : tag ∈ Table.keys bound)
      (later : Builds registry app bound rest ledger services after) :
      Builds registry app bound (provider :: rest) ledger services after
  | first {provider : Handle} {rest : List Handle} {tag : Tag} {construct : Constructor}
      {args : Args} {bound services : Context} {subject : Instance} {ledger mid after : Ledger}
      (instantiates : registry.Instantiates app provider tag construct args)
      (new : tag ∉ Table.keys bound)
      (made : (construct args).run ledger = (.ok subject, mid))
      (later : Builds registry app (bound ++ [(tag, subject)]) rest mid services after) :
      Builds registry app bound (provider :: rest) ledger services after

namespace Registry

variable {registry : Registry} {app : App} {walk : List Handle} {bound services other : Context}
  {ledger after last : Ledger}

theorem Builds.unique (builds : registry.Builds app bound walk ledger services after)
    (again : registry.Builds app bound walk ledger other last) :
    services = other ∧ after = last := by
  induction builds with
  | done => cases again; exact ⟨rfl, rfl⟩
  | unusable nothing _ ih =>
    cases again with
    | unusable _ later => exact ih later
    | again instantiates | first instantiates => exact absurd instantiates (nothing _ _ _)
  | again instantiates met _ ih =>
    cases again with
    | unusable nothing => exact absurd instantiates (nothing _ _ _)
    | again _ _ later => exact ih later
    | first reinstantiates new =>
      obtain ⟨rfl, -, -⟩ := instantiates.unique reinstantiates
      exact absurd met new
  | first instantiates new made _ ih =>
    cases again with
    | unusable nothing => exact absurd instantiates (nothing _ _ _)
    | again reinstantiates met =>
      obtain ⟨rfl, -, -⟩ := instantiates.unique reinstantiates
      exact absurd met new
    | first reinstantiates _ remade later =>
      obtain ⟨rfl, rfl, rfl⟩ := instantiates.unique reinstantiates
      obtain ⟨same, rfl⟩ := Prod.mk.inj (made.symm.trans remade)
      cases same
      exact ih later

/-- To run the first provisions of what the providers provide is to run their constructors. -/
theorem builds_of_realizes
    (realizes : Layer.Realizes bound
      (Layer.firsts (Table.keys bound) (walk.filterMap (registry.provision? app))) ledger services
      after) : registry.Builds app bound walk ledger services after := by
  induction walk generalizing bound ledger with
  | nil => cases realizes; exact .done _ _
  | cons provider rest ih =>
    cases provided : registry.provision? app provider with
    | none =>
      rw [List.filterMap_cons_none provided] at realizes
      refine .unusable (fun tag construct args instantiates => ?_) (ih realizes)
      obtain ⟨provision, found, -⟩ := instantiates.exists_provision
      cases provided.symm.trans found
    | some provision =>
      obtain ⟨construct, args, instantiates, builds⟩ := exists_instantiates provided
      rw [List.filterMap_cons_some provided, Layer.firsts] at realizes
      split at realizes
      · exact .again instantiates ‹_› (ih realizes)
      · cases realizes with
        | cons built later =>
          rw [builds] at built
          refine .first instantiates ‹_› built (ih ?_)
          rw [Table.keys, List.map_append]
          exact later

end Registry

namespace Composition

variable {registry : Registry} {root : Class} {app : App} {ledger start after : Ledger}
  {composition : Composition} {services : Context} {reflection : Reflection}

/-- The layer of a composition: the logger and what the providers provide, in pre-order. -/
theorem exists_layer_of_compose
    (composed : (compose registry root app ledger).1.1 = .ok composition) :
    ∃ walk, registry.Preorder [root] walk ∧
      composition.layer =
        (Layer.succeed (registry.tagOf .logger) (newLoggerInstance app.logger ledger).1).merge
          (walk.filterMap (registry.provision? app)) := by
  obtain ⟨metadata, -, clean, rfl⟩ := eq_ofTrail_of_compose composed
  obtain ⟨walk, preorder, layer⟩ :=
    Registry.exists_layer_of_clean (registry.claimTag .logger) app [] root clean
  refine ⟨walk, Registry.preorder_claimTag preorder, ?_⟩
  rw [ofTrail, layer]
  simp

/-- A layer that begins with an instance which is there already runs the first provisions of the
other tags. -/
theorem realizes_of_build_merge {tag : Tag} {subject : Instance} {layer : Layer}
    (built : ((Layer.succeed tag subject).merge layer).build.run start = (.ok services, after)) :
    Layer.Realizes [(tag, subject)] (layer.firsts [tag]) start services after := by
  rw [Layer.build_eq_runAll, Layer.runAll_eq_ok_iff] at built
  cases built with
  | cons here later =>
    cases here
    exact later

/-- A set-up has the services that its layer builds, whatever becomes of the wiring. -/
theorem services_setup (start : Assembly)
    (composed : start.composition.stage = .layersComposed)
    (built : start.composition.layer.build.run start.ledger = (.ok services, after)) :
    ((setup reflection).run start).2.composition.services = services := by
  obtain ⟨stop, final, setsUp⟩ := exists_setsUp reflection start
  obtain ⟨made, left, composition, -⟩ := setsUp.composition_of_built composed built
  rw [run_setup_of_setsUp setsUp, composition]

/-- A set-up of a composition whose layer is built realizes, for the logger and then for every tag
that the providers bring up, one instance, in the order of the pre-order walk: the logger is the one
that was made with the composition, and the constructor of the first provider of any other tag makes
its instance. These constructors run once, one after the other, and no others do. -/
theorem services_of_setup (composed : (compose registry root app ledger).1.1 = .ok composition)
    (built : composition.layer.build.run start = (.ok services, after))
    (reflection : Reflection) (resolver : Resolver) :
    let logger := (newLoggerInstance app.logger ledger).1
    let loggerTag := registry.tagOf .logger
    let assembly : Assembly := { composition, resolver, ledger := start }
    ((setup reflection).run assembly).2.composition.services = services ∧
      ∃ walk, (∀ other, registry.Preorder [root] other ↔ other = walk) ∧
        (∀ provider, provider ∈ walk ↔ ∃ cls metadata, registry.Reaches root cls ∧
          registry.moduleMetadata? cls = some metadata ∧ provider ∈ metadata.providers) ∧
        let tag? (provider : Handle) := (registry.provision? app provider).map (·.tag)
        (∀ provider tag, tag? provider = some tag ↔
          ∃ construct args, registry.Instantiates app provider tag construct args) ∧
        Table.keys services = (loggerTag :: walk.filterMap tag?).eraseDups ∧
        (Table.keys services).Nodup ∧
        Table.get? services loggerTag = some logger ∧
        (∀ other last, registry.Builds app [(loggerTag, logger)] walk start other last ↔
          (other, last) = (services, after)) ∧
        ∀ before provider later tag construct args, walk = before ++ provider :: later →
          registry.Instantiates app provider tag construct args →
          tag ∉ loggerTag :: before.filterMap tag? →
            ∃ mid subject next, (construct args).run mid = (.ok subject, next) ∧
              Table.get? services tag = some subject := by
  intro logger loggerTag assembly
  obtain ⟨walk, preorder, provided⟩ := exists_layer_of_compose composed
  have tags (walk : List Handle) : Layer.tags (walk.filterMap (registry.provision? app)) =
      walk.filterMap fun provider => (registry.provision? app provider).map (·.tag) :=
    List.map_filterMap
  have own : composition.layer.tags =
      loggerTag :: Layer.tags (walk.filterMap (registry.provision? app)) := by
    rw [provided]
    rfl
  -- The logger is there already; the others run one after the other, behind it.
  have realizes := realizes_of_build_merge (provided ▸ built)
  have builds : registry.Builds app [(loggerTag, logger)] walk start services after :=
    Registry.builds_of_realizes realizes
  have stage := (fresh_of_compose composed).stage
  refine ⟨services_setup assembly stage built, walk, ?_, ?_, ?_, ?_, ?_, ?_, ?_, ?_⟩
  · exact fun other => ⟨fun again => again.unique preorder, fun same => same ▸ preorder⟩
  · intro provider
    rw [preorder.mem_iff]
    simp
  · exact fun provider tag => Registry.tag_provision?_eq_some_iff
  · rw [← tags, ← own]
    exact Layer.keys_of_build built
  · exact Layer.nodup_keys_of_build built
  · obtain ⟨made, rfl, -⟩ := realizes.exists_append
    exact if_pos rfl
  · refine fun other last => ⟨fun again => ?_, fun same => ?_⟩
    · obtain ⟨rfl, rfl⟩ := again.unique builds
      rfl
    · obtain ⟨rfl, rfl⟩ := Prod.mk.inj same
      exact builds
  · intro before provider later tag construct args split instantiates new
    obtain ⟨provision, found, rfl, runs⟩ := instantiates.exists_provision
    rw [List.mem_cons, not_or, ← tags] at new
    obtain ⟨other, unmet⟩ := new
    have first : provision ∈
        Layer.firsts [loggerTag] (walk.filterMap (registry.provision? app)) := by
      rw [split, List.filterMap_append, List.filterMap_cons_some found]
      exact Layer.mem_firsts_of_split (by simpa using other) unmet
    obtain ⟨distinct, fresh⟩ :=
      Layer.nodup_tags_firsts [loggerTag] (walk.filterMap (registry.provision? app))
    obtain ⟨given, mid, subject, next, made, bound⟩ := realizes.exists_build fresh distinct first
    rw [runs] at made
    exact ⟨mid, subject, next, made, bound⟩

/-- In the diamond the tag that two providers share and the provider met along two paths come out
once each. -/
theorem exists_build_diamond (app : App) (ledger start : Ledger) :
    ∃ services after, (diamond app ledger).layer.build.run start = (.ok services, after) ∧
      (Table.keys services).map Tag.identifier = ["LoggerService", "Clock", "cache", "Store"] :=
  ⟨_, _, rfl, rfl⟩

/-- The constructors of the four providers that come first for their tags run one after the other. -/
theorem services_of_setup_diamond : ∃ app composition services after logger walk,
    (compose .diamond (.named "App") app {}).1.1 = .ok composition ∧
      composition.layer.build.run {} = (.ok services, after) ∧
      ((setup { store := .diamond }).run ⟨composition, {}, {}⟩).2.composition.services = services ∧
      (Table.keys services).map Tag.identifier = ["LoggerService", "Clock", "cache", "Store"] ∧
      walk.map Handle.name = ["Clock", "Note", "Cache", "Store", "Backup", "Store"] ∧
      Registry.diamond.Builds app [(Registry.diamond.tagOf .logger, logger)] walk {} services
        after := by
  let app : App := { logger := {}, config := {} }
  have composed := compose_diamond app {}
  obtain ⟨services, after, built, keys⟩ := exists_build_diamond app {} {}
  obtain ⟨preordered, preorder, names⟩ := Registry.exists_preorder_diamond
  obtain ⟨realized, walk, order, -, -, -, -, -, builds, -⟩ :=
    services_of_setup composed built { store := .diamond } {}
  obtain rfl := (order preordered).mp preorder
  exact ⟨app, diamond app {}, services, after, _, preordered, composed, built, realized, keys, names,
    (builds services after).mpr rfl⟩

end Composition

end Trellis
