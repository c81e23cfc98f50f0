import Trellis.Proofs.Composition.Composability
import Trellis.Proofs.Composition.Injection
import Trellis.Proofs.Composition.Providers
import Trellis.Proofs.Layer.Lookup
/-!
# What a report says of the arguments of a controller

The entry of a controller is made of the resolution it was wired by, and of nothing that came after.
It accounts for what the constructor was given exactly when the services have an instance of every
dependency. A dependency without one is in the entry as if it had been injected, and it is not among
what is unresolved.
-/

namespace Trellis

/-- An entry accounts for every argument that a resolution asks for: its dependencies are what the
services have, and the rest is unresolved, as it is told when the controller is wired. -/
structure ControllerReport.Accounts (entry : ControllerReport) (resolution : Resolution)
    (services : Context) : Prop where
  injected : entry.dependencies = (resolution.injected services).map fun subject => subject.cls.name
  omitted : entry.unresolved = resolution.omitted services

namespace Resolution

/-- The services have an instance of every dependency. -/
def Realized (resolution : Resolution) (services : Context) : Prop :=
  ∀ cls ∈ resolution.dependencies, (services.ofClass? cls).isSome

instance (resolution : Resolution) (services : Context) :
    Decidable (resolution.Realized services) :=
  inferInstanceAs (Decidable (∀ cls ∈ resolution.dependencies, (services.ofClass? cls).isSome))

variable {resolution : Resolution} {services : Context}

/-- What is injected is of the classes that are depended on and realized, in order. -/
theorem map_cls_injected (resolution : Resolution) (services : Context) :
    (resolution.injected services).map (·.cls) =
      resolution.dependencies.filter fun cls => (services.ofClass? cls).isSome := by
  rw [injected, List.map_filterMap, ← List.filterMap_eq_filter]
  apply List.filterMap_congr
  intro cls _
  cases found : services.ofClass? cls with
  | none => simp [Option.guard, found]
  | some subject =>
    have own : subject.cls = cls := (Context.mem_of_ofClass? found).2
    simp [Option.guard, found, own]

/-- As many are injected as are depended on exactly if every dependency is realized. -/
theorem length_injected_eq_iff : (resolution.injected services).length =
    resolution.dependencies.length ↔ resolution.Realized services := by
  rw [← List.length_map (·.cls), map_cls_injected, List.length_filter_eq_length_iff]
  rfl

theorem map_cls_injected_of_realized (realized : resolution.Realized services) :
    (resolution.injected services).map (·.cls) = resolution.dependencies := by
  rw [map_cls_injected]
  exact List.filter_eq_self.mpr realized

/-- The dependencies that are omitted since the services have no instance of them. -/
def unrealized (resolution : Resolution) (services : Context) : List Class :=
  resolution.dependencies.filter fun cls => (services.ofClass? cls).isNone

theorem unrealized_eq_nil_iff :
    resolution.unrealized services = [] ↔ resolution.Realized services := by
  simp [unrealized, Realized, Option.isSome_iff_ne_none]

end Resolution

namespace Wired

variable {wired : Wired} {services : Context}

/-- What is omitted is what the entry tells as unresolved and then what is not realized. -/
theorem omitted_eq_append (wired : Wired) (services : Context) :
    wired.resolution.omitted services = wired.report.unresolved ++
      (wired.resolution.unrealized services).map fun cls => cls.name ++ " (not realized)" := rfl

theorem dependencies_report_eq_iff :
    (wired.report.dependencies =
        (wired.resolution.injected services).map fun subject => subject.cls.name) ↔
      wired.resolution.Realized services := by
  constructor
  · intro same
    have lengths := congrArg List.length same
    rw [report, List.length_map, List.length_map] at lengths
    exact Resolution.length_injected_eq_iff.mp lengths.symm
  · intro realized
    rw [report, ← Resolution.map_cls_injected_of_realized realized, List.map_map]
    rfl

theorem unresolved_report_eq_iff :
    wired.report.unresolved = wired.resolution.omitted services ↔
      wired.resolution.Realized services := by
  rw [omitted_eq_append, List.self_eq_append_right, List.map_eq_nil_iff]
  exact Resolution.unrealized_eq_nil_iff

/-- The entry of a controller accounts for its arguments exactly if every dependency of its resolution
is realized. -/
theorem accounts_report_iff :
    wired.report.Accounts wired.resolution services ↔ wired.resolution.Realized services := by
  constructor
  · intro accounts
    exact dependencies_report_eq_iff.mp accounts.injected
  · intro realized
    exact ⟨dependencies_report_eq_iff.mpr realized, unresolved_report_eq_iff.mpr realized⟩

end Wired

namespace Composition

variable {registry : Registry} {root : Class} {app : App} {ledger : Ledger}
  {composition : Composition}

/-- After any set-up each controller has its entry in the report, in its place. The constructor known
for the handle that is listed there made the controller of what it was given, and the entry tells
nothing of what is not realized: either of its lists is right exactly if there is no such dependency.
In any case what was given is of the listed classes that are realized, in order, and what was omitted is
what is listed as unresolved and then what is not realized. -/
theorem report_of_setup {reflection : Reflection} {resolver : Resolver} {start : Ledger}
    {result : Except Error Unit} {final : Assembly}
    (composed : (compose registry root app ledger).1.1 = .ok composition)
    (ran : (setup reflection).run ⟨composition, resolver, start⟩ = (result, final)) :
    final.composition.report.controllers.length = final.composition.controllers.length ∧
      (result = .ok () →
        composition.listed.length = final.composition.controllers.length) ∧
      ∀ (index : Nat) (wired : Wired), final.composition.controllers[index]? = some wired →
        ∃ (declared : Declared) (handle : Handle) (entry : ControllerReport),
          composition.listed[index]? = some (declared, handle) ∧
            final.composition.report.controllers[index]? = some entry ∧
            (entry.module, entry.controller) = (declared.cls.name, handle.cls.name) ∧
            let services := final.composition.services
            let given := (final.composition.given wired).dependencies
            Constructed reflection.store final.composition (declared, handle) wired ∧
              (entry.dependencies = given.map (·.cls.name) ↔ wired.resolution.Realized services) ∧
              (entry.unresolved = wired.resolution.omitted services ↔
                wired.resolution.Realized services) ∧
              (entry.Accounts wired.resolution services ↔ wired.resolution.Realized services) ∧
              given.map (·.cls) =
                (wired.resolution.dependencies.filter fun cls =>
                  (services.ofClass? cls).isSome) ∧
              wired.resolution.omitted services = entry.unresolved ++
                (wired.resolution.unrealized services).map fun cls =>
                  cls.name ++ " (not realized)" := by
  have fresh := (fresh_of_compose composed).controllers
  refine ⟨List.length_map _, (constructed_of_setup ran fresh).2, fun index wired found => ?_⟩
  obtain ⟨declared, handle, listed, constructed⟩ := exists_listed_of_wired ran fresh found
  have entry : final.composition.report.controllers[index]? = some wired.report := by
    show (final.composition.controllers.map Wired.report)[index]? = _
    rw [List.getElem?_map, found]
    rfl
  have names : (wired.report.module, wired.report.controller) =
      (declared.cls.name, handle.cls.name) :=
    congrArg (fun place : Class × Class => (place.1.name, place.2.name)) constructed.place
  exact ⟨declared, handle, wired.report, listed, entry, names, constructed,
    Wired.dependencies_report_eq_iff, Wired.unresolved_report_eq_iff, Wired.accounts_report_iff,
    wired.resolution.map_cls_injected final.composition.services,
    wired.omitted_eq_append final.composition.services⟩

/-- In the diamond the clock that the page depends on is realized, and the entry of the page accounts
for it. -/
theorem report_of_setup_diamond : ∃ app composition final declared handle,
    (compose .diamond (.named "App") app {}).1.1 = .ok composition ∧
      (setup { store := .diamond }).run ⟨composition, {}, {}⟩ = (.ok (), final) ∧
      composition.listed = [(declared, handle)] ∧
      ∃ wired entry, final.composition.controllers = [wired] ∧
        final.composition.report.controllers = [entry] ∧ entry.dependencies = ["Clock"] ∧
        Constructed .diamond final.composition (declared, handle) wired ∧
        entry.Accounts wired.resolution final.composition.services := by
  let app : App := { logger := {}, config := {} }
  have composed := compose_diamond app {}
  have shown : (((setup { store := .diamond }).run ⟨diamond app {}, {}, {}⟩).1.toBool,
      ((setup { store := .diamond }).run ⟨diamond app {}, {}, {}⟩).2.composition.controllers.map
        fun wired => (wired.report.dependencies, decide (wired.resolution.Realized
          ((setup { store := .diamond }).run ⟨diamond app {}, {}, {}⟩).2.composition.services))) =
      (true, [(["Clock"], true)]) := by
    decide +kernel
  rcases ran : (setup { store := .diamond }).run ⟨diamond app {}, {}, {}⟩ with ⟨error | ⟨⟩, final⟩
  · rw [ran] at shown
    cases shown
  · obtain ⟨-, complete, entries⟩ := report_of_setup composed ran
    rw [ran] at shown
    obtain ⟨wired, controllers, page⟩ := List.map_eq_singleton_iff.mp (Prod.mk.inj shown).2
    obtain ⟨dependencies, realized⟩ := Prod.mk.inj page
    have reported : final.composition.report.controllers = [wired.report] :=
      congrArg (List.map Wired.report) controllers
    have first : final.composition.controllers[0]? = some wired := congrArg (·[0]?) controllers
    obtain ⟨declared, handle, entry, place, own, -, constructed, -, -, accounts, -⟩ :=
      entries 0 wired first
    obtain rfl : wired.report = entry :=
      Option.some.inj ((congrArg (·[0]?) reported).symm.trans own)
    have listed : (diamond app {}).listed = [(declared, handle)] := by
      obtain ⟨site, only⟩ := List.length_eq_one_iff.mp
        ((complete rfl).trans (congrArg List.length controllers))
      rw [only] at place ⊢
      exact congrArg (fun site => [site]) (Option.some.inj place)
    exact ⟨app, diamond app {}, final, declared, handle, composed, ran, listed, wired, wired.report,
      controllers, reported, dependencies, constructed,
      accounts.mpr (of_decide_eq_true realized)⟩

end Composition

/-! ## A clock that cannot be constructed -/

namespace Registry

/-- An application whose page asks for a `Clock`, a `Cache` and a `Theme`. The module provides the
first two, but `Clock` is no service and has no constructor. -/
def unwound : Registry :=
  let cache : Blueprint := { cls := .named "Cache" }
  let page : Blueprint :=
    { cls := .named "Page"
      signature := "fn new(clock: Arc<Clock>, cache: Arc<Cache>, theme: Theme)"
      making := .controller }
  let decorations : List Decoration :=
    [ .service (cache.handle .provider) none,
      .controller (page.handle .controller) "/",
      .module (Class.named "App").handle
        { controllers := [page.handle .controller]
          providers := [(Class.named "Clock").handle, cache.handle .provider] } ]
  decorations.foldl decorate { name := "unwound" }

end Registry

namespace Composition

/-- The entry of the page lists the clock as a dependency and only the theme as unresolved. -/
def entryOfPage : ControllerReport where
  module := "App"
  controller := "Page"
  source := "signature"
  dependencies := ["Clock", "Cache"]
  unresolved := ["theme: Theme"]
  services := 2

/-- What a set-up of this application reports of the page, what the page received and what was
omitted. -/
theorem told_unwound : ((composeWithin .unwound (.named "App") { logger := {}, config := {} }
    {}).1.1.toOption.map fun composition =>
      let outcome := (setup { store := .unwound }).run ⟨composition, {}, {}⟩
      (outcome.1.toBool, outcome.2.composition.report.controllers,
        outcome.2.composition.controllers.map fun wired =>
          (wired.controller.subject.received.map (·.cls),
            wired.resolution.omitted outcome.2.composition.services))) =
    some (true, [entryOfPage], [([.named "Cache"], ["theme: Theme", "Clock (not realized)"])]) := by
  decide +kernel

/-- The page of this application is wired without its clock, and its entry does not tell. -/
theorem not_accounts_unwound : ∃ app composition final,
    app.config.policy = .bestEffort ∧
      (compose .unwound (.named "App") app {}).1.1 = .ok composition ∧
      (setup { store := .unwound }).run ⟨composition, {}, {}⟩ = (.ok (), final) ∧
      final.composition.report.controllers = [entryOfPage] ∧
      ∃ wired, final.composition.controllers = [wired] ∧
        wired.controller.subject.received.map (·.cls) = [.named "Cache"] ∧
        wired.resolution.omitted final.composition.services =
          ["theme: Theme", "Clock (not realized)"] ∧
        ¬ entryOfPage.Accounts wired.resolution final.composition.services := by
  obtain ⟨composition, composed, shown⟩ := exists_compose_of_within told_unwound
  rcases ran : (setup { store := .unwound }).run ⟨composition, {}, {}⟩ with ⟨error | ⟨⟩, final⟩
  · rw [ran] at shown
    cases shown
  · rw [ran] at shown
    obtain ⟨entries, page⟩ := Prod.mk.inj (Prod.mk.inj shown).2
    obtain ⟨wired, controllers, given⟩ := List.map_eq_singleton_iff.mp page
    obtain ⟨received, omitted⟩ := Prod.mk.inj given
    refine ⟨_, composition, final, rfl, composed, ran, entries, wired, controllers, received, omitted,
      ?_⟩
    intro accounts
    have told : entryOfPage.unresolved = ["theme: Theme", "Clock (not realized)"] :=
      accounts.omitted.trans omitted
    exact absurd told (by decide)

end Composition

end Trellis
