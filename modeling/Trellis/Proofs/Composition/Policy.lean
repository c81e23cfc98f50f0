import Trellis.Proofs.Composition.Imported
import Trellis.Proofs.Composition.Injection
import Trellis.Proofs.Composition.Refusal
/-!
# The two wiring policies

A module composed under the strict policy and the same module composed under the lenient one, both
set up in the same state: what the policies have in common, and where they part.
-/

namespace Trellis

/-- The application under a wiring policy. -/
def App.under (app : App) (policy : WiringPolicy) : App :=
  { app with config := { app.config with policy } }

namespace Composition

variable {catalogue : Catalogue} {registry : Registry} {root : Class} {app other : App} {ledger start : Ledger}
  {one another : Composition} {reflection : Reflection} {resolver : Resolver}

/-! ## Compositions of one module -/

/-- Compositions of one module for applications of one outline have one outline. -/
theorem outline_eq_of_compose (same : app.outline = other.outline)
    (first : (compose registry root app ledger).1.1 = .ok one)
    (second : (compose registry root other ledger).1.1 = .ok another) :
    one.outline = another.outline := by
  obtain ⟨metadata, passed, declared, order, ownRoot, imports⟩ := exists_imported_of_compose first
  obtain ⟨known, again, found, reorder, otherRoot, others⟩ := exists_imported_of_compose second
  obtain rfl := Option.some.inj (declared.symm.trans found)
  obtain rfl := order.unique reorder
  have fresh := fresh_of_compose first
  have refreshed := fresh_of_compose second
  unfold outline
  rw [ownRoot, otherRoot, imports, others, app_of_compose first, app_of_compose second, same,
    fresh.stage, refreshed.stage, fresh.services, refreshed.services, fresh.controllers,
    refreshed.controllers]

/-- Layers of one module for applications of one outline do alike. -/
theorem layer_alike_of_compose (blind : registry.Blind) (same : app.outline = other.outline)
    (first : (compose registry root app ledger).1.1 = .ok one)
    (second : (compose registry root other ledger).1.1 = .ok another) :
    List.Forall₂ Provision.Alike one.layer another.layer := by
  obtain ⟨walk, preorder, layer⟩ := exists_layer_of_compose first
  obtain ⟨again, reordered, relayer⟩ := exists_layer_of_compose second
  obtain rfl := preorder.unique reordered
  have loggers : app.logger = other.logger := (App.mk.inj same).1
  have own : ∀ provider ∈ walk, provider.Blind := by
    intro provider member
    obtain ⟨_, -, cls, metadata, -, declared, listed⟩ := preorder.mem_iff.mp member
    exact blind.moduleMetadata? declared provider (List.mem_append_left _ listed)
  rw [layer, relayer, loggers]
  exact .cons ⟨rfl, rfl, fun _ _ _ => rfl⟩ (blind.filterMap_provision? own same)

/-- The controllers of a composition of a blind registry are blind. -/
theorem blind_controllers_of_compose (blind : registry.Blind)
    (composed : (compose registry root app ledger).1.1 = .ok one) :
    ∀ declared ∈ one.modules, ∀ handle ∈ declared.metadata.controllers, handle.Blind := by
  intro declared member handle listed
  have kept := moduleMetadata?_of_compose composed declared member
  exact blind.moduleMetadata? kept handle (List.mem_append_right _ listed)

/-! ## What depends on the outline alone -/

theorem report_outline (composition : Composition) :
    composition.outline.report = { composition.report with policy := .bestEffort } := by
  have controllers : ∀ wired : Wired, wired.outline.report = wired.report := by
    intro wired
    simp only [Wired.report, Wired.outline, Context.length_outline]
  simp only [report, outline, imports, App.outline, AppConfig.outline, Context.outline,
    List.map_map, Function.comp_def, controllers, Instance.cls_outline]

theorem injections_outline (composition : Composition) :
    composition.outline.injections = composition.injections := by
  simp only [injections, given, outline, List.map_map, Function.comp_def, Resolution.injected_outline,
    Wired.outline, Wired.place, Instance.cls_outline]

theorem report_of_outline_eq (same : one.outline = another.outline) :
    one.report = { another.report with policy := one.app.config.policy } := by
  calc one.report = { one.outline.report with policy := one.app.config.policy } := by
        rw [report_outline]
        rfl
    _ = { another.outline.report with policy := one.app.config.policy } := by rw [same]
    _ = { another.report with policy := one.app.config.policy } := by rw [report_outline]

/-! ## Where the policies agree and where they part -/

/-- A set-up that ends whole for one application ends alike for any of its outline. -/
theorem run_setup_mirror (blind : registry.Blind) (known : reflection.store.Blind)
    (same : app.outline = other.outline)
    (first : (compose registry root app ledger).1.1 = .ok one)
    (second : (compose registry root other ledger).1.1 = .ok another) {final : Assembly}
    (ran : (setup reflection).run ⟨one, resolver, start⟩ = (.ok (), final)) (whole : final.Whole) :
    ∃ last, (setup reflection).run ⟨another, resolver, start⟩ = (.ok (), last) ∧
      final.outline = last.outline := by
  obtain ⟨stop, setsUp, result⟩ := run_setup_iff.mp ran
  obtain rfl := Stop.result_eq_ok_iff.mp result.symm
  have outlines : Assembly.outline ⟨one, resolver, start⟩ =
      Assembly.outline ⟨another, resolver, start⟩ := by
    rw [Assembly.outline, Assembly.outline, outline_eq_of_compose same first second]
  obtain ⟨last, resetsUp, alike⟩ := setsUp.mirror known (blind_controllers_of_compose blind first)
    (layer_alike_of_compose blind same first second) outlines whole
  exact ⟨last, run_setup_of_setsUp resetsUp, alike⟩

/-- All that is listed for wiring is described if the registry is. -/
theorem describes_of_compose (described : registry.Described catalogue)
    (composed : (compose registry root app ledger).1.1 = .ok one) :
    ∀ site ∈ one.listed, catalogue.Describes site.2 := by
  rintro ⟨declared, handle⟩ member
  obtain ⟨listed, own⟩ := mem_listed_iff.mp member
  exact described declared handle ⟨moduleMetadata?_of_compose composed declared listed, own⟩

/-- The strict policy is the lenient one with a condition: a set-up succeeds under it exactly if it
succeeds under the lenient one and no controller goes without anything, and then the two wire alike.
Under either policy the constructor that is known for each listed controller is given what the
controller's resolution finds. Unresolved dependencies that a strict set-up ends with are those of the
first controller of the list that would go without something, unless the constructor of a controller
raised that very error; a lenient set-up ends with them in the second case only. The constructors must
not read the policy. -/
theorem setup_strict_iff_bestEffort (blind : registry.Blind) (known : reflection.store.Blind)
    (described : registry.Described catalogue) (used : resolver.Used catalogue)
    {strict lenient : Composition}
    (strictly : (compose registry root (app.under .strict) ledger).1.1 = .ok strict)
    (leniently : (compose registry root (app.under .bestEffort) ledger).1.1 = .ok lenient)
    {strictResult lenientResult : Except Error Unit} {strictFinal lenientFinal : Assembly}
    (strictRun : (setup reflection).run ⟨strict, resolver, start⟩ = (strictResult, strictFinal))
    (lenientRun : (setup reflection).run ⟨lenient, resolver, start⟩ =
      (lenientResult, lenientFinal)) :
    (strictResult = .ok () ↔ lenientResult = .ok () ∧
      ∀ wired ∈ lenientFinal.composition.controllers, wired.resolution.unresolved = [] ∧
        ∀ cls ∈ wired.resolution.dependencies,
          (lenientFinal.composition.services.ofClass? cls).isSome) ∧
      (strictResult = .ok () → lenientResult = .ok () →
        strictFinal.composition.injections = lenientFinal.composition.injections ∧
          strictFinal.composition.report =
            { lenientFinal.composition.report with policy := .strict }) ∧
      (List.Forall₂ (Constructed reflection.store strictFinal.composition)
          (strict.listed.take strictFinal.composition.controllers.length)
          strictFinal.composition.controllers ∧
        List.Forall₂ (Constructed reflection.store lenientFinal.composition)
          (lenient.listed.take lenientFinal.composition.controllers.length)
          lenientFinal.composition.controllers) ∧
      (∀ name omitted, strictResult = .error (.unresolvedDependencies name omitted) →
        ∃ declared handle before,
          (name = handle.name ∧
            Refusal reflection ⟨strict, resolver, start⟩ declared handle omitted before
              strictFinal) ∨
          Failure reflection ⟨strict, resolver, start⟩ declared handle
            (.unresolvedDependencies name omitted) before strictFinal) ∧
      ∀ name omitted, lenientResult = .error (.unresolvedDependencies name omitted) →
        ∃ declared handle before, Failure reflection ⟨lenient, resolver, start⟩ declared handle
          (.unresolvedDependencies name omitted) before lenientFinal := by
  have strictApp := app_of_compose strictly
  have lenientApp := app_of_compose leniently
  have strictFresh := fresh_of_compose strictly
  have lenientFresh := fresh_of_compose leniently
  have same : (app.under .strict).outline = (app.under .bestEffort).outline := rfl
  -- A strict success is whole, so the lenient run ends alike; and the other way round.
  have agree : strictResult = .ok () →
      lenientResult = .ok () ∧ strictFinal.Whole ∧ strictFinal.outline = lenientFinal.outline := by
    rintro rfl
    obtain ⟨stop, setsUp, -⟩ := run_setup_iff.mp strictRun
    have whole := setsUp.whole_of_strict (congrArg (·.config.policy) strictApp)
      strictFresh.controllers
    obtain ⟨last, ran, alike⟩ :=
      run_setup_mirror blind known same strictly leniently strictRun whole
    obtain ⟨rfl, rfl⟩ := Prod.mk.inj (lenientRun.symm.trans ran)
    exact ⟨rfl, whole, alike⟩
  refine ⟨⟨fun succeeded => ?_, ?_⟩, ?_, ⟨?_, ?_⟩, ?_, ?_⟩
  · obtain ⟨ended, whole, alike⟩ := agree succeeded
    have lenientWhole : lenientFinal.Whole := by
      rw [← Assembly.whole_outline_iff, ← alike, Assembly.whole_outline_iff]
      exact whole
    exact ⟨ended, fun wired member =>
      Resolution.omitted_eq_nil_iff.mp (lenientWhole wired member)⟩
  · rintro ⟨rfl, complete⟩
    have whole : lenientFinal.Whole := fun wired member =>
      Resolution.omitted_eq_nil_iff.mpr (complete wired member)
    obtain ⟨last, ran, -⟩ :=
      run_setup_mirror blind known same.symm leniently strictly lenientRun whole
    exact (Prod.mk.inj (strictRun.symm.trans ran)).1
  · intro succeeded _
    obtain ⟨-, -, alike⟩ := agree succeeded
    have compositions := (Assembly.mk.inj alike).1
    refine ⟨by rw [← injections_outline, compositions, injections_outline], ?_⟩
    obtain ⟨stop, setsUp, -⟩ := run_setup_iff.mp strictRun
    have policy : strictFinal.composition.app.config.policy = .strict := by
      rw [setsUp.app, strictApp]
      rfl
    rw [report_of_outline_eq compositions, policy]
  · exact (constructed_of_setup strictRun strictFresh.controllers).1
  · exact (constructed_of_setup lenientRun lenientFresh.controllers).1
  · rintro name omitted rfl
    exact refusal_or_failure used (describes_of_compose described strictly) strictFresh strictRun
  · rintro name omitted rfl
    obtain ⟨declared, handle, before, ⟨-, refusal⟩ | failure⟩ :=
      refusal_or_failure used (describes_of_compose described leniently) lenientFresh lenientRun
    · have lenient := congrArg (·.config.policy) lenientApp
      cases lenient.symm.trans refusal.strict
    · exact ⟨declared, handle, before, failure⟩

theorem blind_diamond : Registry.diamond.Blind := by
  refine (Registry.blind_nil "diamond").foldl_decorate ?_
  simp only [List.forall_mem_cons, Decoration.Blind, MetadataValue.Blind, MetadataValue.handles,
    List.append_nil, List.nil_append, List.cons_append, List.not_mem_nil, false_imp_iff,
    implies_true, and_true, Blueprint.blind_handle, Class.blind_handle]

theorem exists_described_diamond : ∃ catalogue, Registry.diamond.Described catalogue := by
  let catalogue : Catalogue :=
    { signature := fun _ => "", emitted := fun _ => [Class.named "Clock"] }
  refine ⟨catalogue, (Registry.described_nil catalogue "diamond").foldl_decorate ?_⟩
  simp only [List.forall_mem_cons, Decoration.Described, List.not_mem_nil, false_imp_iff,
    implies_true, and_true, true_and]
  exact ⟨rfl, rfl⟩

/-- Nothing is omitted in the diamond, so the policies agree on it. -/
theorem setup_strict_iff_bestEffort_diamond :
    ∃ (app : App) (strict lenient : Composition) (strictFinal lenientFinal : Assembly),
      (compose .diamond (.named "App") (app.under .strict) {}).1.1 = .ok strict ∧
        (compose .diamond (.named "App") (app.under .bestEffort) {}).1.1 = .ok lenient ∧
        (setup { store := .diamond }).run ⟨strict, {}, {}⟩ = (.ok (), strictFinal) ∧
        (setup { store := .diamond }).run ⟨lenient, {}, {}⟩ = (.ok (), lenientFinal) ∧
        strictFinal.composition.injections = [((.named "App", .named "Page"), [.named "Clock"])] ∧
        strictFinal.composition.report =
          { lenientFinal.composition.report with policy := .strict } := by
  have works : ((setup { store := .diamond }).run
      ⟨diamond (App.under { logger := {}, config := {} } .strict) {}, {}, {}⟩).1.toBool := by
    decide +kernel
  have injected : injections ((setup { store := .diamond }).run
      ⟨diamond (App.under { logger := {}, config := {} } .strict) {}, {}, {}⟩).2.composition =
        [((.named "App", .named "Page"), [.named "Clock"])] := by
    decide +kernel
  rcases strictRun : (setup { store := .diamond }).run
      ⟨diamond (App.under { logger := {}, config := {} } .strict) {}, {}, {}⟩ with
    ⟨error | ⟨⟩, strictFinal⟩
  · rw [strictRun] at works
    cases works
  rcases lenientRun : (setup { store := .diamond }).run
      ⟨diamond (App.under { logger := {}, config := {} } .bestEffort) {}, {}, {}⟩ with
    ⟨result, lenientFinal⟩
  rw [strictRun] at injected
  obtain ⟨catalogue, described⟩ := exists_described_diamond
  obtain ⟨agree, alike, -⟩ := setup_strict_iff_bestEffort blind_diamond blind_diamond described .empty
    (compose_diamond _ {}) (compose_diamond _ {}) strictRun lenientRun
  obtain ⟨rfl, -⟩ := agree.mp rfl
  obtain ⟨-, reports⟩ := alike rfl rfl
  exact ⟨_, _, _, strictFinal, lenientFinal, compose_diamond _ {}, compose_diamond _ {}, strictRun,
    lenientRun, injected, reports⟩

end Composition

end Trellis
