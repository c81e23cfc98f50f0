import Trellis.Proofs.Composition.Injection
import Trellis.Proofs.Composition.Outline
import Trellis.Proofs.Composition.Transparency
import Trellis.Proofs.Layer.Outcome
/-!
# Refusals

A set-up that ends with unresolved dependencies was refused by the strict policy, or the constructor of
a controller failed with just such an error. What is known of the first case: how far the set-up had
got, which controller it stopped at, what that controller would have gone without, and that its
constructor was left alone.

* `ComesTo` says that a set-up has got to the turn of a listed controller; `Refusal` and `Failure` are
  the two cases of what comes then.
* `refusal_or_failure` tells them from the result of a set-up.
-/

namespace Trellis

namespace Composition

variable {catalogue : Catalogue} {reflection : Reflection} {declared : Declared} {handle : Handle}
  {tasks : List Task} {before after start final : Assembly}

/-- A set-up comes to the turn of a controller: the services are built, all tasks before the turn are
done, and the controller is the next one that is listed. -/
structure ComesTo (reflection : Reflection) (start : Assembly) (declared : Declared)
    (handle : Handle) (before : Assembly) : Prop where
  reached : ∃ services ledger earlier later,
    start.composition.layer.build.run start.ledger = (.ok services, ledger) ∧
      start.composition.tasks = earlier ++ .wire declared handle :: later ∧
      (earlier.forM (perform reflection)).run (start.realized services ledger) = (.ok (), before)
  next : start.composition.listed[before.composition.controllers.length]? = some (declared, handle)

/-- A set-up refused by the strict policy: before the turn of a controller everything was well, and
at its turn nothing was done but to resolve it. -/
structure Refusal (reflection : Reflection) (start : Assembly) (declared : Declared)
    (handle : Handle) (omitted : List String) (before final : Assembly) : Prop extends
    ComesTo reflection start declared handle before where
  strict : start.composition.app.config.policy = .strict
  /-- No controller before it goes without anything. -/
  whole : before.Whole
  something : omitted ≠ []
  /-- Told are the unmatched parameters and then the dependencies that are not realized. -/
  told : omitted =
    (before.resolution reflection declared handle).unresolved.map (·.text) ++
      ((before.resolution reflection declared handle).dependencies.filter fun cls =>
        (before.composition.services.ofClass? cls).isNone).map
          fun cls => cls.name ++ " (not realized)"
  /-- The unmatched parameters stand in the order of the controller's signature. -/
  ordered : (before.resolution reflection declared handle).unresolved.Sublist
    ((Signature.params handle.signature).map (·.asUnresolved))
  /-- The controller was resolved, -/
  resolved : final = before.resolved reflection declared handle
  /-- and its constructor left alone: since then there were reports and nothing else. -/
  idle : final.composition = before.composition ∧
    ∃ events, final.ledger = (emitAll events before.ledger).2

/-- A set-up that ended with an error of a controller's constructor, which was run at the turn of the
controller, since the policy admitted that, on what is injected into it. -/
structure Failure (reflection : Reflection) (start : Assembly) (declared : Declared)
    (handle : Handle) (error : Error) (before final : Assembly) : Prop extends
    ComesTo reflection start declared handle before where
  admits : before.Admits reflection declared handle
  raised : ∃ construct ledger, reflection.store.controllerConstructor? handle = some construct ∧
    (construct (before.args reflection declared handle)).run
      (before.admitted reflection declared handle).ledger = (.error error, ledger) ∧
    final = { before.admitted reflection declared handle with ledger }

theorem Wiring.used {stop : Option Stop} (wiring : Wiring reflection tasks before stop final)
    (described : ∀ declared handle, .wire declared handle ∈ tasks → catalogue.Describes handle)
    (used : before.resolver.Used catalogue) : final.resolver.Used catalogue := by
  refine wiring.resolver_induction (Resolver.Used catalogue) ?_ used
  exact fun declared handle _ listed used =>
    used.resolve reflection (described declared handle listed) declared.available

/-! ## Where a wiring stops -/

/-- A wiring that is stopped has done the tasks before some controller and stopped at its turn. -/
theorem Wiring.exists_turn_of_stopped {stop : Stop}
    (wiring : Wiring reflection tasks before (some stop) final) :
    ∃ earlier declared handle later mid, tasks = earlier ++ .wire declared handle :: later ∧
      Wiring reflection earlier before none mid ∧
        Turn reflection declared handle mid (.error stop) final := by
  generalize ended : some stop = reason at wiring
  induction wiring with
  | done => cases ended
  | @gather declared rest before final reason later ih =>
    obtain ⟨earlier, module, handle, left, mid, split, wired, turn⟩ := ih ended
    exact ⟨.gather declared :: earlier, module, handle, left, mid, by rw [split]; rfl,
      .gather wired, turn⟩
  | @wired declared handle rest wired before mid final reason first later ih =>
    obtain ⟨earlier, module, other, left, last, split, wired, turn⟩ := ih ended
    exact ⟨.wire declared handle :: earlier, module, other, left, last, by rw [split]; rfl,
      .wired first wired, turn⟩
  | @stopped declared handle rest before final reason turn =>
    cases ended
    exact ⟨[], declared, handle, rest, before, rfl, .done before, turn⟩

theorem emitAll_append (first second : List Event) (ledger : Ledger) :
    (emitAll (first ++ second) ledger).2 = (emitAll second (emitAll first ledger).2).2 := by
  show { ledger with events := ledger.events ++ (first ++ second) } =
    { ledger with events := ledger.events ++ first ++ second }
  have events : ledger.events ++ (first ++ second) = ledger.events ++ first ++ second :=
    Array.ext' (by simp)
  rw [events]

/-- Resolving a controller writes nothing but reports. -/
theorem exists_events_resolved (reflection : Reflection) (declared : Declared) (handle : Handle)
    (before : Assembly) : ∃ events,
      (before.resolved reflection declared handle).ledger = (emitAll events before.ledger).2 := by
  let told := undecoratedEvents reflection.store handle.cls
  cases known : before.resolver.cached? declared.available.scope handle.cls with
  | some resolution =>
    refine ⟨told, ?_⟩
    show (before.resolver.resolve _ _ _ _).2 = _
    rw [Resolver.resolve, known]
    rfl
  | none =>
    refine ⟨told ++ before.resolver.computeEvents reflection handle declared.available, ?_⟩
    show (before.resolver.resolve _ _ _ _).2 = _
    rw [Resolver.resolve, known, emitAll_append]
    rfl

/-- Where a wiring stops, the next controller that is listed has its turn. -/
theorem Wiring.next_of_done {earlier later : List Task}
    (wiring : Wiring reflection earlier start none before)
    (split : tasks = earlier ++ .wire declared handle :: later)
    (fresh : start.composition.controllers = []) :
    (tasks.filterMap Task.listed?)[before.composition.controllers.length]? =
      some (declared, handle) := by
  obtain ⟨sites, left, made, listed, controllers, each, complete⟩ := wiring.constructed
  obtain rfl := complete rfl
  rw [fresh, List.nil_append] at controllers
  rw [List.append_nil] at listed
  rw [split, List.filterMap_append, listed, controllers, ← each.length_eq,
    List.getElem?_append_right (Nat.le_refl _), Nat.sub_self]
  rfl

/-- A wiring that was stopped at the turn of a controller has come to that turn. -/
theorem Wiring.comesTo {services : Context} {ledger : Ledger} {earlier later : List Task}
    (built : start.composition.layer.build.run start.ledger = (.ok services, ledger))
    (split : start.composition.tasks = earlier ++ .wire declared handle :: later)
    (done : Wiring reflection earlier (start.realized services ledger) none before)
    (fresh : start.composition.controllers = []) :
    ComesTo reflection start declared handle before where
  reached := ⟨services, ledger, earlier, later, built, split,
    run_forM_perform_iff.mpr ⟨_, done, rfl⟩⟩
  next := by
    rw [← filterMap_listed?_tasks]
    exact done.next_of_done split fresh

/-! ## Which of the two it was -/

/-- A controller that goes without something at its turn is refused by the strict policy. -/
theorem ComesTo.refusal (comesTo : ComesTo reflection start declared handle before)
    (strict : start.composition.app.config.policy = .strict) (whole : before.Whole)
    (used : before.resolver.Used catalogue) (described : catalogue.Describes handle)
    (omission : before.omitted reflection declared handle ≠ []) :
    Refusal reflection start declared handle (before.omitted reflection declared handle) before
      (before.resolved reflection declared handle) where
  toComesTo := comesTo
  strict := strict
  whole := whole
  something := omission
  told := rfl
  ordered := by
    obtain ⟨sources, wanted, available, -, -, resolution⟩ :=
      used.sound.resolution reflection described declared.available
    show (before.resolver.resolution _ _ _).unresolved.Sublist _
    rw [resolution, described.signature]
    exact unresolved_resolve_sublist sources wanted _ available
  resolved := rfl
  idle := ⟨rfl, exists_events_resolved reflection declared handle before⟩

/-- Building a layer never fails with unresolved dependencies: what it fails with tells what could not
be constructed. -/
theorem ne_unresolved_of_build {layer : Layer} {error : Error} {name : String}
    {omitted : List String} {ledger later : Ledger}
    (failed : layer.build.run ledger = (.error error, later)) :
    error ≠ .unresolvedDependencies name omitted := by
  obtain ⟨-, failing, -, -, -, cause, -, -, -, rfl⟩ := Layer.exists_failing_of_build failed
  intro same
  have told := failing.isOfConstruction_failure cause
  rw [same] at told
  cases told

/-- A first set-up that ends with unresolved dependencies was refused, or a constructor failed so. -/
theorem refusal_or_failure {name : String} {omitted : List String}
    (used : start.resolver.Used catalogue)
    (described : ∀ site ∈ start.composition.listed, catalogue.Describes site.2)
    (fresh : start.composition.Fresh)
    (ran : (setup reflection).run start = (.error (.unresolvedDependencies name omitted), final)) :
    ∃ declared handle before,
      (name = handle.name ∧ Refusal reflection start declared handle omitted before final) ∨
      Failure reflection start declared handle (.unresolvedDependencies name omitted) before
        final := by
  have describes : ∀ declared handle, .wire declared handle ∈ start.composition.tasks →
      catalogue.Describes handle := fun declared handle member =>
    described _ (mem_listed_iff.mpr (wire_mem_tasks_iff.mp member))
  obtain ⟨stop, setsUp, result⟩ := run_setup_iff.mp ran
  cases setsUp with
  | repeated | done => cases result
  | unbuilt _ failed =>
    obtain rfl := Except.error.inj result
    exact absurd rfl (ne_unresolved_of_build failed)
  | @stopped services ledger stop _ composed built wiring =>
    obtain ⟨earlier, declared, handle, later, before, split, done, turn⟩ :=
      wiring.exists_turn_of_stopped
    have comesTo := Wiring.comesTo built split done fresh.controllers
    refine ⟨declared, handle, before, ?_⟩
    cases turn with
    | unknown => cases result
    | failed admits known failed =>
      obtain rfl := Except.error.inj result
      exact .inr ⟨comesTo, admits, _, _, known, failed, rfl⟩
    | refused omission strict =>
      cases result
      -- The policy is still that of the start, where no controller was wired yet.
      have policy : start.composition.app.config.policy = .strict := by
        obtain ⟨made, left, composition, -⟩ := done.composition
        rw [composition] at strict
        exact strict
      have none : (start.realized services ledger).Whole := by
        intro wired member
        exact absurd (fresh.controllers ▸ member) List.not_mem_nil
      have resolver : before.resolver.Used catalogue := by
        refine done.used (fun module other member => describes module other ?_) used
        rw [split]
        exact List.mem_append_left _ member
      have own : catalogue.Describes handle := describes declared handle (by rw [split]; simp)
      exact .inl ⟨rfl,
        comesTo.refusal policy (done.whole_of_strict policy none) resolver own omission⟩

/-- A parameter that matches no provider is told as it stands, a provider that is not realized by
its class. -/
example :
    let page : Blueprint :=
      { cls := .named "Page"
        signature := "constructor(note: Note, clock: Clock)"
        making := .controller }
    let root : Declared :=
      { cls := .named "App"
        metadata :=
          { controllers := [page.handle .controller]
            providers := [(Class.named "Note").handle] } }
    let app : App := { logger := {}, config := { policy := .strict } }
    let composition : Composition :=
      { root, imported := [], app, layer := [], stage := .layersComposed }
    ((setup { store := { name := "main" } }).run ⟨composition, {}, {}⟩).1.mapError Error.message =
      .error "Unresolved dependencies for Page: clock: Clock, Note (not realized)" := by
  decide +kernel

end Composition

end Trellis
