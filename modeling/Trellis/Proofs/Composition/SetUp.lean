import Trellis.Composition.Report
import Trellis.Proofs.Steps
/-!
# The course of a set-up

A set-up realizes the services and then gives every controller its turn, module by module. What can
happen is said here once, as rules: `Turn` for one controller, `Wiring` for all of them, `SetsUp`
for the whole. A set-up that stops is told apart by what stopped it, so that an error the
composition raises itself is not taken for one that a constructor made.

The rules say no more and no less than `setup` does: `run_setup_iff`.
-/

namespace Trellis

/-- What stops a set-up. -/
inductive Stop where
  /-- It is not the first one. -/
  | stage (found : Stage)
  /-- A provision of the layer could not be built. -/
  | provision (error : Error)
  /-- The strict policy refuses a controller with omitted arguments. -/
  | refused (handle : Handle) (omitted : List String)
  /-- No constructor of a controller is known. -/
  | unknown (handle : Handle)
  /-- The constructor of a controller failed. -/
  | failed (handle : Handle) (error : Error)

namespace Stop

def error : Stop → Error
  | stage found => .invalidState Stage.layersComposed.name found.name
  | provision error => error
  | refused handle omitted => .unresolvedDependencies handle.name omitted
  | unknown handle => .construction handle.name "class is not a controller" none
  | failed _ error => error

/-- The result of work that something may have stopped. -/
def result : Option Stop → Except Error Unit
  | none => .ok ()
  | some stop => .error stop.error

theorem result_eq_ok_iff {stop : Option Stop} : result stop = .ok () ↔ stop = none := by
  cases stop <;> simp [result]

end Stop

/-- One thing to do once the services are realized. -/
inductive Task where
  /-- Gather what the controllers of a module may depend on. -/
  | gather (declared : Declared)
  /-- Wire a controller of a module. -/
  | wire (declared : Declared) (handle : Handle)

/-- The controller that a task wires, with the module that declares it. -/
def Task.place? : Task → Option (Class × Class)
  | gather _ => none
  | wire declared handle => some (declared.cls, handle.cls)

/-- The class of a wired controller, with the module that declares it. -/
def Wired.place (wired : Wired) : Class × Class :=
  (wired.module, wired.cls)

namespace Declared

/-- What the controllers of a module may depend on. -/
def available (declared : Declared) : Available :=
  Available.insertAll { scope := .module declared.cls } (declared.metadata.providers.map (·.cls))

def tasks (declared : Declared) : List Task :=
  .gather declared :: declared.metadata.controllers.map (.wire declared)

end Declared

namespace Composition

def tasks (composition : Composition) : List Task :=
  composition.modules.flatMap Declared.tasks

/-- The controllers in the order of wiring, each with the module that declares it. -/
def plan (composition : Composition) : List (Class × Class) :=
  composition.modules.flatMap fun declared =>
    declared.metadata.controllers.map fun handle => (declared.cls, handle.cls)

end Composition

namespace Assembly

variable (reflection : Reflection) (declared : Declared) (handle : Handle)

/-- The assembly with some events reported. -/
def report (events : List Event) (assembly : Assembly) : Assembly :=
  { assembly with ledger := (emitAll events assembly.ledger).2 }

/-- After what a module's controllers may depend on was gathered. -/
def gathered (assembly : Assembly) : Assembly :=
  { assembly with
    ledger := (Available.addAll { scope := .module declared.cls }
      (declared.metadata.providers.map (·.cls)) assembly.ledger).2 }

/-- The resolution of a controller at its turn. -/
def resolution (assembly : Assembly) : Resolution :=
  assembly.resolver.resolution reflection handle declared.available

/-- What a controller goes without at its turn. -/
def omitted (assembly : Assembly) : List String :=
  (assembly.resolution reflection declared handle).omitted assembly.composition.services

/-- After a controller was resolved. -/
def resolved (assembly : Assembly) : Assembly :=
  let told := assembly.report (Composition.undecoratedEvents reflection.store handle.cls)
  { told with
    resolver := assembly.resolver.learning reflection handle declared.available
    ledger := (assembly.resolver.resolve reflection handle declared.available told.ledger).2 }

/-- Whether a controller may be wired at its turn. -/
def Admits (assembly : Assembly) : Prop :=
  ¬ (assembly.omitted reflection declared handle ≠ [] ∧
    assembly.composition.app.config.policy = .strict)

/-- After a controller was resolved and admitted. -/
def admitted (assembly : Assembly) : Assembly :=
  (assembly.resolved reflection declared handle).report
    ((assembly.omitted reflection declared handle).map
      (Composition.omittedEvent declared.cls handle.cls))

/-- The instances injected into a controller at its turn. -/
def injected (assembly : Assembly) : List Instance :=
  (assembly.resolution reflection declared handle).injected assembly.composition.services

/-- What a controller's constructor is given at its turn. -/
def args (assembly : Assembly) : Args :=
  { assembly.composition.app.args with
    dependencies := assembly.injected reflection declared handle }

/-- The wired controller around an object. -/
def wired (subject : Instance) (assembly : Assembly) : Wired where
  module := declared.cls
  cls := handle.cls
  controller := { subject, services := assembly.composition.services }
  resolution := assembly.resolution reflection declared handle

/-- After a controller was made and wired; its constructor left the ledger. -/
def wiring (subject : Instance) (ledger : Ledger) (assembly : Assembly) : Assembly :=
  let wired := assembly.wired reflection declared handle subject
  { composition :=
      { assembly.composition with controllers := assembly.composition.controllers ++ [wired] }
    resolver := assembly.resolver.learning reflection handle declared.available
    ledger := (emit (Composition.wiredEvent wired
      (assembly.injected reflection declared handle).length) ledger).2 }

/-- After the services were realized; building them left the ledger. -/
def realized (services : Context) (ledger : Ledger) (assembly : Assembly) : Assembly :=
  { assembly with
    composition := { assembly.composition with services, stage := .servicesRealized }
    ledger := (emit (Composition.realizedEvent { assembly.composition with services }) ledger).2 }

/-- After all controllers were wired. -/
def finished (assembly : Assembly) : Assembly :=
  let composition := { assembly.composition with stage := .controllersWired }
  { assembly with
    composition
    ledger := (emit composition.setUpEvent assembly.ledger).2 }

end Assembly

namespace Composition

/-- The turn of a controller. -/
inductive Turn (reflection : Reflection) (declared : Declared) (handle : Handle)
    (before : Assembly) : Except Stop Wired → Assembly → Prop
  | refused (omission : before.omitted reflection declared handle ≠ [])
      (strict : before.composition.app.config.policy = .strict) :
      Turn reflection declared handle before
        (.error (.refused handle (before.omitted reflection declared handle)))
        (before.resolved reflection declared handle)
  | unknown (admits : before.Admits reflection declared handle)
      (unknown : reflection.store.controllerConstructor? handle = none) :
      Turn reflection declared handle before (.error (.unknown handle))
        (before.admitted reflection declared handle)
  | failed {construct : Constructor} {error : Error} {ledger : Ledger}
      (admits : before.Admits reflection declared handle)
      (known : reflection.store.controllerConstructor? handle = some construct)
      (failed : (construct (before.args reflection declared handle)).run
        (before.admitted reflection declared handle).ledger = (.error error, ledger)) :
      Turn reflection declared handle before (.error (.failed handle error))
        { before.admitted reflection declared handle with ledger }
  | wired {construct : Constructor} {subject : Instance} {ledger : Ledger}
      (admits : before.Admits reflection declared handle)
      (known : reflection.store.controllerConstructor? handle = some construct)
      (made : (construct (before.args reflection declared handle)).run
        (before.admitted reflection declared handle).ledger = (.ok subject, ledger)) :
      Turn reflection declared handle before
        (.ok (before.wired reflection declared handle subject))
        (before.wiring reflection declared handle subject ledger)

/-- The tasks one after the other, up to one that is stopped. -/
inductive Wiring (reflection : Reflection) : List Task → Assembly → Option Stop → Assembly → Prop
  | done (final : Assembly) : Wiring reflection [] final none final
  | gather {declared : Declared} {rest : List Task} {before final : Assembly} {stop : Option Stop}
      (later : Wiring reflection rest (before.gathered declared) stop final) :
      Wiring reflection (.gather declared :: rest) before stop final
  | wired {declared : Declared} {handle : Handle} {rest : List Task} {wired : Wired}
      {before mid final : Assembly} {stop : Option Stop}
      (turn : Turn reflection declared handle before (.ok wired) mid)
      (later : Wiring reflection rest mid stop final) :
      Wiring reflection (.wire declared handle :: rest) before stop final
  | stopped {declared : Declared} {handle : Handle} {rest : List Task} {before final : Assembly}
      {stop : Stop} (turn : Turn reflection declared handle before (.error stop) final) :
      Wiring reflection (.wire declared handle :: rest) before (some stop) final

/-- A set-up. -/
inductive SetsUp (reflection : Reflection) (start : Assembly) : Option Stop → Assembly → Prop
  | repeated (later : start.composition.stage ≠ .layersComposed) :
      SetsUp reflection start (some (.stage start.composition.stage)) start
  | unbuilt {error : Error} {ledger : Ledger} (composed : start.composition.stage = .layersComposed)
      (failed : start.composition.layer.build.run start.ledger = (.error error, ledger)) :
      SetsUp reflection start (some (.provision error)) { start with ledger }
  | stopped {services : Context} {ledger : Ledger} {stop : Stop} {final : Assembly}
      (composed : start.composition.stage = .layersComposed)
      (built : start.composition.layer.build.run start.ledger = (.ok services, ledger))
      (wiring : Wiring reflection start.composition.tasks (start.realized services ledger)
        (some stop) final) :
      SetsUp reflection start (some stop) final
  | done {services : Context} {ledger : Ledger} {last : Assembly}
      (composed : start.composition.stage = .layersComposed)
      (built : start.composition.layer.build.run start.ledger = (.ok services, ledger))
      (wiring : Wiring reflection start.composition.tasks (start.realized services ledger)
        none last) :
      SetsUp reflection start none last.finished

end Composition

/-! ## The steps a set-up is made of -/

namespace Assemble

variable {α β : Type} {assembly : Assembly}

theorem run_get_bind (next : Assembly → Assemble β) :
    ((get : Assemble Assembly) >>= next).run assembly = (next assembly).run assembly := rfl

theorem run_logged_bind (work : Logged α) (next : α → Assemble β) :
    (logged work >>= next).run assembly =
      (next (work assembly.ledger).1).run { assembly with ledger := (work assembly.ledger).2 } :=
  rfl

theorem run_build_bind_of_ok {work : Build α} {next : α → Assemble β} {a : α} {ledger : Ledger}
    (built : work.run assembly.ledger = (.ok a, ledger)) :
    (build work >>= next).run assembly = (next a).run { assembly with ledger } := by
  have done : work assembly.ledger = (.ok a, ledger) := built
  refine Steps.run_bind_of_ok ?_
  show ((work assembly.ledger).1, _) = _
  rw [done]

theorem run_build_bind_of_error {work : Build α} {next : α → Assemble β} {error : Error}
    {ledger : Ledger} (built : work.run assembly.ledger = (.error error, ledger)) :
    (build work >>= next).run assembly = (.error error, { assembly with ledger }) := by
  have failed : work assembly.ledger = (.error error, ledger) := built
  refine Steps.run_bind_of_error ?_
  show ((work assembly.ledger).1, _) = _
  rw [failed]

theorem run_resolve_bind (reflection : Reflection) (handle : Handle) (available : Available)
    (next : Resolution → Assemble β) :
    (resolve reflection handle available >>= next).run assembly =
      (next (assembly.resolver.resolution reflection handle available)).run
        { assembly with
          resolver := assembly.resolver.learning reflection handle available
          ledger :=
            (assembly.resolver.resolve reflection handle available assembly.ledger).2 } := by
  have resolved := assembly.resolver.resolve_fst reflection handle available assembly.ledger
  have resolution := congrArg Prod.fst resolved
  have resolver := congrArg Prod.snd resolved
  dsimp only at resolution resolver
  rw [← resolution, ← resolver]
  rfl

end Assemble

/-! ## The rules say what a set-up does -/

namespace Composition

variable {reflection : Reflection} {declared : Declared} {handle : Handle} {before after : Assembly}

/-- What wiring a controller comes to, as one expression. -/
theorem run_wireController (reflection : Reflection) (declared : Declared) (handle : Handle)
    (before : Assembly) :
    (wireController reflection declared.cls declared.available handle).run before =
      if before.omitted reflection declared handle ≠ [] ∧
          before.composition.app.config.policy = .strict then
        (.error (.unresolvedDependencies handle.name (before.omitted reflection declared handle)),
          before.resolved reflection declared handle)
      else
        match reflection.store.controllerConstructor? handle with
        | none =>
          (.error (.construction handle.name "class is not a controller" none),
            before.admitted reflection declared handle)
        | some construct =>
          match (construct (before.args reflection declared handle)).run
            (before.admitted reflection declared handle).ledger with
          | (.error error, ledger) =>
            (.error error, { before.admitted reflection declared handle with ledger })
          | (.ok subject, ledger) =>
            (.ok (), before.wiring reflection declared handle subject ledger) := by
  simp only [wireController, Assemble.run_get_bind, Assemble.run_logged_bind,
    Assemble.run_resolve_bind]
  split
  · rw [if_pos ‹_›]
    rfl
  · rw [if_neg ‹_›]
    simp only [Assemble.run_logged_bind]
    cases reflection.store.controllerConstructor? handle with
    | none => rfl
    | some construct =>
      dsimp only
      rcases made : (construct (before.args reflection declared handle)).run
        (before.admitted reflection declared handle).ledger with ⟨error | subject, ledger⟩
      · exact Assemble.run_build_bind_of_error made
      · exact Assemble.run_build_bind_of_ok made

/-- What a task does. -/
def perform (reflection : Reflection) : Task → Assemble Unit
  | .gather declared =>
    Assemble.logged do
      let _ ← Available.addAll { scope := .module declared.cls }
        (declared.metadata.providers.map (·.cls))
  | .wire declared handle => wireController reflection declared.cls declared.available handle

theorem run_wireController_iff {result : Except Error Unit} :
    (wireController reflection declared.cls declared.available handle).run before =
        (result, after) ↔
      ∃ outcome, Turn reflection declared handle before outcome after ∧
        result = (outcome.map fun _ => ()).mapError Stop.error := by
  rw [run_wireController]
  constructor
  · -- Each way through the function is one of the rules.
    intro ran
    split at ran
    next refusal =>
      cases ran
      exact ⟨_, .refused refusal.1 refusal.2, rfl⟩
    next admits =>
      cases known : reflection.store.controllerConstructor? handle with
      | none =>
        rw [known] at ran
        cases ran
        exact ⟨_, .unknown admits known, rfl⟩
      | some construct =>
        rcases made : (construct (before.args reflection declared handle)).run
          (before.admitted reflection declared handle).ledger with ⟨error | subject, ledger⟩
        · simp only [known, made] at ran
          cases ran
          exact ⟨_, .failed admits known made, rfl⟩
        · simp only [known, made] at ran
          cases ran
          exact ⟨_, .wired admits known made, rfl⟩
  · rintro ⟨outcome, turn, rfl⟩
    cases turn with
    | refused omission strict => rw [if_pos ⟨omission, strict⟩]; rfl
    | unknown admits unknown => rw [if_neg admits, unknown]; rfl
    | failed admits known failed => simp only [if_neg admits, known, failed]; rfl
    | wired admits known made => simp only [if_neg admits, known, made]; rfl

/-- Wiring a module is doing its tasks. -/
theorem wireModule_eq_forM (reflection : Reflection) (declared : Declared) :
    wireModule reflection declared = declared.tasks.forM (perform reflection) := by
  funext assembly
  have gathered := Available.addAll_fst { scope := .module declared.cls }
    (declared.metadata.providers.map (·.cls)) assembly.ledger
  show (wireModule reflection declared).run assembly =
    (perform reflection (.gather declared) >>= fun _ =>
      (declared.metadata.controllers.map (.wire declared)).forM (perform reflection)).run assembly
  rw [List.forM_eq_forM, List.forM_map, wireModule, Assemble.run_logged_bind, gathered]
  rfl

theorem forM_wireModule (reflection : Reflection) (modules : List Declared) :
    modules.forM (wireModule reflection) =
      (modules.flatMap Declared.tasks).forM (perform reflection) := by
  simp only [List.forM_eq_forM]
  induction modules with
  | nil => rfl
  | cons declared rest ih =>
    rw [List.forM_cons, ih, List.flatMap_cons, List.forM_append, wireModule_eq_forM,
      List.forM_eq_forM]

theorem run_forM_perform_iff {tasks : List Task} {result : Except Error Unit} {final : Assembly} :
    (tasks.forM (perform reflection)).run before = (result, final) ↔
      ∃ stop, Wiring reflection tasks before stop final ∧ result = Stop.result stop := by
  induction tasks generalizing before with
  | nil =>
    constructor
    · rintro ⟨⟩
      exact ⟨none, .done _, rfl⟩
    · rintro ⟨stop, ⟨⟩, rfl⟩
      rfl
  | cons task rest ih =>
    show (perform reflection task >>= fun _ => rest.forM (perform reflection)).run before = _ ↔ _
    cases task with
    | gather declared =>
      show (rest.forM (perform reflection)).run (before.gathered declared) = _ ↔ _
      rw [ih]
      constructor
      · rintro ⟨stop, later, same⟩
        exact ⟨stop, .gather later, same⟩
      · rintro ⟨stop, wiring, same⟩
        cases wiring with
        | gather later => exact ⟨stop, later, same⟩
    | wire declared handle =>
      -- A turn that is stopped ends the tasks, any other is followed by the rest of them.
      constructor
      · intro ran
        rcases first : (perform reflection (.wire declared handle)).run before with ⟨outcome, mid⟩
        obtain ⟨turned, turn, same⟩ := run_wireController_iff.mp first
        rcases turned with stop | wired
        · rw [Steps.run_bind_of_error (first.trans (by rw [same]; rfl))] at ran
          cases ran
          exact ⟨some stop, .stopped turn, rfl⟩
        · rw [Steps.run_bind_of_ok (first.trans (by rw [same]; rfl))] at ran
          obtain ⟨stop, later, same⟩ := ih.mp ran
          exact ⟨stop, .wired turn later, same⟩
      · rintro ⟨stop, wiring, rfl⟩
        cases wiring with
        | wired turn later =>
          have done : (perform reflection (.wire declared handle)).run before = (.ok (), _) :=
            run_wireController_iff.mpr ⟨_, turn, rfl⟩
          rw [Steps.run_bind_of_ok done]
          exact ih.mpr ⟨stop, later, rfl⟩
        | stopped turn => exact Steps.run_bind_of_error (run_wireController_iff.mpr ⟨_, turn, rfl⟩)

theorem run_realize_of_ok {assembly : Assembly} {services : Context} {ledger : Ledger}
    (built : assembly.composition.layer.build.run assembly.ledger = (.ok services, ledger)) :
    realize.run assembly = (.ok (), assembly.realized services ledger) := by
  rw [realize, Assemble.run_get_bind]
  exact Assemble.run_build_bind_of_ok built

theorem run_realize_of_error {assembly : Assembly} {error : Error} {ledger : Ledger}
    (failed : assembly.composition.layer.build.run assembly.ledger = (.error error, ledger)) :
    realize.run assembly = (.error error, { assembly with ledger }) := by
  rw [realize, Assemble.run_get_bind]
  exact Assemble.run_build_bind_of_error failed

theorem run_wire_of_done {start last : Assembly}
    (wiring : Wiring reflection start.composition.tasks start none last) :
    (wire reflection).run start = (.ok (), last.finished) := by
  have done : (start.composition.modules.forM (wireModule reflection)).run start =
      (.ok (), last) := by
    rw [forM_wireModule]
    exact run_forM_perform_iff.mpr ⟨none, wiring, rfl⟩
  rw [wire, Assemble.run_get_bind, Steps.run_bind_of_ok done]
  rfl

theorem run_wire_of_stopped {start final : Assembly} {stop : Stop}
    (wiring : Wiring reflection start.composition.tasks start (some stop) final) :
    (wire reflection).run start = (.error stop.error, final) := by
  have stopped : (start.composition.modules.forM (wireModule reflection)).run start =
      (.error stop.error, final) := by
    rw [forM_wireModule]
    exact run_forM_perform_iff.mpr ⟨some stop, wiring, rfl⟩
  rw [wire, Assemble.run_get_bind, Steps.run_bind_of_error stopped]

/-- The tasks can always be done, as far as something stops them. -/
theorem exists_wiring (reflection : Reflection) (tasks : List Task) (start : Assembly) :
    ∃ stop final, Wiring reflection tasks start stop final := by
  rcases ran : (tasks.forM (perform reflection)).run start with ⟨result, final⟩
  obtain ⟨stop, wiring, -⟩ := run_forM_perform_iff.mp ran
  exact ⟨stop, final, wiring⟩

theorem run_setup_of_setsUp {start final : Assembly} {stop : Option Stop}
    (setsUp : SetsUp reflection start stop final) :
    (setup reflection).run start = (Stop.result stop, final) := by
  rw [setup, Assemble.run_get_bind]
  cases setsUp with
  | repeated later =>
    rw [if_pos later]
    rfl
  | unbuilt composed failed =>
    rw [if_neg (not_not_intro composed)]
    exact Steps.run_bind_of_error (run_realize_of_error failed)
  | stopped composed built wiring =>
    rw [if_neg (not_not_intro composed)]
    refine (Steps.run_bind_of_ok (run_realize_of_ok built)).trans ?_
    exact run_wire_of_stopped wiring
  | done composed built wiring =>
    rw [if_neg (not_not_intro composed)]
    refine (Steps.run_bind_of_ok (run_realize_of_ok built)).trans ?_
    exact run_wire_of_done wiring

theorem exists_setsUp (reflection : Reflection) (start : Assembly) :
    ∃ stop final, SetsUp reflection start stop final := by
  by_cases composed : start.composition.stage = .layersComposed
  · rcases built : start.composition.layer.build.run start.ledger with ⟨error | services, ledger⟩
    · exact ⟨_, _, .unbuilt composed built⟩
    · obtain ⟨stop, final, wiring⟩ := exists_wiring reflection start.composition.tasks
        (start.realized services ledger)
      cases stop with
      | none => exact ⟨_, _, .done composed built wiring⟩
      | some stop => exact ⟨_, _, .stopped composed built wiring⟩
  · exact ⟨_, _, .repeated composed⟩

/-- The rules of a set-up say what it does. -/
theorem run_setup_iff {start final : Assembly} {result : Except Error Unit} :
    (setup reflection).run start = (result, final) ↔
      ∃ stop, SetsUp reflection start stop final ∧ result = Stop.result stop := by
  constructor
  · intro ran
    obtain ⟨stop, last, setsUp⟩ := exists_setsUp reflection start
    have same := ran.symm.trans (run_setup_of_setsUp setsUp)
    cases same
    exact ⟨stop, setsUp, rfl⟩
  · rintro ⟨stop, setsUp, rfl⟩
    exact run_setup_of_setsUp setsUp

/-! ## What a set-up leaves alone -/

theorem wire_mem_tasks_iff {composition : Composition} :
    .wire declared handle ∈ composition.tasks ↔
      declared ∈ composition.modules ∧ handle ∈ declared.metadata.controllers := by
  simp only [tasks, Declared.tasks, List.mem_flatMap, List.mem_cons, List.mem_map, reduceCtorEq,
    false_or, Task.wire.injEq]
  constructor
  · rintro ⟨_, module, _, listed, rfl, rfl⟩
    exact ⟨module, listed⟩
  · rintro ⟨module, listed⟩
    exact ⟨declared, module, handle, listed, rfl, rfl⟩

theorem filterMap_place?_wire (declared : Declared) (handles : List Handle) :
    (handles.map (.wire declared)).filterMap Task.place? =
      handles.map fun handle => (declared.cls, handle.cls) := by
  rw [List.filterMap_map]
  exact congrFun List.filterMap_eq_map' handles

/-- Among the tasks, the controllers stand as planned. -/
theorem filterMap_place?_tasks (composition : Composition) :
    composition.tasks.filterMap Task.place? = composition.plan := by
  rw [tasks, plan, List.filterMap_flatMap]
  congr 1
  funext declared
  exact filterMap_place?_wire declared declared.metadata.controllers

/-- Every controller of a plan is declared by a module of the composition. -/
theorem exists_declared_of_mem_plan {composition : Composition} {place : Class × Class}
    (planned : place ∈ composition.plan) : ∃ declared ∈ composition.modules,
      ∃ handle ∈ declared.metadata.controllers, place = (declared.cls, handle.cls) := by
  obtain ⟨declared, module, listed⟩ := List.mem_flatMap.mp planned
  obtain ⟨handle, member, rfl⟩ := List.mem_map.mp listed
  exact ⟨declared, module, handle, member, rfl⟩

/-- A turn adds the wired controller, if there is one, and nothing else. -/
theorem Turn.composition {outcome : Except Stop Wired}
    (turn : Turn reflection declared handle before outcome after) :
    after.composition =
      { before.composition with
        controllers := before.composition.controllers ++ outcome.toOption.toList } := by
  have none : before.composition.controllers ++ [] = before.composition.controllers :=
    List.append_nil _
  cases turn with
  | refused | unknown | failed => simp only [Except.toOption, Option.toList, none]; rfl
  | wired => rfl

/-- What was wired stands where it was planned. -/
theorem Turn.place {wired : Wired}
    (turn : Turn reflection declared handle before (.ok wired) after) :
    wired.place = (declared.cls, handle.cls) := by
  cases turn
  rfl

/-- Wiring adds controllers as they are planned, all of them unless something stops it, and changes
nothing else of the composition. -/
theorem Wiring.composition {tasks : List Task} {stop : Option Stop} {final : Assembly}
    (wiring : Wiring reflection tasks before stop final) :
    ∃ made : List Wired, ∃ left : List (Class × Class),
      final.composition =
        { before.composition with controllers := before.composition.controllers ++ made } ∧
      tasks.filterMap Task.place? = made.map Wired.place ++ left ∧ (stop = none ↔ left = []) := by
  induction wiring with
  | done final => exact ⟨[], [], by simp, rfl, by simp⟩
  | gather _ ih => exact ih
  | @wired _ _ _ wired _ _ _ _ turn _ ih =>
    obtain ⟨made, left, composition, planned, complete⟩ := ih
    refine ⟨wired :: made, left, ?_, ?_, complete⟩
    · rw [composition, turn.composition]
      simp [Except.toOption]
    · simpa [Task.place?, turn.place] using planned
  | @stopped declared handle rest before _ _ turn =>
    refine ⟨[], _, ?_, rfl, by simp⟩
    rw [turn.composition]
    rfl

/-- What holds of every controller as it is wired, and of those that were wired before, holds of all
of them: the services and the application are the same at every turn. -/
theorem Wiring.forall_wired {holds : Wired → Prop} {tasks : List Task} {stop : Option Stop}
    {final : Assembly} (wiring : Wiring reflection tasks before stop final)
    (made : ∀ declared handle mid after wired,
      Turn reflection declared handle mid (.ok wired) after →
        mid.composition.services = before.composition.services →
          mid.composition.app = before.composition.app → holds wired)
    (all : ∀ wired ∈ before.composition.controllers, holds wired) :
    ∀ wired ∈ final.composition.controllers, holds wired := by
  induction wiring with
  | done final => exact all
  | gather _ ih => exact ih made all
  | @wired declared handle rest wired before mid final stop turn later ih =>
    have services : mid.composition.services = before.composition.services := by
      rw [turn.composition]
    have app : mid.composition.app = before.composition.app := by
      rw [turn.composition]
    refine ih (fun declared handle start after other turn same alike =>
      made declared handle start after other turn (same.trans services) (alike.trans app)) ?_
    intro other member
    rw [turn.composition] at member
    rcases List.mem_append.mp member with earlier | new
    · exact all other earlier
    · obtain rfl : other = wired := by simpa [Except.toOption] using new
      exact made declared handle before mid other turn rfl rfl
  | stopped turn =>
    rw [turn.composition]
    simpa [Except.toOption] using all

/-- A set-up whose layer is built has the services and wires controllers as they are planned: all of
them unless something stops it. -/
theorem SetsUp.composition_of_built {start final : Assembly} {stop : Option Stop}
    {services : Context} {ledger : Ledger} (setsUp : SetsUp reflection start stop final)
    (composed : start.composition.stage = .layersComposed)
    (built : start.composition.layer.build.run start.ledger = (.ok services, ledger)) :
    ∃ made : List Wired, ∃ left : List (Class × Class),
      final.composition =
        { start.composition with
          services
          stage := if stop.isNone then .controllersWired else .servicesRealized
          controllers := start.composition.controllers ++ made } ∧
      start.composition.plan = made.map Wired.place ++ left ∧ (stop = none ↔ left = []) := by
  cases setsUp with
  | repeated later => exact absurd composed later
  | unbuilt _ failed => cases failed.symm.trans built
  | stopped _ same wiring =>
    cases same.symm.trans built
    obtain ⟨made, left, composition, planned, complete⟩ := wiring.composition
    rw [filterMap_place?_tasks] at planned
    exact ⟨made, left, composition, planned, complete⟩
  | @done _ _ last _ same wiring =>
    cases same.symm.trans built
    obtain ⟨made, left, composition, planned, complete⟩ := wiring.composition
    rw [filterMap_place?_tasks] at planned
    refine ⟨made, left, ?_, planned, complete⟩
    show { last.composition with stage := .controllersWired } = _
    rw [composition]
    rfl

/-- Whatever becomes of a set-up, it changes nothing of the composition but its services, its stage
and its controllers, to which it adds as they are planned: all of them, if nothing stops it. -/
theorem SetsUp.exists_composition {start final : Assembly} {stop : Option Stop}
    (setsUp : SetsUp reflection start stop final) :
    ∃ (services : Context) (stage : Stage) (made : List Wired) (left : List (Class × Class)),
      final.composition =
        { start.composition with
          services
          stage
          controllers := start.composition.controllers ++ made } ∧
      start.composition.plan = made.map Wired.place ++ left ∧ (stop = none → left = []) := by
  cases setsUp with
  | repeated | unbuilt =>
    refine ⟨start.composition.services, start.composition.stage, [], start.composition.plan, ?_, rfl,
      nofun⟩
    rw [List.append_nil]
  | stopped composed built wiring =>
    obtain ⟨made, left, composition, planned, complete⟩ :=
      (SetsUp.stopped composed built wiring).composition_of_built composed built
    exact ⟨_, _, made, left, composition, planned, complete.mp⟩
  | done composed built wiring =>
    obtain ⟨made, left, composition, planned, complete⟩ :=
      (SetsUp.done composed built wiring).composition_of_built composed built
    exact ⟨_, _, made, left, composition, planned, complete.mp⟩

/-- A set-up is the application's own from the beginning to the end. -/
theorem SetsUp.app {start final : Assembly} {stop : Option Stop}
    (setsUp : SetsUp reflection start stop final) :
    final.composition.app = start.composition.app := by
  obtain ⟨services, stage, made, left, composition, -⟩ := setsUp.exists_composition
  rw [composition]

/-- A set-up that leaves a composition at its first stage leaves it as it is. -/
theorem SetsUp.composition_of_composed {start final : Assembly} {stop : Option Stop}
    (setsUp : SetsUp reflection start stop final)
    (still : final.composition.stage = .layersComposed) :
    final.composition = start.composition := by
  cases setsUp with
  | repeated | unbuilt => rfl
  | stopped composed built wiring =>
    obtain ⟨made, left, composition, -⟩ :=
      (SetsUp.stopped composed built wiring).composition_of_built composed built
    rw [composition] at still
    cases still
  | done => cases still

theorem SetsUp.same_modules {start final : Assembly} {stop : Option Stop}
    (setsUp : SetsUp reflection start stop final) :
    final.composition.modules = start.composition.modules := by
  obtain ⟨services, stage, made, left, composition, -⟩ := setsUp.exists_composition
  rw [composition]
  rfl

end Composition

end Trellis
