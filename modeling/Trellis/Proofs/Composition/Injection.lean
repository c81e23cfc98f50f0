import Mathlib.Data.List.Forall2
import Trellis.Proofs.Composition.SetUp
/-!
# What is injected

A set-up constructs the controllers that the modules list, one after the other. Each of them is made by
the constructor known for the very handle in the list, which is given the instances that the
controller's resolution finds among the realized services, in order.

* `Composition.listed` are the controllers as they are listed.
* `Constructed` says how a wired controller was made from a listed one.
* `constructed_of_setup` says it of all controllers of a set-up, whatever became of that, and
  `exists_listed_of_wired` of the one in a given place.
-/

namespace Trellis

/-- The controller that a task wires, as the module lists it. -/
def Task.listed? : Task → Option (Declared × Handle)
  | gather _ => none
  | wire declared handle => some (declared, handle)

namespace Composition

/-- The controllers in the order of wiring, each by the handle that a module lists. -/
def listed (composition : Composition) : List (Declared × Handle) :=
  composition.modules.flatMap fun declared => declared.metadata.controllers.map (declared, ·)

/-- What the constructor of a wired controller is given: the instances that the controller's resolution
finds among the services, beside what the application gives to all. -/
def given (composition : Composition) (wired : Wired) : Args :=
  { composition.app.args with
    dependencies := wired.resolution.injected composition.services }

/-- The controllers in the order of wiring, each with the classes of what was injected into it. -/
def injections (composition : Composition) : List ((Class × Class) × List Class) :=
  composition.controllers.map fun wired =>
    (wired.place, (composition.given wired).dependencies.map (·.cls))

/-- A wired controller is a listed one: the constructor that is known for the handle in the list made
its object, of what is given to it. -/
structure Constructed (store : Registry) (composition : Composition) (site : Declared × Handle)
    (wired : Wired) : Prop where
  place : wired.place = (site.1.cls, site.2.cls)
  made : ∃ construct, store.controllerConstructor? site.2 = some construct ∧ ∃ before after,
    (construct (composition.given wired)).run before = (.ok wired.controller.subject, after)

/-- What a controller is given depends on the services and the application alone. -/
theorem Constructed.congr {store : Registry} {composition other : Composition}
    {site : Declared × Handle} {wired : Wired}
    (constructed : Constructed store composition site wired)
    (services : other.services = composition.services) (app : other.app = composition.app) :
    Constructed store other site wired := by
  have given : other.given wired = composition.given wired := by rw [given, services, app, given]
  exact ⟨constructed.place, given ▸ constructed.made⟩

variable {reflection : Reflection} {declared : Declared} {handle : Handle} {tasks : List Task}
  {before after start final : Assembly} {stop : Option Stop}

/-- Among the tasks, the controllers stand as they are listed. -/
theorem filterMap_listed?_tasks (composition : Composition) :
    composition.tasks.filterMap Task.listed? = composition.listed := by
  rw [tasks, listed, List.filterMap_flatMap]
  congr 1
  funext declared
  show (declared.metadata.controllers.map (.wire declared)).filterMap Task.listed? = _
  rw [List.filterMap_map]
  exact congrFun List.filterMap_eq_map' declared.metadata.controllers

theorem mem_listed_iff {composition : Composition} :
    (declared, handle) ∈ composition.listed ↔
      declared ∈ composition.modules ∧ handle ∈ declared.metadata.controllers := by
  rw [← filterMap_listed?_tasks, ← wire_mem_tasks_iff, List.mem_filterMap]
  constructor
  · rintro ⟨task, member, same⟩
    cases task with
    | gather => cases same
    | wire => cases same; exact member
  · exact fun member => ⟨_, member, rfl⟩

/-! ## Turn by turn -/

theorem Turn.constructed {wired : Wired}
    (turn : Turn reflection declared handle before (.ok wired) after) :
    Constructed reflection.store before.composition (declared, handle) wired := by
  cases turn with
  | wired _ known made => exact ⟨rfl, _, known, _, _, made⟩

/-- The tasks wire the controllers that they list from the first one on, all of them unless something
stops it. -/
theorem Wiring.constructed (wiring : Wiring reflection tasks before stop final) :
    ∃ sites left made, tasks.filterMap Task.listed? = sites ++ left ∧
      final.composition.controllers = before.composition.controllers ++ made ∧
      List.Forall₂ (Constructed reflection.store before.composition) sites made ∧
      (stop = none → left = []) := by
  induction wiring with
  | done final => exact ⟨[], [], [], rfl, by simp, .nil, fun _ => rfl⟩
  | gather _ ih => exact ih
  | @wired declared handle rest wired before mid final stop turn later ih =>
    obtain ⟨sites, left, made, split, controllers, each, complete⟩ := ih
    refine ⟨(declared, handle) :: sites, left, wired :: made, ?_, ?_, .cons turn.constructed ?_,
      complete⟩
    · rw [List.filterMap_cons_some (show Task.listed? (.wire declared handle) = _ from rfl), split]
      rfl
    · rw [controllers, turn.composition]
      simp [Except.toOption]
    · rw [turn.composition] at each
      exact each.imp fun site other constructed => constructed.congr rfl rfl
  | @stopped declared handle rest before final stop turn =>
    refine ⟨[], _, [], rfl, ?_, .nil, fun ended => absurd ended (Option.some_ne_none stop)⟩
    rw [turn.composition]
    rfl

/-- After the set-up of a composition without controllers, whatever became of it, the controllers are
those that are listed from the first one on, each constructed with what was injected into it. After a
success they are all that are listed. -/
theorem constructed_of_setup {result : Except Error Unit}
    (ran : (setup reflection).run start = (result, final))
    (fresh : start.composition.controllers = []) :
    List.Forall₂ (Constructed reflection.store final.composition)
        (start.composition.listed.take final.composition.controllers.length)
        final.composition.controllers ∧
      (result = .ok () →
        start.composition.listed.length = final.composition.controllers.length) := by
  obtain ⟨stop, setsUp, rfl⟩ := run_setup_iff.mp ran
  -- It is enough to know of a wiring that began with the services at hand.
  have all : ∀ {services ledger stop last},
      Wiring reflection start.composition.tasks (start.realized services ledger) stop last →
        List.Forall₂ (Constructed reflection.store last.composition)
            (start.composition.listed.take last.composition.controllers.length)
            last.composition.controllers ∧
          (stop = none →
            start.composition.listed.length = last.composition.controllers.length) := by
    intro services ledger stop last wiring
    obtain ⟨sites, left, made, split, controllers, each, complete⟩ := wiring.constructed
    obtain ⟨others, places, composition, -⟩ := wiring.composition
    have own : last.composition.controllers = made := by
      rw [controllers]
      exact congrArg (· ++ made) fresh
    rw [filterMap_listed?_tasks] at split
    refine ⟨?_, fun ended => ?_⟩
    · rw [own, split, ← each.length_eq, List.take_left, composition]
      exact each.imp fun site wired constructed => constructed.congr rfl rfl
    · rw [own, split, complete ended, List.append_nil, each.length_eq]
  cases setsUp with
  | repeated | unbuilt =>
    refine ⟨?_, nofun⟩
    rw [fresh]
    exact .nil
  | stopped _ _ wiring => exact ⟨(all wiring).1, nofun⟩
  | done _ _ wiring =>
    obtain ⟨each, complete⟩ := all wiring
    exact ⟨each.imp fun site wired constructed => constructed.congr rfl rfl,
      fun _ => complete rfl⟩

/-- Whatever became of a set-up, a controller that was wired is the one listed in its place. -/
theorem exists_listed_of_wired {result : Except Error Unit} {wired : Wired} {index : Nat}
    (ran : (setup reflection).run start = (result, final))
    (fresh : start.composition.controllers = [])
    (found : final.composition.controllers[index]? = some wired) :
    ∃ declared handle, start.composition.listed[index]? = some (declared, handle) ∧
      Constructed reflection.store final.composition (declared, handle) wired := by
  obtain ⟨each, -⟩ := constructed_of_setup ran fresh
  obtain ⟨inside, rfl⟩ := List.getElem?_eq_some_iff.mp found
  have taken := inside
  rw [← each.length_eq] at taken
  have listed : index < start.composition.listed.length :=
    Nat.lt_of_lt_of_le taken (List.length_take_le' _ _)
  have made := each.get taken inside
  rw [List.get_eq_getElem, List.get_eq_getElem, List.getElem_take] at made
  exact ⟨_, _, List.getElem?_eq_getElem listed, made⟩

end Composition

end Trellis
