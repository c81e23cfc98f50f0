import Trellis.Composition.Application
import Trellis.Object.Blueprint
import Trellis.Proofs.Composition.Composability
import Trellis.Proofs.Composition.Imported
import Trellis.Proofs.Composition.Remembering
import Trellis.Proofs.Metadata.Writing
/-!
# Processes

The applications of a process share a registry and a resolver. In any order, classes are decorated,
modules are composed and compositions are set up; a composition may be set up long after it was
created, more than once, and other modules may be decorated, composed and set up in between.

* `Process.after` does one deed; `Process.Reached` are the processes that permitted deeds lead to.
* `after_create`, `after_setUp` and `grows_after` say what a deed can change, in terms of composing
  and of the rules of a set-up.
* `Reached.modules`, `Reached.remembered` and `Reached.originates` hold whatever is permitted.
-/

namespace Trellis

/-- What the applications of a process share, and the compositions that were created. -/
structure Process where
  /-- The host that reflects on constructors, before the registry is asked. -/
  host : MetadataSource := .emitted
  registry : Registry
  resolver : Resolver := {}
  ledger : Ledger := {}
  compositions : List Composition := []

/-- Something done in a process. -/
inductive Deed where
  | decorate (decoration : Decoration)
  | create (cls : Class) (app : App)
  /-- Sets a composition up, told by its place among those created. -/
  | setUp (index : Nat)

namespace Process

def reflection (process : Process) : Reflection :=
  { host := process.host, store := process.registry }

/-- The process after something was done. A module that cannot be composed gives no composition, and
there may be none to set up. -/
def after (process : Process) : Deed → Process
  | .decorate decoration =>
    let (registry, ledger) := process.registry.apply decoration process.ledger
    { process with registry, ledger }
  | .create cls app =>
    let ((result, registry), ledger) :=
      Composition.compose process.registry cls app process.ledger
    { process with
      registry
      ledger
      compositions := process.compositions ++ result.toOption.toList }
  | .setUp index =>
    match process.compositions[index]? with
    | none => process
    | some composition =>
      let ((_, composition, resolver), ledger) :=
        composition.setupIn process.host process.registry process.resolver process.ledger
      { process with
        resolver
        ledger
        compositions := process.compositions.set index composition }

/-- What deeds make of a process that begins with nothing, if each of them is permitted when it is
done. -/
inductive Reached (host : MetadataSource) (permits : Process → Deed → Prop) : Process → Prop
  | start (name : String) : Reached host permits { host, registry := { name } }
  | next {process : Process} (reached : Reached host permits process) (deed : Deed)
      (permitted : permits process deed) : Reached host permits (process.after deed)

variable {process : Process} {host : MetadataSource} {permits : Process → Deed → Prop}

/-! ## What a deed can change -/

@[simp]
theorem host_after (process : Process) (deed : Deed) : (process.after deed).host = process.host := by
  cases deed with
  | decorate | create => rfl
  | setUp index =>
    simp only [after]
    split <;> rfl

theorem Reached.host_eq (reached : process.Reached host permits) : process.host = host := by
  induction reached with
  | start => rfl
  | next _ deed _ ih => exact (host_after _ deed).trans ih

end Process

namespace Composition

variable {registry : Registry} {cls : Class} {app : App} {ledger : Ledger}

/-- Composing a module hands out the tags of the logger and of what the walk met, and changes nothing
else of the registry. -/
theorem exists_claimed_of_compose (registry : Registry) (cls : Class) (app : App)
    (ledger : Ledger) : ∃ classes : List Class,
      (compose registry cls app ledger).1.2 = classes.foldl Registry.claimTag registry ∧
        ∀ other ∈ classes, other = .logger ∨
          ∃ visit ∈ ((registry.claimTag .logger).walkModule app [] cls).visits,
            visit.claimed? = some other := by
  cases declared : registry.moduleMetadata? cls with
  | none => exact ⟨[], by rw [compose_of_undeclared declared]; rfl, nofun⟩
  | some metadata =>
    let trail := (registry.claimTag .logger).walkModule app [] cls
    refine ⟨.logger :: trail.visits.filterMap Visit.claimed?, ?_, ?_⟩
    · cases fault : trail.fault with
      | none =>
        rw [compose_of_clean declared fault]
        rfl
      | some error =>
        rw [compose_of_fault declared fault]
        rfl
    · intro other claimed
      rcases List.mem_cons.mp claimed with logger | met
      · exact .inl logger
      · exact .inr (List.mem_filterMap.mp met)

end Composition

namespace Process

variable {process : Process}

/-- Creating a composition hands tags out and adds the composition, if it can be created. -/
theorem after_create (process : Process) (cls : Class) (app : App) :
    (∃ classes : List Class,
      (process.after (.create cls app)).registry =
        classes.foldl Registry.claimTag process.registry) ∧
      (process.after (.create cls app)).resolver = process.resolver ∧
      ∀ composition ∈ (process.after (.create cls app)).compositions,
        composition ∈ process.compositions ∨
          (Composition.compose process.registry cls app process.ledger).1.1 = .ok composition := by
  obtain ⟨classes, registry, -⟩ :=
    Composition.exists_claimed_of_compose process.registry cls app process.ledger
  refine ⟨⟨classes, registry⟩, rfl, ?_⟩
  intro composition member
  have created : (process.after (.create cls app)).compositions = process.compositions ++
      (Composition.compose process.registry cls app process.ledger).1.1.toOption.toList := rfl
  rw [created] at member
  rcases List.mem_append.mp member with earlier | new
  · exact .inl earlier
  · right
    cases result : (Composition.compose process.registry cls app process.ledger).1.1 with
    | error fault =>
      rw [result] at new
      exact absurd new List.not_mem_nil
    | ok created =>
      rw [result] at new
      rw [List.mem_singleton.mp new]

/-- Setting a composition up does as the rules say, to this composition and to the resolver. -/
theorem after_setUp (process : Process) (index : Nat) :
    process.after (.setUp index) = process ∨
      ∃ composition ∈ process.compositions, ∃ stop final,
        Composition.SetsUp process.reflection ⟨composition, process.resolver, process.ledger⟩ stop
          final ∧
        process.after (.setUp index) =
          { process with
            resolver := final.resolver
            ledger := final.ledger
            compositions := process.compositions.set index final.composition } := by
  cases found : process.compositions[index]? with
  | none =>
    left
    simp only [after, found]
  | some composition =>
    right
    obtain ⟨stop, final, setsUp⟩ := Composition.exists_setsUp process.reflection
      ⟨composition, process.resolver, process.ledger⟩
    refine ⟨composition, List.mem_of_getElem? found, stop, final, setsUp, ?_⟩
    have ran := Composition.run_setup_of_setsUp setsUp
    simp only [reflection] at ran
    simp only [after, found, Composition.setupIn, ran]

/-- Whatever is done, the registry only grows. -/
theorem grows_after (process : Process) (deed : Deed) :
    process.registry.Grows (process.after deed).registry := by
  cases deed with
  | decorate decoration => exact process.registry.grows_decorate decoration
  | create cls app =>
    obtain ⟨⟨classes, registry⟩, -⟩ := process.after_create cls app
    rw [registry]
    exact process.registry.grows_foldl_claimTag classes
  | setUp index =>
    rcases process.after_setUp index with same | ⟨_, -, _, _, -, same⟩
    · rw [same]
      exact .refl process.registry
    · rw [same]
      exact .refl process.registry

/-! ## What always holds -/

section Always

variable {host : MetadataSource} {permits : Process → Deed → Prop}

/-- The modules of every composition stand in the registry as they stood when it was created. -/
theorem Reached.modules (reached : process.Reached host permits) :
    ∀ composition ∈ process.compositions, ∀ declared ∈ composition.modules,
      process.registry.moduleMetadata? declared.cls = some declared.metadata := by
  induction reached with
  | start => exact fun _ member => absurd member List.not_mem_nil
  | @next process reached deed _ ih =>
    intro composition member declared module
    have kept := (process.grows_after deed).modules declared.cls declared.metadata
    cases deed with
    | decorate decoration => exact kept (ih composition member declared module)
    | create cls app =>
      obtain ⟨-, -, created⟩ := process.after_create cls app
      rcases created composition member with earlier | composed
      · exact kept (ih composition earlier declared module)
      · exact kept (Composition.moduleMetadata?_of_compose composed declared module)
    | setUp index =>
      rcases process.after_setUp index with same | ⟨other, there, stop, final, setsUp, same⟩
      · exact kept (ih composition (same ▸ member) declared module)
      · rw [same] at member
        rcases List.mem_or_eq_of_mem_set member with earlier | rfl
        · exact kept (ih composition earlier declared module)
        · rw [setsUp.same_modules] at module
          exact kept (ih other there declared module)

/-- The resolver remembers the resolution of every controller that was wired. -/
theorem Reached.remembered (reached : process.Reached host permits) :
    ∀ composition ∈ process.compositions, ∀ wired ∈ composition.controllers,
      wired.RememberedBy process.resolver := by
  induction reached with
  | start => exact fun _ member => absurd member List.not_mem_nil
  | @next process reached deed _ ih =>
    intro composition member wired listed
    cases deed with
    | decorate decoration => exact ih composition member wired listed
    | create cls app =>
      obtain ⟨-, resolver, created⟩ := process.after_create cls app
      rw [resolver]
      rcases created composition member with earlier | composed
      · exact ih composition earlier wired listed
      · rw [(Composition.fresh_of_compose composed).controllers] at listed
        exact absurd listed List.not_mem_nil
    | setUp index =>
      rcases process.after_setUp index with same | ⟨other, there, stop, final, setsUp, same⟩
      · rw [same] at member ⊢
        exact ih composition member wired listed
      · rw [same] at member ⊢
        rcases List.mem_or_eq_of_mem_set member with earlier | rfl
        · exact setsUp.rememberedBy (ih composition earlier wired listed)
        · exact setsUp.remembered (ih other there) wired listed

/-- A composition is as it was created in an earlier process, whose registry has since grown into this
one. -/
def Originates (host : MetadataSource) (permits : Process → Deed → Prop) (registry : Registry)
    (composition : Composition) : Prop :=
  ∃ (earlier : Process) (claimed : Registry), earlier.Reached host permits ∧
    (Composition.compose earlier.registry composition.root.cls composition.app earlier.ledger).1 =
      (.ok composition, claimed) ∧
    claimed.Grows registry

theorem Originates.grows {registry later : Registry} {composition : Composition}
    (originates : Originates host permits registry composition) (grows : registry.Grows later) :
    Originates host permits later composition := by
  obtain ⟨earlier, claimed, reached, composed, grown⟩ := originates
  exact ⟨earlier, claimed, reached, composed, grown.trans grows⟩

theorem Originates.exists_composed {registry : Registry} {composition : Composition}
    (originates : Originates host permits registry composition) :
    ∃ earlier : Process, earlier.Reached host permits ∧ earlier.registry.Grows registry ∧
      (Composition.compose earlier.registry composition.root.cls composition.app
        earlier.ledger).1.1 = .ok composition := by
  obtain ⟨earlier, claimed, reached, composed, grown⟩ := originates
  obtain ⟨classes, handed, -⟩ := Composition.exists_claimed_of_compose earlier.registry
    composition.root.cls composition.app earlier.ledger
  rw [composed] at handed
  refine ⟨earlier, reached, ?_, by rw [composed]⟩
  rw [show claimed = classes.foldl Registry.claimTag earlier.registry from handed] at grown
  exact (earlier.registry.grows_foldl_claimTag classes).trans grown

/-- A composition at its first stage is as it was created. -/
theorem Reached.originates (reached : process.Reached host permits) :
    ∀ composition ∈ process.compositions, composition.stage = .layersComposed →
      Originates host permits process.registry composition := by
  induction reached with
  | start => exact fun _ member => absurd member List.not_mem_nil
  | @next process reached deed _ ih =>
    intro composition member stage
    have grows := process.grows_after deed
    cases deed with
    | decorate decoration => exact (ih composition member stage).grows grows
    | create cls app =>
      obtain ⟨-, -, created⟩ := process.after_create cls app
      rcases created composition member with earlier | composed
      · exact (ih composition earlier stage).grows grows
      · refine ⟨process, (process.after (.create cls app)).registry, reached, ?_, .refl _⟩
        rw [Composition.root_of_compose composed, Composition.app_of_compose composed]
        exact Prod.ext composed rfl
    | setUp index =>
      rcases process.after_setUp index with same | ⟨other, there, stop, final, setsUp, same⟩
      · rw [same] at member
        exact (ih composition member stage).grows grows
      · rw [same] at member
        rcases List.mem_or_eq_of_mem_set member with earlier | rfl
        · exact (ih composition earlier stage).grows grows
        · -- A set-up that got nowhere has left the composition as it was.
          have kept := setsUp.composition_of_composed stage
          rw [kept] at stage ⊢
          exact (ih other there stage).grows grows

end Always

/-! ## Evaluating deeds -/

/-- The process after something was done, with modules composed by the walk that is cut off. -/
def afterWithin (process : Process) : Deed → Process
  | .create cls app =>
    let ((result, registry), ledger) :=
      Composition.composeWithin process.registry cls app process.ledger
    { process with
      registry
      ledger
      compositions := process.compositions ++ result.toOption.toList }
  | deed => process.after deed

theorem after_eq_afterWithin : after = afterWithin := by
  funext process deed
  cases deed with
  | create cls app =>
    simp only [after, afterWithin, Composition.compose_eq_composeWithin]
  | decorate | setUp => rfl

/-- Deeds that are permitted one after the other lead from a reached process to a reached one. -/
theorem Reached.foldl {host : MetadataSource} {permits : Process → Deed → Prop}
    (reached : process.Reached host permits) {deeds : List Deed}
    (permitted : ∀ process, ∀ deed ∈ deeds, permits process deed) :
    (deeds.foldl after process).Reached host permits := by
  induction deeds generalizing process with
  | nil => exact reached
  | cons deed rest ih =>
    have next := reached.next deed (permitted process deed List.mem_cons_self)
    exact ih next fun process other member => permitted process other (List.mem_cons_of_mem _ member)

end Process

/-! ## Day and night

Two modules declare the same page, which asks for a `Clock`. Each provides a class of that name, and
the second module imports the first. -/

namespace Shifts

def dayClock : Blueprint := { cls := ⟨"DayClock", "Clock"⟩ }

def nightClock : Blueprint := { cls := ⟨"NightClock", "Clock"⟩ }

def page : Blueprint :=
  { cls := .named "Page", signature := "fn new(clock: Arc<Clock>)", making := .controller }

def day : ModuleMetadata :=
  { controllers := [page.handle .controller], providers := [dayClock.handle .provider] }

def night : ModuleMetadata :=
  { imports := [.named "Day"]
    controllers := [page.handle .controller]
    providers := [nightClock.handle .provider] }

/-- The first module is set up before the second one is even declared. -/
def deeds : List Deed :=
  let app : App := { logger := {}, config := {} }
  [ .decorate (.service (dayClock.handle .provider) none),
    .decorate (.service (nightClock.handle .provider) none),
    .decorate (.controller (page.handle .controller) "/"),
    .decorate (.module (Class.named "Day").handle day),
    .create (.named "Day") app,
    .setUp 0,
    .decorate (.module (Class.named "Night").handle night),
    .create (.named "Night") app ]

/-- The second module is composed, but not set up. -/
def evening : Process :=
  deeds.foldl Process.after { registry := { name := "main" } }

def midnight : Process :=
  evening.after (.setUp 1)

theorem evening_eq : evening =
    deeds.foldl Process.afterWithin { registry := { name := "main" } } := by
  rw [evening, Process.after_eq_afterWithin]

theorem moduleMetadata?_evening :
    evening.registry.moduleMetadata? (.named "Day") = some day ∧
      evening.registry.moduleMetadata? (.named "Night") = some night := by
  rw [evening_eq]
  exact ⟨rfl, rfl⟩

/-- Each module's page depends on the module's own clock, in both set-ups. -/
theorem dependencies_midnight :
    (midnight.compositions.map fun composition => composition.controllers.map fun wired =>
      (wired.module.name, wired.resolution.dependencies)) =
      [[("Day", [dayClock.cls])], [("Night", [nightClock.cls]), ("Day", [dayClock.cls])]] := by
  rw [midnight, evening_eq]
  decide +kernel

end Shifts

end Trellis
