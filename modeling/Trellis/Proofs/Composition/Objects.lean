import Trellis.Proofs.Composition.Launch
import Trellis.Proofs.Composition.Renaming
import Trellis.Proofs.Object.Allotting
/-!
# The objects of a composition

A composition holds its services and its controllers. If the constructors in the registry allot, all of
these objects are made between the beginning and the end of the launch, the logger's instance while the
module is composed and the others while it is set up, as far as that gets.

* `Layer.Realizes.made` says it of the services.
* `Assembly.Holds` is what the wiring of controllers preserves, turn by turn.
* `made_launch` joins them.
-/

namespace Trellis

namespace Composition

/-- The objects that a composition holds: its services, then its controllers. -/
def objects (composition : Composition) : List ObjectId :=
  (Table.values composition.services ++ composition.controllers.map (·.controller.subject)).map
    (·.object)

end Composition

/-! ## Services -/

/-- Begun when `start` is reached or later, the provision builds what was made since `base`. -/
def Provision.BuildsSince (base start : Ledger) (provision : Provision) : Prop :=
  ∀ given ledger subject after, start.Precedes ledger →
    (provision.build given).run ledger = (.ok subject, after) →
      ledger.Precedes after ∧ subject.object.MadeBetween base after

namespace Layer

variable {context result : Context} {layer : Layer} {base start ledger after : Ledger}

theorem Realizes.made (realizes : Realizes context layer ledger result after)
    (builds : ∀ provision ∈ layer, provision.BuildsSince base start) (begun : start.Precedes ledger)
    (bound : ∀ subject ∈ Table.values context, subject.object.MadeBetween base ledger) :
    ledger.Precedes after ∧
      ∀ subject ∈ Table.values result, subject.object.MadeBetween base after := by
  induction realizes with
  | nil context ledger => exact ⟨.refl ledger, bound⟩
  | @cons context provision rest ledger mid after subject result built later ih =>
    obtain ⟨kept, made⟩ := builds provision List.mem_cons_self context ledger subject mid begun built
    have next : ∀ other ∈ Table.values (context ++ [(provision.tag, subject)]),
        other.object.MadeBetween base mid := by
      intro other member
      rw [Table.values, List.map_append] at member
      rcases List.mem_append.mp member with before | new
      · exact (bound other before).until kept
      · obtain rfl := List.mem_singleton.mp new
        exact made
    obtain ⟨rest, all⟩ := ih (fun provision member =>
      builds provision (List.mem_cons_of_mem _ member)) (begun.trans kept) next
    exact ⟨kept.trans rest, all⟩

/-- What a layer binds was made since `base`. -/
theorem made_of_build {services : Context}
    (built : layer.build.run ledger = (.ok services, after))
    (builds : ∀ provision ∈ layer, provision.BuildsSince base ledger) :
    ledger.Precedes after ∧
      ∀ subject ∈ Table.values services, subject.object.MadeBetween base after := by
  rw [build_eq_runAll, runAll_eq_ok_iff] at built
  exact built.made (fun provision first => builds provision (mem_of_mem_firsts first)) (.refl ledger)
    fun _ none => absurd none List.not_mem_nil

end Layer

/-! ## Controllers -/

namespace Assembly

variable {base : Ledger} {before after : Assembly} {reflection : Reflection} {declared : Declared}
  {handle : Handle}

/-- The assembly has gone on since `base`, and what its composition holds was made since then. -/
structure Holds (base : Ledger) (assembly : Assembly) : Prop where
  precedes : base.Precedes assembly.ledger
  made : ∀ object ∈ assembly.composition.objects, object.MadeBetween base assembly.ledger

/-- Going on without a new object. -/
theorem Holds.later (holds : before.Holds base)
    (same : after.composition.objects = before.composition.objects)
    (kept : before.ledger.Precedes after.ledger) : after.Holds base := by
  refine ⟨holds.precedes.trans kept, fun object member => ?_⟩
  rw [same] at member
  exact (holds.made object member).until kept

theorem precedes_gathered (declared : Declared) (assembly : Assembly) :
    assembly.ledger.Precedes (assembly.gathered declared).ledger := by
  have gathers (classes : List Class) (available : Available) (ledger : Ledger) :
      ledger.Precedes (available.addAll classes ledger).2 := by
    induction classes generalizing available ledger with
    | nil => exact .refl ledger
    | cons cls rest ih =>
      have told : ledger.Precedes (available.add cls ledger).2 := Ledger.precedes_emitAll _ ledger
      exact told.trans (ih (available.insert cls) _)
  exact gathers _ _ assembly.ledger

theorem precedes_resolved (reflection : Reflection) (declared : Declared) (handle : Handle)
    (assembly : Assembly) :
    assembly.ledger.Precedes (assembly.resolved reflection declared handle).ledger := by
  have resolves (ledger : Ledger) : ledger.Precedes
      (assembly.resolver.resolve reflection handle declared.available ledger).2 := by
    unfold Resolver.resolve
    cases assembly.resolver.cached? declared.available.scope handle.cls with
    | some resolution => exact .refl ledger
    | none => exact Ledger.precedes_emitAll _ ledger
  exact (Ledger.precedes_emitAll _ assembly.ledger).trans (resolves _)

theorem precedes_admitted (reflection : Reflection) (declared : Declared) (handle : Handle)
    (assembly : Assembly) :
    assembly.ledger.Precedes (assembly.admitted reflection declared handle).ledger := by
  have resolved := assembly.precedes_resolved reflection declared handle
  exact resolved.trans (Ledger.precedes_emitAll _ _)

theorem objects_wiring (reflection : Reflection) (declared : Declared) (handle : Handle)
    (subject : Instance) (ledger : Ledger) (assembly : Assembly) :
    (assembly.wiring reflection declared handle subject ledger).composition.objects =
      assembly.composition.objects ++ [subject.object] := by
  simp [Composition.objects, wiring, wired]

end Assembly

namespace Composition

variable {base : Ledger} {reflection : Reflection} {declared : Declared} {handle : Handle}
  {before after start final : Assembly} {stop : Option Stop}

/-- A turn makes at most one object, the controller. -/
theorem Turn.holds {outcome : Except Stop Wired}
    (turn : Turn reflection declared handle before outcome after) (holds : before.Holds base)
    (allots : ∀ construct ∈ reflection.store.controllerConstructor? handle,
      Constructor.Allots construct) : after.Holds base := by
  have admitted := before.precedes_admitted reflection declared handle
  cases turn with
  | refused => exact holds.later rfl (before.precedes_resolved reflection declared handle)
  | unknown => exact holds.later rfl admitted
  | failed _ known failed =>
    have kept := (allots _ known _).precedes failed
    exact holds.later rfl (admitted.trans kept)
  | @wired construct subject ledger _ known made =>
    have kept := (allots _ known _).precedes made
    have new := (allots _ known _).made made subject.object List.mem_cons_self
    have told := Ledger.precedes_emit (wiredEvent (before.wired reflection declared handle subject)
      (before.injected reflection declared handle).length) ledger
    have later := (admitted.trans kept).trans told
    refine ⟨holds.precedes.trans later, fun object member => ?_⟩
    rw [Assembly.objects_wiring] at member
    rcases List.mem_append.mp member with earlier | controller
    · exact (holds.made object earlier).until later
    · obtain rfl := List.mem_singleton.mp controller
      exact (new.since (holds.precedes.trans admitted)).until told

theorem Wiring.holds {tasks : List Task} (wiring : Wiring reflection tasks before stop final)
    (holds : before.Holds base)
    (allots : ∀ declared handle, .wire declared handle ∈ tasks →
      ∀ construct ∈ reflection.store.controllerConstructor? handle, Constructor.Allots construct) :
    final.Holds base := by
  induction wiring with
  | done final => exact holds
  | @gather declared rest before final stop _ ih =>
    have gathered : (before.gathered declared).Holds base :=
      holds.later rfl (before.precedes_gathered declared)
    exact ih gathered fun declared handle later =>
      allots declared handle (List.mem_cons_of_mem _ later)
  | wired turn _ ih =>
    have turned := turn.holds holds (allots _ _ List.mem_cons_self)
    exact ih turned fun declared handle later =>
      allots declared handle (List.mem_cons_of_mem _ later)
  | stopped turn => exact turn.holds holds (allots _ _ List.mem_cons_self)

/-- Whatever stops the set-up of a composed module, what the module holds by then was made since
`base`. -/
theorem SetsUp.made (setsUp : SetsUp reflection start stop final) (fresh : start.composition.Fresh)
    (begun : base.Precedes start.ledger)
    (builds : ∀ provision ∈ start.composition.layer, provision.BuildsSince base start.ledger)
    (allots : ∀ declared handle, .wire declared handle ∈ start.composition.tasks →
      ∀ construct ∈ reflection.store.controllerConstructor? handle, Constructor.Allots construct) :
    ∀ object ∈ final.composition.objects, object.MadeBetween base final.ledger := by
  have nothing : start.composition.objects = [] := by
    rw [objects, fresh.services, fresh.controllers]
    rfl
  have realized {services : Context} {ledger : Ledger}
      (built : start.composition.layer.build.run start.ledger = (.ok services, ledger)) :
      (start.realized services ledger).Holds base := by
    obtain ⟨kept, made⟩ := Layer.made_of_build built builds
    have told := Ledger.precedes_emit (realizedEvent { start.composition with services }) ledger
    refine ⟨(begun.trans kept).trans told, fun object member => ?_⟩
    have holds : (start.realized services ledger).composition.objects =
        (Table.values services).map (·.object) := by
      simp [objects, Assembly.realized, fresh.controllers]
    rw [holds] at member
    obtain ⟨subject, bound, rfl⟩ := List.mem_map.mp member
    exact (made subject bound).until told
  cases setsUp with
  | repeated late => exact absurd fresh.stage late
  | unbuilt =>
    intro object member
    rw [show _ = [] from nothing] at member
    exact absurd member List.not_mem_nil
  | stopped _ built wiring => exact (wiring.holds (realized built) allots).made
  | @done _ _ last _ built wiring =>
    have holds := wiring.holds (realized built) allots
    have finished : last.finished.Holds base := holds.later rfl (Ledger.precedes_emit _ _)
    exact finished.made

/-! ## Launches -/

variable {host : MetadataSource} {registry : Registry} {resolver : Resolver} {root : Class}
  {app : App} {ledger : Ledger} {composition : Composition}

/-- Composing a module makes one object, the instance of the logger. -/
theorem logger_of_compose (composed : (compose registry root app ledger).1.1 = .ok composition) :
    ledger.Precedes (compose registry root app ledger).2 ∧
      (newLoggerInstance app.logger ledger).1.object.MadeBetween ledger
        (compose registry root app ledger).2 := by
  obtain ⟨metadata, declared, clean, -⟩ := eq_ofTrail_of_compose composed
  have found : registry.declared? root = some { cls := root, metadata } := by
    rw [Registry.declared?, declared]; rfl
  have numbers : (compose registry root app ledger).2.objects = ledger.objects ∧
      (compose registry root app ledger).2.loggers = ledger.loggers + 1 := by
    unfold compose
    rw [found]
    simp only [bind, StateT.bind, clean]
    exact ⟨rfl, rfl⟩
  obtain ⟨objects, loggers⟩ := numbers
  constructor
  · constructor <;> omega
  · show ledger.loggers < ledger.loggers + 1 ∧ ledger.loggers + 1 ≤ _
    omega

/-- What the layer of a composed module builds was made since the module was begun to be composed. -/
theorem buildsSince_of_compose
    (composed : (compose registry root app ledger).1.1 = .ok composition)
    (allots : ∀ construct, registry.Finds construct → Constructor.Allots construct) :
    ∀ provision ∈ composition.layer,
      provision.BuildsSince ledger (compose registry root app ledger).2 := by
  obtain ⟨kept, new⟩ := logger_of_compose composed
  obtain ⟨metadata, -, clean, rfl⟩ := eq_ofTrail_of_compose composed
  intro provision member given begun subject after begins built
  rcases List.mem_append.mp member with logger | provider
  · -- The instance of the logger is there already.
    obtain rfl := List.mem_singleton.mp logger
    cases built
    exact ⟨.refl _, new.until begins⟩
  · obtain ⟨construct, args, finds, builds⟩ := Registry.exists_finds_of_mem_layer clean provider
    have found : ([.logger].foldl Registry.claimTag registry).Finds construct := finds
    have constructs := allots construct (Registry.finds_foldl_claimTag found) args
    rw [builds] at built
    have made := constructs.made built subject.object List.mem_cons_self
    exact ⟨constructs.precedes built, made.since (kept.trans begins)⟩

/-- The objects that are there after a launch. -/
def Launched.objects (launched : Launched) : List ObjectId :=
  match launched.outcome with
  | .error _ => []
  | .ok (composition, _) => composition.objects

/-- Whatever a launch comes to, it has made the objects that the module holds. -/
theorem made_launch (allots : ∀ construct, registry.Finds construct → Constructor.Allots construct)
    (host : MetadataSource) (resolver : Resolver) (root : Class) (app : App) (ledger : Ledger) :
    ∀ object ∈ (launch host registry resolver root app ledger).1.objects,
      object.MadeBetween ledger (launch host registry resolver root app ledger).2 := by
  cases composed : (compose registry root app ledger).1.1 with
  | error error =>
    rw [launch_of_error composed]
    exact fun _ none => absurd none List.not_mem_nil
  | ok composition =>
    obtain ⟨stop, final, setsUp, launched⟩ := exists_launch_of_composed host resolver composed
    rw [launched]
    refine setsUp.made (fresh_of_compose composed) (logger_of_compose composed).1
      (buildsSince_of_compose composed allots) ?_
    intro declared handle listed construct known
    obtain ⟨module, controller⟩ := wire_mem_tasks_iff.mp listed
    have still := moduleMetadata?_claimed_of_compose composed declared module
    obtain ⟨classes, handed, -⟩ := exists_claimed_of_compose registry root app ledger
    simp only [handed] at still known
    exact allots construct (Registry.finds_foldl_claimTag (.controller still controller known))

end Composition

end Trellis
