import Mathlib.Logic.Relation
import Trellis.Proofs.Composition.Services
/-!
# The stages of a composition

What is known of a composition at each stage, however often it was set up and whatever became of it.

* `SetsUpTo` is one set-up, with any sources, any resolver and any ledger.
* `Staged` is the invariant: it says which compositions a composed module can become.
-/

namespace Trellis

/-- The number of stages before this one. -/
def Stage.rank : Stage → Nat
  | uninitialized => 0
  | layersComposed => 1
  | servicesRealized => 2
  | controllersWired => 3

namespace Composition

/-- Setting one composition up leaves the other, with or without success. -/
def SetsUpTo (current next : Composition) : Prop :=
  ∃ reflection resolver ledger,
    ((setup reflection).run { composition := current, resolver, ledger }).2.composition = next

/-- What a composition can become: its services are all that one build of its layer made, and the
wired controllers are the first ones of the plan, all of them at the last stage only. -/
inductive Staged (composed : Composition) : Composition → Prop
  | composed : Staged composed composed
  | realized {services : Context} {made : List Wired} {ledger after : Ledger} {count : Nat}
      (built : composed.layer.build.run ledger = (.ok services, after))
      (partially : count < composed.plan.length)
      (planned : made.map Wired.place = composed.plan.take count) :
      Staged composed
        { composed with services, controllers := made, stage := .servicesRealized }
  | wired {services : Context} {made : List Wired} {ledger after : Ledger}
      (built : composed.layer.build.run ledger = (.ok services, after))
      (planned : made.map Wired.place = composed.plan) :
      Staged composed
        { composed with services, controllers := made, stage := .controllersWired }

variable {registry : Registry} {root : Class} {app : App} {reflection : Reflection}
  {composed current next later : Composition}

/-! ## One set-up -/

/-- A set-up at a later stage is refused and changes nothing. -/
theorem run_setup_of_later {start : Assembly}
    (later : start.composition.stage ≠ .layersComposed) :
    (setup reflection).run start =
      (.error (.invalidState Stage.layersComposed.name start.composition.stage.name), start) :=
  run_setup_of_setsUp (.repeated later)

/-- A set-up whose layer cannot be built changes nothing but what the constructors wrote. -/
theorem run_setup_of_unbuilt (start : Assembly) {error : Error} {ledger : Ledger}
    (composed : start.composition.stage = .layersComposed)
    (failed : start.composition.layer.build.run start.ledger = (.error error, ledger)) :
    (setup reflection).run start = (.error error, { start with ledger }) :=
  run_setup_of_setsUp (.unbuilt composed failed)

theorem SetsUpTo.eq_of_later (setsUp : current.SetsUpTo next)
    (later : current.stage ≠ .layersComposed) : next = current := by
  obtain ⟨reflection, resolver, ledger, rfl⟩ := setsUp
  rw [run_setup_of_later later]

/-- A set-up leads from what a composition can become to what it can become. -/
theorem Staged.step (fresh : composed.Fresh) (staged : Staged composed current)
    (setsUp : current.SetsUpTo next) : Staged composed next := by
  cases staged with
  | realized built partially planned =>
    rw [setsUp.eq_of_later nofun]
    exact .realized built partially planned
  | wired built planned =>
    rw [setsUp.eq_of_later nofun]
    exact .wired built planned
  | composed =>
    obtain ⟨stage, -, empty⟩ := fresh
    -- Only here something happens: the layer is built or not, the wiring is stopped or not.
    obtain ⟨reflection, resolver, ledger, rfl⟩ := setsUp
    let start : Assembly := { composition := composed, resolver, ledger }
    show Staged composed ((setup reflection).run start).2.composition
    rcases built : composed.layer.build.run ledger with ⟨error | services, after⟩
    · rw [run_setup_of_unbuilt start stage built]
      exact .composed
    · obtain ⟨stop, final, rules⟩ := exists_setsUp reflection start
      obtain ⟨made, left, composition, planned, complete⟩ := rules.composition_of_built stage built
      rw [run_setup_of_setsUp rules, composition]
      have wired : start.composition.controllers ++ made = made := by rw [empty]; rfl
      rw [wired]
      cases stop with
      | none =>
        rw [complete.mp rfl, List.append_nil] at planned
        exact .wired built planned.symm
      | some stop =>
        have waiting : left ≠ [] := fun none => absurd (complete.mpr none) nofun
        have partially : made.length < start.composition.plan.length := by
          rw [planned, List.length_append, List.length_map]
          exact Nat.lt_add_of_pos_right (List.length_pos_iff.mpr waiting)
        have first : made.map Wired.place = start.composition.plan.take made.length := by
          rw [planned]
          simp
        exact .realized built partially first

/-! ## Any number of set-ups -/

theorem Staged.run (fresh : composed.Fresh)
    (reached : Relation.ReflTransGen SetsUpTo composed current) : Staged composed current := by
  induction reached with
  | refl => exact .composed
  | tail _ setsUp ih => exact ih.step fresh setsUp

/-- Past the first stage nothing changes any more. -/
theorem eq_of_later (past : current.stage ≠ .layersComposed)
    (reached : Relation.ReflTransGen SetsUpTo current later) : later = current := by
  induction reached with
  | refl => rfl
  | tail _ setsUp ih =>
    subst ih
    exact setsUp.eq_of_later past

theorem Staged.le_rank (composedStage : composed.stage = .layersComposed)
    (staged : Staged composed current) : Stage.layersComposed.rank ≤ current.stage.rank := by
  cases staged with
  | composed => rw [composedStage]
  | realized => show 1 ≤ 2; omega
  | wired => show 1 ≤ 3; omega

/-- Set-ups never lead back to an earlier stage. -/
theorem rank_le_of_setsUps (fresh : composed.Fresh)
    (reached : Relation.ReflTransGen SetsUpTo composed current)
    (further : Relation.ReflTransGen SetsUpTo current later) :
    current.stage.rank ≤ later.stage.rank := by
  by_cases first : current.stage = .layersComposed
  · rw [first]
    exact (Staged.run fresh (reached.trans further)).le_rank fresh.stage
  · rw [eq_of_later first further]

/-! ## The wired controllers -/

theorem isSome_controller?_iff (composition : Composition) (cls : Class) :
    (composition.controller? cls).isSome ↔
      cls ∈ (composition.controllers.map Wired.place).map Prod.snd := by
  rw [controller?, Option.isSome_map, List.find?_isSome]
  simp [Wired.place, eq_comm]

theorem mem_declaredControllers_iff (composition : Composition) (cls : Class) :
    cls ∈ composition.declaredControllers ↔ cls ∈ composition.plan.map Prod.snd := by
  rw [declaredControllers, List.mem_eraseDups, plan, List.map_flatMap]
  simp only [List.map_map, Function.comp_def]

/-- At the last stage the controllers that can be asked for are the declared ones. -/
theorem Staged.isSome_controller?_iff (fresh : composed.Fresh)
    (staged : Staged composed current) (last : current.stage = .controllersWired) (cls : Class) :
    (current.controller? cls).isSome ↔ cls ∈ current.declaredControllers := by
  cases staged with
  | composed => cases fresh.stage.symm.trans last
  | realized => cases last
  | wired built planned =>
    rw [Composition.isSome_controller?_iff, mem_declaredControllers_iff, planned]
    rfl

/-- Whatever set-ups a composed module has been through, it is one of the compositions it can
become. Set up again, it is either left as it is or, the first time its layer can be built, realized
and wired as far as nothing stops the wiring. -/
theorem staged_of_setUps {ledger : Ledger}
    (created : (compose registry root app ledger).1.1 = .ok composed)
    (reached : Relation.ReflTransGen SetsUpTo composed current) :
    Staged composed current ∧
      (current.stage = .layersComposed → current.services = [] ∧ current.controllers = []) ∧
      (current.stage = .controllersWired →
        ∀ cls, (current.controller? cls).isSome ↔ cls ∈ current.declaredControllers) ∧
      (∀ later, Relation.ReflTransGen SetsUpTo current later →
        current.stage.rank ≤ later.stage.rank ∧
          (current.stage ≠ .layersComposed → later = current)) ∧
      ∀ reflection resolver ledger,
        let start : Assembly := { composition := current, resolver, ledger }
        let outcome := (setup reflection).run start
        (current.stage ≠ .layersComposed → outcome =
          (.error (.invalidState Stage.layersComposed.name current.stage.name), start)) ∧
        (current.stage = .layersComposed →
          (∀ error after, current.layer.build.run ledger = (.error error, after) →
            outcome = (.error error, { start with ledger := after })) ∧
          ∀ services after, current.layer.build.run ledger = (.ok services, after) →
            outcome.2.composition.services = services ∧
            (outcome.1 = .ok () → outcome.2.composition.stage = .controllersWired) ∧
            (outcome.1 ≠ .ok () → outcome.2.composition.stage = .servicesRealized)) := by
  have fresh := fresh_of_compose created
  have staged := Staged.run fresh reached
  refine ⟨staged, ?_, staged.isSome_controller?_iff fresh, ?_, ?_⟩
  · intro first
    cases staged with
    | composed => exact ⟨fresh.services, fresh.controllers⟩
    | realized | wired => cases first
  · intro later further
    exact ⟨rank_le_of_setsUps fresh reached further, fun past => eq_of_later past further⟩
  · intro reflection resolver ledger start outcome
    refine ⟨fun past => run_setup_of_later past, fun first => ⟨?_, ?_⟩⟩
    · intro error after failed
      exact run_setup_of_unbuilt start first failed
    · intro services after built
      obtain ⟨stop, final, rules⟩ := exists_setsUp reflection start
      have ran : outcome = (Stop.result stop, final) := run_setup_of_setsUp rules
      obtain ⟨made, left, composition, -⟩ := rules.composition_of_built first built
      rw [ran, composition]
      cases stop with
      | none => exact ⟨rfl, fun _ => rfl, fun failed => absurd rfl failed⟩
      | some stop => exact ⟨rfl, nofun, fun _ => rfl⟩

/-- The diamond, set up once, has its services; set up again, it is left as it is. -/
theorem staged_of_setUps_diamond : ∃ composed current,
    (compose .diamond (.named "App") { logger := {}, config := {} } {}).1.1 = .ok composed ∧
      composed.SetsUpTo current ∧
      (Table.keys current.services).map Tag.identifier =
        ["LoggerService", "Clock", "cache", "Store"] ∧
      ((setup { store := .diamond }).run ⟨current, {}, {}⟩).2.composition = current := by
  let app : App := { logger := {}, config := {} }
  let composed := diamond app {}
  let current := ((setup { store := .diamond }).run ⟨composed, {}, {}⟩).2.composition
  have created := compose_diamond app {}
  have once : composed.SetsUpTo current := ⟨{ store := .diamond }, {}, {}, rfl⟩
  obtain ⟨services, after, built, keys⟩ := exists_build_diamond app {} {}
  obtain ⟨-, -, -, -, first⟩ := staged_of_setUps created .refl
  obtain ⟨realized, whole, part⟩ := (first { store := .diamond } {} {}).2 rfl |>.2 _ _ built
  have past : current.stage ≠ .layersComposed := by
    by_cases worked : ((setup { store := .diamond }).run ⟨composed, {}, {}⟩).1 = .ok ()
    · exact fun first => absurd (first.symm.trans (whole worked)) nofun
    · exact fun first => absurd (first.symm.trans (part worked)) nofun
  obtain ⟨-, -, -, -, again⟩ := staged_of_setUps created (.single once)
  have refused := (again { store := .diamond } {} {}).1 past
  refine ⟨composed, current, created, once, ?_, ?_⟩
  · rw [← keys, ← realized]
  · rw [refused]

end Composition

end Trellis
