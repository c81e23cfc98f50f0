import Trellis.Proofs.Composition.SetUp
import Trellis.Proofs.Resolution.Memory
/-!
# What set-ups leave in a resolver

A set-up resolves each controller within the scope of the module that declares it, one after the
other. What resolving keeps, a set-up keeps; and every controller it wires has the resolution that
the resolver remembers for it afterwards.
-/

namespace Trellis

theorem Declared.scope_available (declared : Declared) :
    declared.available.scope = .module declared.cls :=
  Available.scope_insertAll ..

/-- A controller's resolution is the one remembered for its class within its module. -/
def Wired.RememberedBy (resolver : Resolver) (wired : Wired) : Prop :=
  resolver.cached? (.module wired.module) wired.cls = some wired.resolution

theorem Wired.RememberedBy.learning {resolver : Resolver} {wired : Wired}
    (remembered : wired.RememberedBy resolver) (reflection : Reflection) (handle : Handle)
    (available : Available) :
    wired.RememberedBy (resolver.learning reflection handle available) :=
  Resolver.cached?_learning_of_some remembered reflection handle available

namespace Composition

variable {reflection : Reflection} {declared : Declared} {handle : Handle} {tasks : List Task}
  {before after start final : Assembly} {stop : Option Stop}

/-! ## The resolver of a turn, of a wiring, of a set-up -/

theorem Turn.resolver {outcome : Except Stop Wired}
    (turn : Turn reflection declared handle before outcome after) :
    after.resolver = before.resolver.learning reflection handle declared.available := by
  cases turn <;> rfl

/-- What resolving the controllers of the tasks keeps, the tasks keep. -/
theorem Wiring.resolver_induction (holds : Resolver → Prop)
    (wiring : Wiring reflection tasks before stop final)
    (keeps : ∀ declared handle resolver, .wire declared handle ∈ tasks → holds resolver →
      holds (resolver.learning reflection handle declared.available))
    (first : holds before.resolver) : holds final.resolver := by
  induction wiring with
  | done final => exact first
  | gather _ ih =>
    exact ih (fun declared handle resolver member =>
      keeps declared handle resolver (List.mem_cons_of_mem _ member)) first
  | @wired declared handle rest wired before mid final stop turn later ih =>
    have next := keeps declared handle before.resolver List.mem_cons_self first
    rw [← turn.resolver] at next
    exact ih (fun declared handle resolver member =>
      keeps declared handle resolver (List.mem_cons_of_mem _ member)) next
  | @stopped declared handle rest before final stop turn =>
    rw [turn.resolver]
    exact keeps declared handle before.resolver List.mem_cons_self first

/-- What resolving the declared controllers keeps, a set-up keeps. -/
theorem SetsUp.resolver_induction (holds : Resolver → Prop)
    (setsUp : SetsUp reflection start stop final)
    (keeps : ∀ declared ∈ start.composition.modules, ∀ handle ∈ declared.metadata.controllers,
      ∀ resolver, holds resolver → holds (resolver.learning reflection handle declared.available))
    (first : holds start.resolver) : holds final.resolver := by
  have each : ∀ declared handle resolver, .wire declared handle ∈ start.composition.tasks →
      holds resolver → holds (resolver.learning reflection handle declared.available) := by
    intro declared handle resolver member
    obtain ⟨module, listed⟩ := wire_mem_tasks_iff.mp member
    exact keeps declared module handle listed resolver
  cases setsUp with
  | repeated | unbuilt => exact first
  | stopped _ _ wiring => exact wiring.resolver_induction holds each first
  | done _ _ wiring => exact wiring.resolver_induction holds each first

/-- Nothing is forgotten on the way. -/
theorem Wiring.recalledBy (wiring : Wiring reflection tasks before stop final) :
    before.resolver.RecalledBy final.resolver := by
  refine wiring.resolver_induction (before.resolver.RecalledBy ·) ?_ (.refl _)
  intro declared handle resolver _ recalled
  exact recalled.learning reflection handle declared.available

/-! ## Wired controllers are remembered -/

theorem Turn.remembered {wired : Wired}
    (turn : Turn reflection declared handle before (.ok wired) after) :
    wired.RememberedBy after.resolver := by
  cases turn with
  | wired =>
    show Resolver.cached? _ (.module declared.cls) handle.cls = _
    rw [← declared.scope_available]
    exact Resolver.cached?_learning_self before.resolver reflection handle declared.available

theorem Wiring.remembered (wiring : Wiring reflection tasks before stop final)
    (all : ∀ wired ∈ before.composition.controllers, wired.RememberedBy before.resolver) :
    ∀ wired ∈ final.composition.controllers, wired.RememberedBy final.resolver := by
  induction wiring with
  | done final => exact all
  | gather _ ih => exact ih all
  | @wired declared handle rest wired before mid final stop turn later ih =>
    refine ih fun other member => ?_
    rw [turn.composition] at member
    rcases List.mem_append.mp member with earlier | new
    · rw [turn.resolver]
      exact (all other earlier).learning reflection handle declared.available
    · obtain rfl : other = wired := by simpa [Except.toOption] using new
      exact turn.remembered
  | @stopped declared handle rest before final stop turn =>
    intro other member
    rw [turn.composition] at member
    rw [turn.resolver]
    exact (all other (by simpa [Except.toOption] using member)).learning _ _ _

theorem SetsUp.remembered (setsUp : SetsUp reflection start stop final)
    (all : ∀ wired ∈ start.composition.controllers, wired.RememberedBy start.resolver) :
    ∀ wired ∈ final.composition.controllers, wired.RememberedBy final.resolver := by
  cases setsUp with
  | repeated | unbuilt => exact all
  | stopped _ _ wiring => exact wiring.remembered all
  | done _ _ wiring => exact wiring.remembered all

/-- A set-up forgets no controller. -/
theorem SetsUp.rememberedBy {wired : Wired} (setsUp : SetsUp reflection start stop final)
    (remembered : wired.RememberedBy start.resolver) : wired.RememberedBy final.resolver := by
  refine setsUp.resolver_induction (fun resolver => wired.RememberedBy resolver) ?_ remembered
  intro declared _ handle _ resolver known
  exact known.learning reflection handle declared.available

end Composition

end Trellis
