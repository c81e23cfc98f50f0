import Trellis.Object.Blueprint
import Trellis.Proofs.Composition.Remembering
/-!
# Set-ups that nothing stops

A set-up goes through if its layer can be built and every controller has its dependencies and a
constructor that makes an object. What the resolver remembers at a controller's turn is left open: any
property will do that learning keeps.

* `Turn.exists_wired` is the step, `Wiring.forall_made` the run.
* `SetsUp.forall_made` says what is wired in the end.
-/

namespace Trellis

/-! ## Constructors that succeed -/

/-- A blueprint of a service or a controller that requires nothing makes its object whenever it is given
a logger: an object with a base, which has the configuration, and with the dependencies as given. -/
theorem Blueprint.exists_made {blueprint : Blueprint} {args : Args} {logger : Logger}
    (making : blueprint.making = .service ∨ blueprint.making = .controller)
    (undemanding : blueprint.required = []) (given : args.logger = some logger) (ledger : Ledger) :
    ∃ subject base later, (blueprint.constructor args).run ledger = (.ok subject, later) ∧
      subject.cls = blueprint.cls ∧ subject.received = args.dependencies ∧
      subject.base? = some base ∧ base.config = args.config.getD {} := by
  obtain ⟨cls, signature, emitted, making, required⟩ := blueprint
  obtain ⟨dependencies, given, config⟩ := args
  cases given
  cases undemanding
  rcases making with rfl | rfl
  · exact ⟨_, _, _, rfl, rfl, rfl, rfl, rfl⟩
  · exact ⟨_, _, _, rfl, rfl, rfl, rfl, rfl⟩

/-! ## Set-ups that nothing stops -/

namespace Composition

variable {reflection : Reflection} {declared : Declared} {handle : Handle} {tasks : List Task}
  {before after start final : Assembly} {stop : Option Stop}

/-- A controller that goes without nothing and whose constructor makes an object is wired. -/
theorem Turn.exists_wired {outcome : Except Stop Wired} {construct : Constructor}
    (turn : Turn reflection declared handle before outcome after)
    (whole : before.omitted reflection declared handle = [])
    (known : reflection.store.controllerConstructor? handle = some construct)
    (makes : ∀ ledger, ∃ subject later,
      (construct (before.args reflection declared handle)).run ledger = (.ok subject, later)) :
    ∃ subject ledger later, outcome = .ok (before.wired reflection declared handle subject) ∧
      (construct (before.args reflection declared handle)).run ledger = (.ok subject, later) := by
  cases turn with
  | refused omission => exact absurd whole omission
  | unknown _ unknown => cases known.symm.trans unknown
  | failed _ found failed =>
    obtain rfl := Option.some.inj (known.symm.trans found)
    obtain ⟨subject, later, made⟩ := makes (before.admitted reflection declared handle).ledger
    cases made.symm.trans failed
  | wired _ found made =>
    obtain rfl := Option.some.inj (known.symm.trans found)
    exact ⟨_, _, _, rfl, made⟩

/-- If every turn ends with a wired controller, whatever the resolver remembers by then, nothing stops
the wiring, and of every controller holds what holds of it at its turn. -/
theorem Wiring.forall_made {remembers : Resolver → Prop} {made : Declared → Handle → Wired → Prop}
    (wiring : Wiring reflection tasks before stop final)
    (keeps : ∀ declared handle resolver, .wire declared handle ∈ tasks → remembers resolver →
      remembers (resolver.learning reflection handle declared.available))
    (first : remembers before.resolver)
    (each : ∀ declared handle mid outcome after, .wire declared handle ∈ tasks →
      remembers mid.resolver → mid.composition.services = before.composition.services →
        mid.composition.app = before.composition.app →
          Turn reflection declared handle mid outcome after →
            ∃ wired, outcome = .ok wired ∧ made declared handle wired) :
    stop = none ∧ ∀ wired ∈ final.composition.controllers,
      wired ∈ before.composition.controllers ∨
        ∃ declared handle, .wire declared handle ∈ tasks ∧ made declared handle wired := by
  induction wiring with
  | done final => exact ⟨rfl, fun wired member => .inl member⟩
  | gather _ ih =>
    obtain ⟨unstopped, all⟩ := ih
      (fun declared handle resolver member =>
        keeps declared handle resolver (List.mem_cons_of_mem _ member)) first
      fun declared handle mid outcome after member =>
        each declared handle mid outcome after (List.mem_cons_of_mem _ member)
    refine ⟨unstopped, fun wired member => (all wired member).imp_right ?_⟩
    rintro ⟨declared, handle, later, holds⟩
    exact ⟨declared, handle, List.mem_cons_of_mem _ later, holds⟩
  | @wired declared handle rest wired before mid final stop turn later ih =>
    obtain ⟨other, same, here⟩ :=
      each declared handle before _ mid List.mem_cons_self first rfl rfl turn
    obtain rfl := Except.ok.inj same
    have learnt := keeps declared handle before.resolver List.mem_cons_self first
    rw [← turn.resolver] at learnt
    have kept := turn.composition
    obtain ⟨unstopped, all⟩ := ih
      (fun declared handle resolver member =>
        keeps declared handle resolver (List.mem_cons_of_mem _ member)) learnt
      fun declared handle start outcome after member remembers services app =>
        each declared handle start outcome after (List.mem_cons_of_mem _ member) remembers
          (services.trans (by rw [kept])) (app.trans (by rw [kept]))
    refine ⟨unstopped, fun other member => ?_⟩
    rcases all other member with earlier | ⟨module, which, listed, holds⟩
    · rw [kept] at earlier
      rcases List.mem_append.mp earlier with old | new
      · exact .inl old
      · obtain rfl : other = wired := by simpa [Except.toOption] using new
        exact .inr ⟨declared, handle, List.mem_cons_self, here⟩
    · exact .inr ⟨module, which, List.mem_cons_of_mem _ listed, holds⟩
  | @stopped declared handle rest before final stop turn =>
    obtain ⟨wired, same, -⟩ := each declared handle before _ final List.mem_cons_self first rfl rfl turn
    cases same

/-- If the layer is built and every turn ends with a wired controller, nothing stops the set-up. -/
theorem SetsUp.forall_made {remembers : Resolver → Prop} {made : Declared → Handle → Wired → Prop}
    {services : Context} {ledger : Ledger} (setsUp : SetsUp reflection start stop final)
    (fresh : start.composition.Fresh)
    (built : start.composition.layer.build.run start.ledger = (.ok services, ledger))
    (keeps : ∀ declared ∈ start.composition.modules, ∀ handle ∈ declared.metadata.controllers,
      ∀ resolver, remembers resolver →
        remembers (resolver.learning reflection handle declared.available))
    (first : remembers start.resolver)
    (each : ∀ declared ∈ start.composition.modules, ∀ handle ∈ declared.metadata.controllers,
      ∀ mid outcome after, remembers mid.resolver → mid.composition.services = services →
        mid.composition.app = start.composition.app →
          Turn reflection declared handle mid outcome after →
            ∃ wired, outcome = .ok wired ∧ made declared handle wired) :
    stop = none ∧ final.composition.services = services ∧
      final.composition.controllers.map Wired.place = start.composition.plan ∧
        ∀ wired ∈ final.composition.controllers, ∃ declared ∈ start.composition.modules,
          ∃ handle ∈ declared.metadata.controllers, made declared handle wired := by
  have all : ∀ {stop last}, Wiring reflection start.composition.tasks (start.realized services ledger)
      stop last → stop = none ∧ ∀ wired ∈ last.composition.controllers,
        ∃ declared ∈ start.composition.modules, ∃ handle ∈ declared.metadata.controllers,
          made declared handle wired := by
    intro stop last wiring
    obtain ⟨unstopped, made⟩ := wiring.forall_made
      (fun declared handle resolver member =>
        keeps declared (wire_mem_tasks_iff.mp member).1 handle (wire_mem_tasks_iff.mp member).2
          resolver) first
      fun declared handle mid outcome after member =>
        each declared (wire_mem_tasks_iff.mp member).1 handle (wire_mem_tasks_iff.mp member).2 mid
          outcome after
    refine ⟨unstopped, fun wired member => ?_⟩
    rcases made wired member with earlier | ⟨declared, handle, listed, holds⟩
    · have none : start.composition.controllers = [] := fresh.controllers
      exact absurd (none ▸ earlier) List.not_mem_nil
    · obtain ⟨module, controller⟩ := wire_mem_tasks_iff.mp listed
      exact ⟨declared, module, handle, controller, holds⟩
  obtain ⟨wired, left, composition, planned, complete⟩ :=
    setsUp.composition_of_built fresh.stage built
  cases setsUp with
  | repeated later => exact absurd fresh.stage later
  | unbuilt _ failed => cases failed.symm.trans built
  | stopped _ same wiring =>
    cases same.symm.trans built
    cases (all wiring).1
  | @done _ _ last _ same wiring =>
    cases same.symm.trans built
    rw [complete.mp rfl, List.append_nil] at planned
    refine ⟨rfl, by rw [composition], ?_, (all wiring).2⟩
    rw [composition, fresh.controllers, planned]
    rfl

end Composition

end Trellis
