import Trellis.Proofs.Composition.Services
import Trellis.Proofs.Layer.Outline
/-!
# Set-ups without the wiring policy

Where nothing is omitted the policy makes no difference: of two assemblies with the same outline,
each can wire what the other one wires, and they end with the same outline again. The policy counts
only at a controller that goes without something.

* The steps of a set-up work on outlines as they do on what they outline.
* `Assembly.Whole` says that no wired controller goes without anything.
* `Wiring.mirror` carries a wiring that ends whole over to an assembly of the same outline.
-/

namespace Trellis

/-! ## What an application provides -/

/-- The application under the policy it has by default. -/
def App.outline (app : App) : App :=
  { app with config := app.config.outline }

theorem App.outline_args (app : App) : app.args.outline = app.outline.args := rfl

namespace Registry

variable {registry : Registry} {provider : Handle} {app other : App}

/-- A provider of a blind registry provides alike for applications of one outline. -/
theorem Blind.provision? (blind : registry.Blind) (own : provider.Blind)
    (same : app.outline = other.outline) :
    Option.Rel Provision.Alike (registry.provision? app provider)
      (registry.provision? other provider) := by
  have args : app.args.outline = other.args.outline := by
    rw [App.outline_args, App.outline_args, same]
  unfold Registry.provision?
  cases declared : registry.serviceMetadata? provider.cls with
  | none =>
    cases known : registry.serviceConstructor? provider with
    | none => exact .none
    | some construct =>
      have unseen := blind.serviceConstructor? own known
      exact .some ⟨rfl, rfl, fun _ _ _ => unseen {} {} rfl⟩
  | some metadata =>
    have kept := blind.serviceMetadata? declared
    cases known : metadata.implementation.serviceConstructor.or provider.serviceConstructor with
    | none =>
      simp only [ServiceMetadata.provision, known]
      exact .none
    | some construct =>
      have unseen : Constructor.Blind construct := by
        rcases Option.or_eq_some_iff.mp known with first | ⟨-, second⟩
        · exact kept.service construct first
        · exact own.service construct second
      simp only [ServiceMetadata.provision, known]
      exact .some ⟨rfl, rfl, fun _ _ _ => unseen app.args other.args args⟩

theorem Blind.filterMap_provision? (blind : registry.Blind) {walk : List Handle}
    (own : ∀ provider ∈ walk, provider.Blind) (same : app.outline = other.outline) :
    List.Forall₂ Provision.Alike (walk.filterMap (registry.provision? app))
      (walk.filterMap (registry.provision? other)) := by
  induction walk with
  | nil => exact .nil
  | cons provider rest ih =>
    have later := ih fun other member => own other (List.mem_cons_of_mem _ member)
    have first := blind.provision? (own provider List.mem_cons_self) same
    rw [List.filterMap_cons, List.filterMap_cons]
    generalize registry.provision? app provider = one at first
    generalize registry.provision? other provider = another at first
    cases first with
    | none => exact later
    | some alike => exact .cons alike later

end Registry

/-! ## Outlines of assemblies -/

def Wired.outline (wired : Wired) : Wired :=
  { wired with
    controller :=
      { subject := wired.controller.subject.outline
        services := Context.outline wired.controller.services } }

/-- The composition but for its layer and for what keeps the policy. -/
def Composition.outline (composition : Composition) : Composition :=
  { composition with
    app := composition.app.outline
    layer := []
    services := composition.services.outline
    controllers := composition.controllers.map Wired.outline }

namespace Assembly

def outline (assembly : Assembly) : Assembly :=
  { assembly with composition := assembly.composition.outline }

variable (reflection : Reflection) (declared : Declared) (handle : Handle) (assembly : Assembly)

theorem outline_gathered :
    (assembly.gathered declared).outline = assembly.outline.gathered declared := rfl

end Assembly

theorem Resolution.omitted_outline (resolution : Resolution) (services : Context) :
    resolution.omitted services.outline = resolution.omitted services := by
  simp only [omitted, Context.ofClass?_outline, Option.isNone_map]

theorem Resolution.omitted_eq_nil_iff {resolution : Resolution} {services : Context} :
    resolution.omitted services = [] ↔ resolution.unresolved = [] ∧
      ∀ cls ∈ resolution.dependencies, (services.ofClass? cls).isSome := by
  simp [omitted, Option.isSome_iff_ne_none]

theorem Resolution.injected_outline (resolution : Resolution) (services : Context) :
    resolution.injected services.outline =
      (resolution.injected services).map Instance.outline := by
  rw [injected, injected, List.map_filterMap]
  exact List.filterMap_congr fun cls _ => Context.ofClass?_outline services cls

namespace Assembly

variable (reflection : Reflection) (declared : Declared) (handle : Handle) (assembly : Assembly)

theorem omitted_outline :
    assembly.outline.omitted reflection declared handle =
      assembly.omitted reflection declared handle :=
  Resolution.omitted_outline ..

theorem injected_outline :
    assembly.outline.injected reflection declared handle =
      (assembly.injected reflection declared handle).map Instance.outline :=
  Resolution.injected_outline ..

theorem args_outline :
    assembly.outline.args reflection declared handle =
      (assembly.args reflection declared handle).outline := by
  rw [args, injected_outline]
  rfl

theorem outline_admitted :
    (assembly.admitted reflection declared handle).outline =
      assembly.outline.admitted reflection declared handle := by
  rw [admitted, admitted, omitted_outline]
  rfl

theorem outline_wiring (subject : Instance) (ledger : Ledger) :
    (assembly.wiring reflection declared handle subject ledger).outline =
      assembly.outline.wiring reflection declared handle subject.outline ledger := by
  rw [wiring, wiring, injected_outline, List.length_map]
  simp only [outline, Composition.outline, List.map_append]
  rfl

theorem outline_realized (services : Context) (ledger : Ledger) :
    (assembly.realized services ledger).outline =
      assembly.outline.realized services.outline ledger := by
  simp only [realized, Composition.realizedEvent, Context.length_outline]
  rfl

theorem outline_finished : assembly.finished.outline = assembly.outline.finished := by
  simp only [finished, Composition.setUpEvent, outline, Composition.outline, List.length_map]

/-- No wired controller goes without anything. -/
def Whole (assembly : Assembly) : Prop :=
  ∀ wired ∈ assembly.composition.controllers,
    wired.resolution.omitted assembly.composition.services = []

theorem whole_outline_iff : assembly.outline.Whole ↔ assembly.Whole := by
  simp [Whole, outline, Composition.outline, Wired.outline, Resolution.omitted_outline]

end Assembly

/-! ## What can be carried over -/

namespace Composition

variable {reflection : Reflection} {declared : Declared} {handle : Handle}
  {one other before after : Assembly} {tasks : List Task} {stop : Option Stop}

/-- What a wired controller goes without is what was omitted at its turn. -/
theorem Turn.omitted_eq {wired : Wired}
    (turn : Turn reflection declared handle before (.ok wired) after) :
    wired.resolution.omitted before.composition.services =
      before.omitted reflection declared handle := by
  cases turn
  rfl

/-- The turn of a controller that goes without nothing can be taken under any policy. -/
theorem Turn.mirror (blind : reflection.store.Blind) (own : handle.Blind)
    (alike : one.outline = other.outline) {wired : Wired}
    (turn : Turn reflection declared handle one (.ok wired) after)
    (whole : one.omitted reflection declared handle = []) :
    ∃ another last, Turn reflection declared handle other (.ok another) last ∧
      after.outline = last.outline := by
  cases turn with
  | @wired construct subject ledger admits known made =>
    have args : (one.args reflection declared handle).outline =
        (other.args reflection declared handle).outline := by
      rw [← Assembly.args_outline, alike, Assembly.args_outline]
    have admitted : (one.admitted reflection declared handle).outline =
        (other.admitted reflection declared handle).outline := by
      rw [Assembly.outline_admitted, alike, Assembly.outline_admitted]
    have ledgers : (one.admitted reflection declared handle).ledger =
        (other.admitted reflection declared handle).ledger := (Assembly.mk.inj admitted).2.2
    -- The same constructor, called with arguments that it cannot tell apart.
    have unseen := blind.controllerConstructor? own known
    obtain ⟨again, remade, looks⟩ := Steps.exists_run_of_map_eq (unseen _ _ args) made
    rw [ledgers] at remade
    have omitted : other.omitted reflection declared handle = [] := by
      rw [← Assembly.omitted_outline, ← alike, Assembly.omitted_outline, whole]
    refine ⟨_, _, .wired (fun refusal => refusal.1 omitted) known remade, ?_⟩
    rw [Assembly.outline_wiring, Assembly.outline_wiring, alike, looks]

/-- What is wired stays wired, by the same services. -/
theorem Wiring.keeps {final : Assembly} (wiring : Wiring reflection tasks before stop final) :
    final.composition.services = before.composition.services ∧
      ∀ wired ∈ before.composition.controllers, wired ∈ final.composition.controllers := by
  obtain ⟨made, left, composition, -⟩ := wiring.composition
  rw [composition]
  exact ⟨rfl, fun wired member => List.mem_append_left made member⟩

/-- A wiring after which no controller goes without anything can be done under any policy. -/
theorem Wiring.mirror (blind : reflection.store.Blind) {last : Assembly}
    (own : ∀ declared handle, .wire declared handle ∈ tasks → handle.Blind)
    (alike : one.outline = other.outline) (wiring : Wiring reflection tasks one none last)
    (whole : last.Whole) :
    ∃ final, Wiring reflection tasks other none final ∧ last.outline = final.outline := by
  generalize ended : none = stop at wiring
  induction wiring generalizing other with
  | done final => exact ⟨other, .done other, alike⟩
  | @gather declared rest before last stop later ih =>
    have gathered : (before.gathered declared).outline = (other.gathered declared).outline := by
      rw [Assembly.outline_gathered, alike, Assembly.outline_gathered]
    obtain ⟨final, rewired, same⟩ :=
      ih (fun declared handle member => own declared handle (List.mem_cons_of_mem _ member))
        gathered whole ended
    exact ⟨final, .gather rewired, same⟩
  | @wired declared handle rest wired before mid last stop turn later ih =>
    -- The controller is among those wired in the end, so it went without nothing at its turn.
    have nothing : before.omitted reflection declared handle = [] := by
      obtain ⟨services, kept⟩ := later.keeps
      rw [← turn.omitted_eq]
      have complete := whole wired (kept wired (by simp [turn.composition, Except.toOption]))
      rwa [services, turn.composition] at complete
    obtain ⟨another, next, returned, looks⟩ :=
      turn.mirror blind (own declared handle List.mem_cons_self) alike nothing
    obtain ⟨final, rewired, same⟩ :=
      ih (fun declared handle member => own declared handle (List.mem_cons_of_mem _ member))
        looks whole ended
    exact ⟨final, .wired returned rewired, same⟩
  | stopped turn => cases ended

/-- Under the strict policy a controller is only wired if it goes without nothing. -/
theorem Turn.omitted_of_strict {wired : Wired}
    (turn : Turn reflection declared handle before (.ok wired) after)
    (strict : before.composition.app.config.policy = .strict) :
    before.omitted reflection declared handle = [] := by
  cases turn with
  | wired admits => exact Classical.not_not.mp fun something => admits ⟨something, strict⟩

/-- Under the strict policy no wired controller goes without anything, also if something stops the
wiring. -/
theorem Wiring.whole_of_strict {final : Assembly}
    (wiring : Wiring reflection tasks before stop final)
    (strict : before.composition.app.config.policy = .strict) (whole : before.Whole) :
    final.Whole := by
  induction wiring with
  | done final => exact whole
  | gather _ ih => exact ih strict whole
  | @wired declared handle rest wired before mid last stop turn later ih =>
    refine ih (by rw [turn.composition]; exact strict) fun other member => ?_
    rw [turn.composition] at member ⊢
    rcases List.mem_append.mp member with earlier | new
    · exact whole other earlier
    · obtain rfl : other = wired := by simpa [Except.toOption] using new
      exact turn.omitted_eq.trans (turn.omitted_of_strict strict)
  | stopped turn =>
    intro other member
    rw [turn.composition] at member ⊢
    exact whole other (by simpa [Except.toOption] using member)

theorem SetsUp.whole_of_strict {final : Assembly} (setsUp : SetsUp reflection before stop final)
    (strict : before.composition.app.config.policy = .strict)
    (fresh : before.composition.controllers = []) : final.Whole := by
  have none : ∀ services ledger, (before.realized services ledger).Whole :=
    fun _ _ wired member => absurd (fresh ▸ member) List.not_mem_nil
  cases setsUp with
  | repeated | unbuilt => exact fun wired member => absurd (fresh ▸ member) List.not_mem_nil
  | stopped _ _ wiring => exact wiring.whole_of_strict strict (none _ _)
  | done _ _ wiring => exact wiring.whole_of_strict strict (none _ _)

/-- A set-up after which no controller goes without anything can be done under any policy. -/
theorem SetsUp.mirror (blind : reflection.store.Blind) {final : Assembly}
    (own : ∀ declared ∈ one.composition.modules, ∀ handle ∈ declared.metadata.controllers,
      handle.Blind)
    (layers : List.Forall₂ Provision.Alike one.composition.layer other.composition.layer)
    (alike : one.outline = other.outline) (setsUp : SetsUp reflection one none final)
    (whole : final.Whole) :
    ∃ last, SetsUp reflection other none last ∧ final.outline = last.outline := by
  cases setsUp with
  | @done services ledger last composed built wiring =>
    obtain ⟨compositions, -, ledgers⟩ := Assembly.mk.inj alike
    obtain ⟨root, imported, -, -, stage, -, -⟩ := Composition.mk.inj compositions
    have tasks : one.composition.tasks = other.composition.tasks := by
      rw [Composition.tasks, modules, root, imported]
      rfl
    obtain ⟨again, rebuilt, looks⟩ := Steps.exists_run_of_map_eq (Layer.map_build layers) built
    rw [ledgers] at rebuilt
    have realized : (one.realized services ledger).outline =
        (other.realized again ledger).outline := by
      rw [Assembly.outline_realized, Assembly.outline_realized, alike, looks]
    have blindTasks : ∀ declared handle, .wire declared handle ∈ one.composition.tasks →
        handle.Blind := by
      intro declared handle member
      obtain ⟨module, listed⟩ := wire_mem_tasks_iff.mp member
      exact own declared module handle listed
    obtain ⟨final, rewired, same⟩ := wiring.mirror blind blindTasks realized whole
    rw [tasks] at rewired
    refine ⟨final.finished, .done (stage.symm.trans composed) rebuilt rewired, ?_⟩
    rw [Assembly.outline_finished, Assembly.outline_finished, same]

end Composition

end Trellis
