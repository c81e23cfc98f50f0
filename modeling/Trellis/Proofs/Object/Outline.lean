import Trellis.Proofs.Object.Twins
/-!
# Objects without the wiring policy

The configuration that objects are built with names the wiring policy, and whatever is built keeps
it. Two objects have the same outline if they differ at most in the policies they keep, at any
depth.

A constructor is blind if it does not read the policy: out of what has the same outline it makes
what has the same outline, or fails with the same error, and leaves the ledger in the same state.
-/

namespace Trellis

/-- The configuration under the policy it has by default. -/
def AppConfig.outline (config : AppConfig) : AppConfig :=
  { config with policy := .bestEffort }

def Base.outline (base : Base) : Base :=
  { base with config := base.config.outline }

def Role.outline : Role → Role
  | plain => plain
  | service base => service base.outline
  | controller base => controller base.outline
  | logger own => logger own

def Instance.outline : Instance → Instance
  | { cls, object, role, received, logger, config } =>
    { cls
      object
      role := role.outline
      received := received.map outline
      logger
      config := config.map AppConfig.outline }

def Args.outline (args : Args) : Args :=
  { args with
    dependencies := args.dependencies.map Instance.outline
    config := args.config.map AppConfig.outline }

@[simp]
theorem Instance.cls_outline (subject : Instance) : subject.outline.cls = subject.cls := by
  cases subject
  simp only [outline]

/-! ## Blindness -/

/-- A constructor that does not read the policy. -/
def Constructor.Blind (construct : Constructor) : Prop :=
  ∀ args other, args.outline = other.outline →
    Instance.outline <$> construct args = Instance.outline <$> construct other

/-- The constructors that a handle knows are blind. -/
structure Handle.Blind (handle : Handle) : Prop where
  service : ∀ construct ∈ handle.serviceConstructor, Constructor.Blind construct
  controller : ∀ construct ∈ handle.controllerConstructor, Constructor.Blind construct

/-! ## Blueprints are blind -/

section Blueprints

variable {args other : Args}

theorem Args.outline_eq_iff : args.outline = other.outline ↔
    args.dependencies.map Instance.outline = other.dependencies.map Instance.outline ∧
      args.logger = other.logger ∧
        args.config.map AppConfig.outline = other.config.map AppConfig.outline := by
  simp only [outline, mk.injEq]

theorem Base.outline_eq_iff {base again : Base} : base.outline = again.outline ↔
    base.className = again.className ∧ base.logger = again.logger ∧
      base.config.outline = again.config.outline := by
  simp only [outline, mk.injEq]

theorem Args.base_of_outline_eq (same : args.outline = other.outline) (className : String) :
    (args.base className).map Base.outline = (other.base className).map Base.outline := by
  obtain ⟨-, loggers, configs⟩ := outline_eq_iff.mp same
  have default : ∀ config : Option AppConfig,
      (config.getD {}).outline = (config.map AppConfig.outline).getD {} := by
    rintro (_ | config) <;> rfl
  have config : (args.config.getD {}).outline = (other.config.getD {}).outline := by
    rw [default, default, configs]
  unfold base
  rw [loggers]
  cases other.logger with
  | none => rfl
  | some logger =>
    simp only [Except.map, Base.outline]
    rw [config]

theorem Args.alike_of_outline_eq (same : args.outline = other.outline) :
    args.Alike Eq (fun base again => base.outline = again.outline)
      (fun subject again => subject.outline = again.outline) other where
  based className := Steps.matches_iff_map_eq.mpr (base_of_outline_eq same className)
  loggers base again looks := (Base.outline_eq_iff.mp looks).2.1
  required := matches_require Instance.cls_outline (outline_eq_iff.mp same).1
  reported event := by
    rintro start _ rfl
    exact ⟨.ok trivial, rfl⟩
  made cls role again related := by
    obtain ⟨dependencies, loggers, configs⟩ := outline_eq_iff.mp same
    have roles : role.outline = again.outline := by
      cases related with
      | plain => rfl
      | service looks => exact congrArg Role.service looks
      | controller looks => exact congrArg Role.controller looks
    rintro start _ rfl
    refine ⟨.ok ?_, rfl⟩
    simp only [Instance.outline, dependencies, loggers, configs, roles]

/-- A constructor described by a blueprint does not read the policy. -/
theorem Blueprint.blind_constructor (blueprint : Blueprint) :
    Constructor.Blind blueprint.constructor := by
  intro args other same
  exact Steps.twins_iff_map_eq.mp (blueprint.twins_constructor (Args.alike_of_outline_eq same))

theorem Blueprint.blind_handle (blueprint : Blueprint) (kind : HandleKind) :
    (blueprint.handle kind).Blind := by
  cases kind with
  | bare => exact ⟨nofun, nofun⟩
  | provider =>
    refine ⟨fun construct known => ?_, nofun⟩
    obtain rfl : blueprint.constructor = construct := Option.some.inj known
    exact blueprint.blind_constructor
  | controller =>
    refine ⟨nofun, fun construct known => ?_⟩
    obtain rfl : blueprint.constructor = construct := Option.some.inj known
    exact blueprint.blind_constructor

theorem Class.blind_handle (cls : Class) : cls.handle.Blind :=
  ⟨nofun, nofun⟩

end Blueprints

end Trellis
