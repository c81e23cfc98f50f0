import Trellis.Proofs.Object.Twins
/-!
# Objects but for their identities

The number of an object tells how many were made before it. Two objects have the same shape if they
differ at most in such numbers, at any depth.

A constructor is deterministic if what it does depends on the shape of its arguments alone: whatever
was done before, it makes objects of the same shape out of arguments of the same shape, or fails with
the same error. The constructors that blueprints describe are.
-/

namespace Trellis

def Instance.shape : Instance → Instance
  | { cls, object := _, role, received, logger, config } =>
    { cls, object := .constructed 0, role, received := received.map shape, logger, config }

/-- Both have the same shape. -/
def Instance.Like (subject other : Instance) : Prop :=
  subject.shape = other.shape

def Args.shape (args : Args) : Args :=
  { args with dependencies := args.dependencies.map Instance.shape }

@[simp]
theorem Instance.cls_shape (subject : Instance) : subject.shape.cls = subject.cls := by
  cases subject
  simp only [shape]

/-- Loggers differ in their identities alone. -/
theorem Instance.like_newLoggerInstance (logger : Logger) (ledger later : Ledger) :
    (newLoggerInstance logger ledger).1.Like (newLoggerInstance logger later).1 := by
  simp only [Like, newLoggerInstance, modifyGet, MonadStateOf.modifyGet, StateT.modifyGet, pure,
    shape]

theorem Instance.Like.cls {subject other : Instance} (like : subject.Like other) :
    subject.cls = other.cls := by
  rw [← subject.cls_shape, like, cls_shape]

theorem Args.shape_eq_iff {args other : Args} : args.shape = other.shape ↔
    args.dependencies.map Instance.shape = other.dependencies.map Instance.shape ∧
      args.logger = other.logger ∧ args.config = other.config := by
  simp only [shape, mk.injEq]

/-! ## Determinism -/

/-- Two works that come to the same error or to related values, whatever was done before. -/
def Build.Twins {α β : Type} (values : α → β → Prop) (work : Build α) (other : Build β) : Prop :=
  Steps.Twins (fun _ _ : Ledger => True) values work other

def Constructor.Deterministic (construct : Constructor) : Prop :=
  ∀ args other, args.shape = other.shape →
    Build.Twins Instance.Like (construct args) (construct other)

/-! ## Blueprints are deterministic -/

section Blueprints

variable {args other : Args}

theorem Args.base_of_shape_eq (same : args.shape = other.shape) (className : String) :
    args.base className = other.base className := by
  obtain ⟨-, loggers, configs⟩ := shape_eq_iff.mp same
  simp only [base, loggers, configs]

theorem Args.alike_of_shape_eq (same : args.shape = other.shape) :
    args.Alike (fun _ _ => True) Eq Instance.Like other where
  based className := by
    rw [base_of_shape_eq same]
    cases other.base className with
    | error error => exact .error error
    | ok base => exact .ok rfl
  loggers base again related := congrArg Base.logger related
  required := matches_require Instance.cls_shape (shape_eq_iff.mp same).1
  reported event := fun _ _ _ => ⟨.ok trivial, trivial⟩
  made cls role again related := by
    obtain ⟨dependencies, loggers, configs⟩ := shape_eq_iff.mp same
    have roles : role = again := by
      cases related with
      | plain => rfl
      | service related => exact congrArg Role.service related
      | controller related => exact congrArg Role.controller related
    refine fun start begin _ => ⟨.ok ?_, trivial⟩
    simp only [Instance.Like, Instance.shape, dependencies, loggers, configs, roles]

theorem Blueprint.deterministic_constructor (blueprint : Blueprint) :
    Constructor.Deterministic blueprint.constructor :=
  fun _ _ same => blueprint.twins_constructor (Args.alike_of_shape_eq same)

end Blueprints

end Trellis
