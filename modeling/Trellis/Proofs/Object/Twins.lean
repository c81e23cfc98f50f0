import Trellis.Object.Blueprint
import Trellis.Proofs.Steps
/-!
# Constructing side by side

A blueprint is constructed twice, out of arguments that have something in common and in ledgers that
are related. In what they are related is left open: what a blueprint does with its arguments is to make
a base, to report, to require dependencies and to make an object, so it is enough that each of these
goes alike (`Args.Alike`). Then the objects are related as well, or both constructions fail with the
same error.
-/

namespace Trellis

/-! ## Dependencies -/

section Views

variable {view : Instance → Instance} {args other : Args}

/-- The first instance of a class is found alike through a view that keeps classes. -/
theorem Instance.find?_isOf_map (keeps : ∀ subject, (view subject).cls = subject.cls) (cls : Class)
    (instances : List Instance) :
    (instances.map view).find? (isOf cls) = (instances.find? (isOf cls)).map view := by
  have same : isOf cls ∘ view = isOf cls := by
    funext subject
    simp [isOf, keeps]
  rw [List.find?_map, same]

/-- Dependencies that look alike are required alike. -/
theorem Args.matches_require (keeps : ∀ subject, (view subject).cls = subject.cls)
    (same : args.dependencies.map view = other.dependencies.map view) (cls : Class) :
    Steps.Matches (fun subject again => view subject = view again) (args.require cls)
      (other.require cls) := by
  have found : (args.dependency? cls).map view = (other.dependency? cls).map view := by
    rw [dependency?, dependency?, ← Instance.find?_isOf_map keeps, same,
      Instance.find?_isOf_map keeps]
  unfold require
  cases first : args.dependency? cls <;> cases second : other.dependency? cls <;>
    rw [first, second] at found
  · exact .error _
  · cases found
  · cases found
  · exact .ok (Option.some.inj found)

end Views

/-! ## Blueprints -/

/-- Roles of one kind, with related bases. -/
inductive Role.Related (bases : Base → Base → Prop) : Role → Role → Prop
  | plain : Related bases plain plain
  | service {base again : Base} (related : bases base again) :
      Related bases (service base) (service again)
  | controller {base again : Base} (related : bases base again) :
      Related bases (controller base) (controller again)

/-- What is needed of arguments for blueprints to make related objects out of them. -/
structure Args.Alike (states : Ledger → Ledger → Prop) (bases : Base → Base → Prop)
    (instances : Instance → Instance → Prop) (args other : Args) : Prop where
  based : ∀ className, Steps.Matches bases (args.base className) (other.base className)
  loggers : ∀ base again, bases base again → base.logger = again.logger
  required : ∀ cls, Steps.Matches instances (args.require cls) (other.require cls)
  reported : ∀ event, Steps.Twins states (fun _ _ => True) (emit event : Build Unit) (emit event)
  made : ∀ cls role again, Role.Related bases role again →
    Steps.Twins states instances (newInstance cls role args : Build Instance)
      (newInstance cls again other)

section Blueprints

variable {states : Ledger → Ledger → Prop} {bases : Base → Base → Prop}
  {instances : Instance → Instance → Prop} {args other : Args}

/-- A result that is there already is the same whenever it is asked for. -/
theorem Build.twins_ofExcept {α β : Type} {values : α → β → Prop} {one : Except Error α}
    {two : Except Error β} (ends : Steps.Matches values one two) :
    Steps.Twins states values (Build.ofExcept one) (Build.ofExcept two) :=
  fun _ _ begun => ⟨ends, begun⟩

/-- A base is made and then reported. -/
theorem Args.Alike.twins_reported (alike : args.Alike states bases instances other) (cls : Class)
    (message : String) :
    Steps.Twins states bases
      (do
        let base ← Build.ofExcept (args.base cls.name)
        emit (base.logger.event .debug message)
        return base : Build Base)
      (do
        let base ← Build.ofExcept (other.base cls.name)
        emit (base.logger.event .debug message)
        return base) := by
  refine Steps.Twins.bind (Build.twins_ofExcept (alike.based cls.name)) fun base again related => ?_
  rw [alike.loggers base again related]
  exact Steps.Twins.bind (alike.reported _) fun _ _ _ => .pure related

theorem Making.twins_role (alike : args.Alike states bases instances other) (making : Making)
    (cls : Class) :
    Steps.Twins states (Role.Related bases) (making.role cls args) (making.role cls other) := by
  cases making with
  | plain => exact .pure .plain
  | failing error => exact .throw error
  | service =>
    show Steps.Twins states _ (Role.service <$> _) (Role.service <$> _)
    rw [map_eq_pure_bind, map_eq_pure_bind]
    refine Steps.Twins.bind (alike.twins_reported cls "Service initialized") ?_
    exact fun _ _ related => .pure (.service related)
  | controller =>
    show Steps.Twins states _ (Role.controller <$> _) (Role.controller <$> _)
    rw [map_eq_pure_bind, map_eq_pure_bind]
    refine Steps.Twins.bind (alike.twins_reported cls "Controller initialized") ?_
    exact fun _ _ related => .pure (.controller related)

/-- Requiring some dependencies works out alike. -/
theorem Args.Alike.twins_required (alike : args.Alike states bases instances other)
    (required : List Class) :
    Steps.Twins states (fun _ _ => True)
      (forIn required PUnit.unit fun cls _ => do
        let _ ← Build.ofExcept (args.require cls)
        pure (.yield PUnit.unit) : Build PUnit)
      (forIn required PUnit.unit fun cls _ => do
        let _ ← Build.ofExcept (other.require cls)
        pure (.yield PUnit.unit)) := by
  induction required with
  | nil => exact .pure trivial
  | cons cls rest ih =>
    rw [List.forIn_cons, List.forIn_cons, bind_assoc, bind_assoc]
    exact Steps.Twins.bind (Build.twins_ofExcept (alike.required cls)) fun _ _ _ => ih

/-- Out of arguments that are alike, a blueprint makes related objects. -/
theorem Blueprint.twins_constructor (alike : args.Alike states bases instances other)
    (blueprint : Blueprint) :
    Steps.Twins states instances (blueprint.constructor args) (blueprint.constructor other) := by
  refine Steps.Twins.bind (blueprint.making.twins_role alike blueprint.cls) ?_
  intro role again related
  refine Steps.Twins.bind (alike.twins_required blueprint.required) fun _ _ _ => ?_
  exact alike.made blueprint.cls role again related

end Blueprints

end Trellis
