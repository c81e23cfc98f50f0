import Trellis.Object.Blueprint
import Trellis.Proofs.Steps
/-!
# Objects of their own

Objects are numbered as they are made, out of the ledger, and no number is given twice. So what was
made up to one ledger is another object than what is made from a later one on.

A constructor allots if it never returns an object that was there before: what a class makes is wrapped
in an object of its own. The constructors that blueprints describe allot.
-/

namespace Trellis

/-- Every number that the first ledger has allotted, the second one has allotted as well. -/
structure Ledger.Precedes (ledger later : Ledger) : Prop where
  objects : ledger.objects ≤ later.objects
  loggers : ledger.loggers ≤ later.loggers

namespace Ledger

variable {ledger later last : Ledger}

theorem Precedes.refl (ledger : Ledger) : ledger.Precedes ledger :=
  ⟨Nat.le_refl _, Nat.le_refl _⟩

theorem Precedes.trans (first : ledger.Precedes later) (second : later.Precedes last) :
    ledger.Precedes last :=
  ⟨Nat.le_trans first.objects second.objects, Nat.le_trans first.loggers second.loggers⟩

/-! Reporting allots nothing. -/

theorem precedes_emit (event : Event) (ledger : Ledger) : ledger.Precedes (emit event ledger).2 :=
  ⟨Nat.le_refl _, Nat.le_refl _⟩

theorem precedes_emitAll (events : List Event) (ledger : Ledger) :
    ledger.Precedes (emitAll events ledger).2 :=
  ⟨Nat.le_refl _, Nat.le_refl _⟩

end Ledger

/-- The object was made after the first ledger was left and before the second one was. -/
def ObjectId.MadeBetween (ledger later : Ledger) : ObjectId → Prop
  | .logger n => ledger.loggers < n ∧ n ≤ later.loggers
  | .constructed n => ledger.objects < n ∧ n ≤ later.objects

namespace ObjectId

variable {ledger mid later last : Ledger} {object other : ObjectId}

theorem MadeBetween.since (made : object.MadeBetween mid last) (first : ledger.Precedes mid) :
    object.MadeBetween ledger last := by
  cases object with
  | logger n => exact ⟨Nat.lt_of_le_of_lt first.loggers made.1, made.2⟩
  | constructed n => exact ⟨Nat.lt_of_le_of_lt first.objects made.1, made.2⟩

theorem MadeBetween.until (made : object.MadeBetween ledger mid) (later : mid.Precedes last) :
    object.MadeBetween ledger last := by
  cases object with
  | logger n => exact ⟨made.1, Nat.le_trans made.2 later.loggers⟩
  | constructed n => exact ⟨made.1, Nat.le_trans made.2 later.objects⟩

/-- What is made later is another object. -/
theorem MadeBetween.ne (first : object.MadeBetween ledger mid)
    (second : other.MadeBetween later last) (apart : mid.Precedes later) : object ≠ other := by
  rintro rfl
  -- Its number would be allotted by the ledger `mid` and not yet by the ledger `later`.
  cases object with
  | logger n =>
    have before : n ≤ later.loggers := Nat.le_trans first.2 apart.loggers
    exact absurd second.1 (Nat.not_lt.mpr before)
  | constructed n =>
    have before : n ≤ later.objects := Nat.le_trans first.2 apart.objects
    exact absurd second.1 (Nat.not_lt.mpr before)

end ObjectId

/-! ## Work that makes new objects -/

/-- Whatever the work comes to, no number is given back, and the objects in its result are new. -/
def Build.Allots {α : Type} (objects : α → List ObjectId) (work : Build α) : Prop :=
  ∀ ledger, ledger.Precedes (work.run ledger).2 ∧
    ∀ a, (work.run ledger).1 = .ok a → ∀ object ∈ objects a,
      object.MadeBetween ledger (work.run ledger).2

/-- Whatever the constructor is given, what it returns is a new object. -/
def Constructor.Allots (construct : Constructor) : Prop :=
  ∀ args, Build.Allots (fun subject => [subject.object]) (construct args)

namespace Build

variable {α β : Type} {objects : α → List ObjectId} {results : β → List ObjectId} {work : Build α}
  {next : α → Build β} {ledger after : Ledger} {a : α}

theorem Allots.precedes {result : Except Error α} (allots : work.Allots objects)
    (ran : work.run ledger = (result, after)) : ledger.Precedes after := by
  have kept := (allots ledger).1
  rwa [ran] at kept

theorem Allots.made (allots : work.Allots objects) (done : work.run ledger = (.ok a, after)) :
    ∀ object ∈ objects a, object.MadeBetween ledger after := by
  have new := (allots ledger).2
  rw [done] at new
  exact new a rfl

/-- Work whose result holds no objects and that leaves the numbers alone. -/
theorem Allots.of_eq (same : ∀ ledger, (work.run ledger).2.objects = ledger.objects ∧
    (work.run ledger).2.loggers = ledger.loggers) : work.Allots fun _ => [] := by
  intro ledger
  obtain ⟨numbers, loggers⟩ := same ledger
  refine ⟨⟨Nat.le_of_eq numbers.symm, Nat.le_of_eq loggers.symm⟩, ?_⟩
  intro a _ object none
  exact absurd none List.not_mem_nil

theorem allots_pure (a : α) : Allots (fun _ => []) (pure a) :=
  .of_eq fun _ => ⟨rfl, rfl⟩

theorem allots_ofExcept (result : Except Error α) : Allots (fun _ => []) (Build.ofExcept result) :=
  .of_eq fun _ => ⟨rfl, rfl⟩

theorem allots_emit (event : Event) : Allots (fun _ => []) (emit event : Build Unit) :=
  .of_eq fun _ => ⟨rfl, rfl⟩

theorem Allots.bind (first : work.Allots fun _ => []) (later : ∀ a, (next a).Allots results) :
    Allots results (work >>= next) := by
  intro ledger
  rcases ran : work.run ledger with ⟨error | a, mid⟩
  · rw [Steps.run_bind_of_error ran]
    exact ⟨first.precedes ran, nofun⟩
  · rw [Steps.run_bind_of_ok ran]
    obtain ⟨kept, made⟩ := later a mid
    refine ⟨(first.precedes ran).trans kept, fun b done object member => ?_⟩
    exact (made b done object member).since (first.precedes ran)

theorem Allots.map (allots : work.Allots fun _ => []) (f : α → β) :
    Allots (fun _ => []) (f <$> work) := by
  rw [map_eq_pure_bind]
  exact allots.bind fun a => allots_pure (f a)

theorem Allots.forIn {ι : Type} {items : List ι} {act : ι → Build α}
    (each : ∀ item, (act item).Allots fun _ => []) :
    Allots (fun _ => []) (forIn items PUnit.unit fun item _ => do
      let _ ← act item
      pure (.yield PUnit.unit) : Build PUnit) := by
  induction items with
  | nil => exact allots_pure _
  | cons item rest ih =>
    rw [List.forIn_cons, bind_assoc]
    exact (each item).bind fun _ => by rw [pure_bind]; exact ih

end Build

/-! ## Blueprints make new objects -/

theorem Making.allots_role (making : Making) (cls : Class) (args : Args) :
    Build.Allots (fun _ => []) (making.role cls args) := by
  have reported (message : String) : Build.Allots (fun _ => []) (do
      let base ← Build.ofExcept (args.base cls.name)
      emit (base.logger.event .debug message)
      return base : Build Base) :=
    (Build.allots_ofExcept _).bind fun base =>
      (Build.allots_emit _).bind fun _ => Build.allots_pure base
  cases making with
  | plain => exact Build.allots_pure _
  | failing error => exact Build.allots_ofExcept (.error error)
  | service => exact (reported "Service initialized").map Role.service
  | controller => exact (reported "Controller initialized").map Role.controller

theorem allots_newInstance (cls : Class) (role : Role) (args : Args) :
    Build.Allots (fun subject => [subject.object]) (newInstance cls role args : Build Instance) := by
  intro ledger
  refine ⟨⟨Nat.le_succ _, Nat.le_refl _⟩, ?_⟩
  rintro subject ⟨⟩ object member
  rw [List.mem_singleton.mp member]
  exact ⟨Nat.lt_succ_self _, Nat.le_refl _⟩

theorem Blueprint.allots_constructor (blueprint : Blueprint) :
    Constructor.Allots blueprint.constructor := by
  intro args
  refine (blueprint.making.allots_role blueprint.cls args).bind fun role => ?_
  refine (Build.Allots.forIn fun cls => Build.allots_ofExcept _).bind fun _ => ?_
  exact allots_newInstance blueprint.cls role args

end Trellis
