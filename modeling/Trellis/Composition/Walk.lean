import Trellis.Layer.Service
/-!
# The walk over a module's imports

Composing a module visits its providers in order and then, one after the other, the modules it
imports, each with its own providers and imports. A module imported along several paths is visited
along each of them. The walk stops at the first fault: a class that is no module, a service without a
constructor, or a module that is met again below itself.

Every module on the stack is a class the registry knows, and no class is on it twice, so the number
of known classes off the stack bounds the walk.
-/

namespace Trellis

/-- What the walk meets. -/
inductive Visit where
  /-- A provider decorated as a service. -/
  | service (provision : Provision)
  /-- A provider that is no service but can be constructed. -/
  | plain (cls : Class) (provision : Provision)
  /-- A provider that cannot be constructed. -/
  | unusable (cls : Class)
  /-- The end of an imported module, all of which was visited before. -/
  | imported (importer cls : Class)

/-- What a walk met, and the fault it stopped at. -/
structure Trail where
  visits : List Visit := []
  fault : Option Error := none

namespace Trail

def single (visit : Visit) : Trail := { visits := [visit] }

def stop (fault : Error) : Trail := { fault := some fault }

/-- The first trail and, unless it stopped, the second. -/
def andThen (first second : Trail) : Trail :=
  match first.fault with
  | some _ => first
  | none => { visits := first.visits ++ second.visits, fault := second.fault }

/-- Trails one after the other. -/
def sequence (trails : List Trail) : Trail :=
  trails.foldr andThen {}

@[simp]
theorem fault_single (visit : Visit) : (single visit).fault = none := rfl

@[simp]
theorem fault_stop (fault : Error) : (stop fault).fault = some fault := rfl

@[simp]
theorem fault_andThen (first second : Trail) :
    (first.andThen second).fault = first.fault.or second.fault := by
  unfold andThen
  cases fault : first.fault <;> simp [fault]

theorem visits_andThen {first : Trail} (second : Trail) (clean : first.fault = none) :
    (first.andThen second).visits = first.visits ++ second.visits := by
  simp [andThen, clean]

theorem andThen_assoc (first second third : Trail) :
    (first.andThen second).andThen third = first.andThen (second.andThen third) := by
  unfold andThen
  cases firstFault : first.fault with
  | some fault => simp [firstFault]
  | none => cases secondFault : second.fault <;> simp [secondFault]

theorem fault_sequence_eq_none_iff (trails : List Trail) :
    (sequence trails).fault = none ↔ ∀ trail ∈ trails, trail.fault = none := by
  induction trails with
  | nil => simp [sequence]
  | cons trail rest ih =>
    rw [sequence] at ih
    simp [sequence, ih]

/-- A sequence stops at a fault of one of its trails. -/
theorem exists_fault_of_sequence {trails : List Trail} {fault : Error}
    (stopped : (sequence trails).fault = some fault) :
    ∃ trail ∈ trails, trail.fault = some fault := by
  induction trails with
  | nil => simp [sequence] at stopped
  | cons trail rest ih =>
    change (trail.andThen (sequence rest)).fault = some fault at stopped
    rw [fault_andThen, Option.or_eq_some_iff] at stopped
    rcases stopped with here | ⟨-, later⟩
    · exact ⟨trail, List.mem_cons_self, here⟩
    · obtain ⟨other, member, faulty⟩ := ih later
      exact ⟨other, List.mem_cons_of_mem _ member, faulty⟩

theorem visits_sequence {trails : List Trail} (clean : ∀ trail ∈ trails, trail.fault = none) :
    (sequence trails).visits = trails.flatMap (·.visits) := by
  induction trails with
  | nil => rfl
  | cons trail rest ih =>
    change (trail.andThen (sequence rest)).visits = _
    rw [visits_andThen _ (clean trail List.mem_cons_self),
      ih fun other member => clean other (List.mem_cons_of_mem _ member), List.flatMap_cons]

/-! What is picked from the visits of both is picked from those of each. -/

theorem filterMap_visits_single {α : Type} (pick : Visit → Option α) (visit : Visit) :
    (single visit).visits.filterMap pick = (pick visit).toList := by
  cases picked : pick visit <;> simp [single, picked]

theorem filterMap_visits_andThen {α : Type} (pick : Visit → Option α) {first : Trail}
    (second : Trail) (clean : first.fault = none) :
    (first.andThen second).visits.filterMap pick =
      first.visits.filterMap pick ++ second.visits.filterMap pick := by
  rw [visits_andThen second clean, List.filterMap_append]

theorem filterMap_visits_sequence {α : Type} (pick : Visit → Option α) {trails : List Trail}
    (clean : ∀ trail ∈ trails, trail.fault = none) :
    (sequence trails).visits.filterMap pick =
      trails.flatMap fun trail => trail.visits.filterMap pick := by
  rw [visits_sequence clean, List.filterMap_flatMap]

end Trail

namespace Registry

/-- The provision of a provider that is no service: it is constructed without arguments. -/
def plainProvision (registry : Registry) (cls : Class) (construct : Constructor) : Provision where
  tag := registry.tagOf cls
  label := cls.name
  build _ := construct {}

/-- The visit of a provider. -/
def visitProvider (registry : Registry) (app : App) (provider : Handle) : Trail :=
  match registry.serviceMetadata? provider.cls with
  | some metadata =>
    match metadata.provision provider app with
    | .ok provision => .single (.service provision)
    | .error fault => .stop fault
  | none =>
    match registry.serviceConstructor? provider with
    | some construct =>
      .single (.plain provider.cls (registry.plainProvision provider.cls construct))
    | none => .single (.unusable provider.cls)

/-- The modules from the one that is met again down to itself. -/
def cyclePath (stack : List Class) (cls : Class) : List String :=
  (stack.dropWhile (· ≠ cls) ++ [cls]).map (·.name)

/-- The number of known classes that are not on the stack. -/
def offStack (registry : Registry) (stack : List Class) : Nat :=
  (registry.entries.keys.filter (· ∉ stack)).length

theorem mem_keys_of_moduleMetadata? {registry : Registry} {cls : Class} {metadata : ModuleMetadata}
    (found : registry.moduleMetadata? cls = some metadata) : cls ∈ registry.entries.keys := by
  unfold moduleMetadata? read at found
  cases entry : registry.entries.get? cls with
  | none => simp [entry] at found
  | some known => exact Table.mem_keys_of_get?_eq_some entry

theorem offStack_append_lt {registry : Registry} {stack : List Class} {cls : Class}
    (known : cls ∈ registry.entries.keys) (fresh : cls ∉ stack) :
    registry.offStack (stack ++ [cls]) < registry.offStack stack := by
  unfold offStack
  have split : registry.entries.keys.filter (· ∉ stack ++ [cls]) =
      (registry.entries.keys.filter (· ∉ stack)).filter (· ≠ cls) := by
    rw [List.filter_filter]
    congr 1
    funext other
    simp [Bool.and_comm]
  rw [split]
  refine List.length_filter_lt_length_iff_exists.2 ⟨cls, ?_, by simp⟩
  simp [known, fresh]

mutual

/-- The walk over a module that is met below the modules on the stack, the outermost first. -/
def walkModule (registry : Registry) (app : App) (stack : List Class) (cls : Class) : Trail :=
  if fresh : cls ∉ stack then
    match found : registry.moduleMetadata? cls with
    | none => .stop (.missingDecorator cls.name "Module")
    | some metadata =>
      have := offStack_append_lt (mem_keys_of_moduleMetadata? found) fresh
      (Trail.sequence (metadata.providers.map (registry.visitProvider app))).andThen
        (walkImports registry app (stack ++ [cls]) cls metadata.imports)
  else .stop (.cyclicImport (cyclePath stack cls))
termination_by (registry.offStack stack, 0)

/-- The walk over the modules that the last module on the stack imports. -/
def walkImports (registry : Registry) (app : App) (stack : List Class) (importer : Class) :
    List Class → Trail
  | [] => {}
  | cls :: rest =>
    (walkModule registry app stack cls).andThen <|
      (Trail.single (.imported importer cls)).andThen <|
        walkImports registry app stack importer rest
termination_by imports => (registry.offStack stack, imports.length + 1)

end

variable {registry : Registry} {app : App} {stack : List Class} {cls : Class}

theorem walkImports_eq_sequence (importer : Class) (imports : List Class) :
    registry.walkImports app stack importer imports =
      Trail.sequence (imports.map fun cls =>
        (registry.walkModule app stack cls).andThen (.single (.imported importer cls))) := by
  induction imports with
  | nil => rw [walkImports]; rfl
  | cons cls rest ih =>
    rw [walkImports, ih, ← Trail.andThen_assoc]
    rfl

theorem walkModule_of_mem (met : cls ∈ stack) :
    registry.walkModule app stack cls = .stop (.cyclicImport (cyclePath stack cls)) := by
  rw [walkModule, dif_neg (not_not_intro met)]

theorem walkModule_of_undeclared (fresh : cls ∉ stack) (unknown : registry.moduleMetadata? cls = none) :
    registry.walkModule app stack cls = .stop (.missingDecorator cls.name "Module") := by
  rw [walkModule, dif_pos fresh]
  split
  · rfl
  · simp_all

theorem walkModule_of_declared {metadata : ModuleMetadata} (fresh : cls ∉ stack)
    (declared : registry.moduleMetadata? cls = some metadata) :
    registry.walkModule app stack cls =
      (Trail.sequence (metadata.providers.map (registry.visitProvider app))).andThen
        (Trail.sequence (metadata.imports.map fun imported =>
          (registry.walkModule app (stack ++ [cls]) imported).andThen
            (.single (.imported cls imported)))) := by
  rw [walkModule, dif_pos fresh, ← walkImports_eq_sequence]
  split
  · simp_all
  · simp_all

end Registry

/-! ## What the visits amount to -/

namespace Visit

def provision? : Visit → Option Provision
  | service provision | plain _ provision => some provision
  | unusable _ | imported .. => none

/-- The class whose tag is handed out by the visit. -/
def claimed? : Visit → Option Class
  | plain cls _ => some cls
  | service _ | unusable _ | imported .. => none

/-- The module whose end the visit marks. -/
def importedModule? : Visit → Option Class
  | imported _ cls => some cls
  | service _ | plain .. | unusable _ => none

/-- The report of a visit, when the modules `seen` are merged already. -/
def events (seen : List Class) : Visit → List Event
  | service provision => [provision.createdEvent]
  | plain cls _ =>
    [{ level := .warn
       message := "Provider has no @Service metadata; constructing it without arguments"
       fields := [("provider", .text cls.name)] }]
  | unusable cls =>
    [{ level := .warn
       message := "Provider has no @Service metadata and no constructor; skipping"
       fields := [("provider", .text cls.name)] }]
  | imported importer cls =>
    if cls ∈ seen then []
    else
      [{ level := .debug
         message := "Merged imported module layer"
         fields := [("module", .text importer.name), ("import", .text cls.name)] }]

end Visit

namespace Trail

/-- The provisions met, in order. -/
def layer (trail : Trail) : Layer :=
  trail.visits.filterMap Visit.provision?

/-- The modules imported, in the order in which the walk was through with them for the first time. -/
def imports (trail : Trail) : List Class :=
  (trail.visits.filterMap Visit.importedModule?).eraseDups

/-- The registry after the walk handed out the tags of plain providers. -/
def claimTags (trail : Trail) (registry : Registry) : Registry :=
  (trail.visits.filterMap Visit.claimed?).foldl Registry.claimTag registry

/-- The reports of some visits, when the modules `seen` are merged already. -/
def visitEvents (seen : List Class) : List Visit → List Event
  | [] => []
  | visit :: rest => visit.events seen ++ visitEvents (visit.importedModule?.toList ++ seen) rest

def events (trail : Trail) : List Event :=
  visitEvents [] trail.visits

end Trail

end Trellis
