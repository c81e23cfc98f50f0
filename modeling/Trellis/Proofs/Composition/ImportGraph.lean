import Mathlib.Logic.Relation
import Mathlib.Data.List.Basic
import Mathlib.Data.List.Chain
import Trellis.Composition.Compose
import Trellis.Proofs.Metadata.Tags
/-!
# The import graph

When a module can be composed, said of the graph of imports alone: every module that can be reached
is declared, every service among the providers has a constructor, and no module imports itself,
however indirectly. The walk over the imports meets a fault exactly when one of these fails.
-/

namespace Trellis

namespace Registry

/-- One module imports another. -/
def Imports (registry : Registry) (importer cls : Class) : Prop :=
  ∃ metadata, registry.moduleMetadata? importer = some metadata ∧ cls ∈ metadata.imports

/-- One module imports another over any number of imports. -/
def Reaches (registry : Registry) : Class → Class → Prop :=
  Relation.ReflTransGen registry.Imports

/-- A provider that is a service has a constructor. -/
def CanProvide (registry : Registry) (provider : Handle) : Prop :=
  ∀ metadata, registry.serviceMetadata? provider.cls = some metadata →
    metadata.implementation.serviceConstructor.isSome ∨ provider.serviceConstructor.isSome

/-- Everything that composing a module meets is in order. -/
structure Composable (registry : Registry) (root : Class) : Prop where
  declared : ∀ cls, registry.Reaches root cls → (registry.moduleMetadata? cls).isSome
  provided : ∀ cls metadata, registry.Reaches root cls →
    registry.moduleMetadata? cls = some metadata →
      ∀ provider ∈ metadata.providers, registry.CanProvide provider
  acyclic : ∀ cls, registry.Reaches root cls → ¬ Relation.TransGen registry.Imports cls cls

variable {registry : Registry} {app : App} {stack : List Class} {root cls : Class}

/-! ## Handing out tags does not touch the graph -/

@[simp]
theorem imports_claimTag (registry : Registry) (cls : Class) :
    (registry.claimTag cls).Imports = registry.Imports := by
  funext importer imported
  simp [Imports]

@[simp]
theorem reaches_claimTag (registry : Registry) (cls : Class) :
    (registry.claimTag cls).Reaches = registry.Reaches := by
  simp [Reaches]

@[simp]
theorem canProvide_claimTag (registry : Registry) (cls : Class) :
    (registry.claimTag cls).CanProvide = registry.CanProvide := by
  funext provider
  simp [CanProvide]

theorem composable_claimTag_iff (registry : Registry) (cls root : Class) :
    (registry.claimTag cls).Composable root ↔ registry.Composable root :=
  ⟨fun ⟨declared, provided, acyclic⟩ =>
      ⟨by simpa using declared, by simpa using provided, by simpa using acyclic⟩,
    fun ⟨declared, provided, acyclic⟩ =>
      ⟨by simpa using declared, by simpa using provided, by simpa using acyclic⟩⟩

/-! ## When the walk meets no fault -/

/-- What holds of a module if it holds of its imports, met one deeper, holds of all modules met
below any stack: the stack cannot grow for ever. -/
theorem walk_induction (registry : Registry) {motive : List Class → Class → Prop}
    (step : ∀ stack cls,
      (∀ metadata, cls ∉ stack → registry.moduleMetadata? cls = some metadata →
        ∀ imported ∈ metadata.imports, motive (stack ++ [cls]) imported) → motive stack cls)
    (stack : List Class) (cls : Class) : motive stack cls := by
  induction size : registry.offStack stack using Nat.strongRecOn generalizing stack cls with
  | _ size ih =>
    refine step stack cls fun metadata fresh declared imported _ => ?_
    have smaller := offStack_append_lt (mem_keys_of_moduleMetadata? declared) fresh
    exact ih _ (size ▸ smaller) _ imported rfl

theorem fault_visitProvider_eq_none_iff {provider : Handle} :
    (registry.visitProvider app provider).fault = none ↔ registry.CanProvide provider := by
  unfold visitProvider CanProvide
  cases registry.serviceMetadata? provider.cls with
  | none => cases registry.serviceConstructor? provider <;> simp
  | some metadata =>
    simp only [Option.some.injEq, forall_eq']
    cases own : metadata.implementation.serviceConstructor <;>
      cases listed : provider.serviceConstructor <;>
      simp [ServiceMetadata.provision, own, listed]

/-- A provider is never at fault for a cycle. -/
theorem fault_visitProvider_ne_cyclicImport (provider : Handle) (path : List String) :
    (registry.visitProvider app provider).fault ≠ some (.cyclicImport path) := by
  unfold visitProvider
  cases registry.serviceMetadata? provider.cls with
  | none => cases registry.serviceConstructor? provider <;> simp
  | some metadata =>
    cases known : metadata.implementation.serviceConstructor.or provider.serviceConstructor <;>
      simp [ServiceMetadata.provision, known]

/-- The walk over a declared module meets no fault if its providers and its imports have none. -/
theorem fault_walkModule_eq_none_iff_of_declared {metadata : ModuleMetadata} (fresh : cls ∉ stack)
    (declared : registry.moduleMetadata? cls = some metadata) :
    (registry.walkModule app stack cls).fault = none ↔
      (∀ provider ∈ metadata.providers, registry.CanProvide provider) ∧
        ∀ imported ∈ metadata.imports,
          (registry.walkModule app (stack ++ [cls]) imported).fault = none := by
  rw [walkModule_of_declared fresh declared]
  simp [Trail.fault_sequence_eq_none_iff, fault_visitProvider_eq_none_iff]

/-- What holds of a module that is walked without a fault if it holds of its imports, holds of every
module that is walked without a fault: all those below it are. -/
theorem clean_walk_induction (registry : Registry) (app : App)
    {motive : (stack : List Class) → (cls : Class) →
      (registry.walkModule app stack cls).fault = none → Prop}
    (step : ∀ stack cls metadata, cls ∉ stack → registry.moduleMetadata? cls = some metadata →
      ∀ clean : (registry.walkModule app stack cls).fault = none,
        (∀ imported ∈ metadata.imports, ∃ below, motive (stack ++ [cls]) imported below) →
          motive stack cls clean)
    (stack : List Class) (cls : Class)
    (clean : (registry.walkModule app stack cls).fault = none) : motive stack cls clean := by
  induction stack, cls using walk_induction registry with
  | step stack cls ih =>
    by_cases met : cls ∈ stack
    · simp [walkModule_of_mem met] at clean
    cases declared : registry.moduleMetadata? cls with
    | none => simp [walkModule_of_undeclared met declared] at clean
    | some metadata =>
      have imports := ((fault_walkModule_eq_none_iff_of_declared met declared).mp clean).2
      exact step stack cls metadata met declared clean fun imported member =>
        ⟨imports imported member,
          ih metadata met declared imported member (imports imported member)⟩

/-- What is picked from a walk without a fault is picked from the visits of the providers and then,
for each import, from the walk over it and from its end. -/
theorem filterMap_visits_of_clean {α : Type} (pick : Visit → Option α) {metadata : ModuleMetadata}
    (fresh : cls ∉ stack) (declared : registry.moduleMetadata? cls = some metadata)
    (clean : (registry.walkModule app stack cls).fault = none) :
    (registry.walkModule app stack cls).visits.filterMap pick =
      (metadata.providers.flatMap fun provider =>
        (registry.visitProvider app provider).visits.filterMap pick) ++
      metadata.imports.flatMap fun imported =>
        (registry.walkModule app (stack ++ [cls]) imported).visits.filterMap pick ++
          (pick (.imported cls imported)).toList := by
  obtain ⟨provided, imports⟩ := (fault_walkModule_eq_none_iff_of_declared fresh declared).mp clean
  have own : ∀ provider ∈ metadata.providers, (registry.visitProvider app provider).fault = none :=
    fun provider member => fault_visitProvider_eq_none_iff.mpr (provided provider member)
  have first : (Trail.sequence (metadata.providers.map (registry.visitProvider app))).fault =
      none := by
    simpa [Trail.fault_sequence_eq_none_iff] using own
  rw [walkModule_of_declared fresh declared, Trail.filterMap_visits_andThen _ _ first,
    Trail.filterMap_visits_sequence _ (by simpa using own),
    Trail.filterMap_visits_sequence _ (by simpa using imports), List.flatMap_map, List.flatMap_map]
  congr 1
  refine List.flatMap_congr fun imported member => ?_
  rw [Trail.filterMap_visits_andThen _ _ (imports imported member), Trail.filterMap_visits_single]

/-- A module all of whose imports can be composed, none of them leading back to it. -/
theorem composable_of_imports {metadata : ModuleMetadata}
    (declared : registry.moduleMetadata? cls = some metadata)
    (provided : ∀ provider ∈ metadata.providers, registry.CanProvide provider)
    (imports : ∀ imported ∈ metadata.imports,
      registry.Composable imported ∧ ¬ registry.Reaches imported cls) :
    registry.Composable cls := by
  -- What is reached is the module itself or reached from one of its imports.
  have reached : ∀ other, registry.Reaches cls other →
      other = cls ∨ ∃ imported ∈ metadata.imports, registry.Reaches imported other := by
    intro other reaches
    rcases reaches.cases_head with same | ⟨imported, ⟨known, found, member⟩, rest⟩
    · exact .inl same.symm
    · obtain rfl : known = metadata := by simpa [found] using declared
      exact .inr ⟨imported, member, rest⟩
  refine ⟨fun other reaches => ?_, fun other known reaches found => ?_,
    fun other reaches cycle => ?_⟩
  · rcases reached other reaches with rfl | ⟨imported, member, rest⟩
    · simp [declared]
    · exact (imports imported member).1.declared other rest
  · rcases reached other reaches with rfl | ⟨imported, member, rest⟩
    · obtain rfl : known = metadata := by simpa [found] using declared
      exact provided
    · exact (imports imported member).1.provided other known rest found
  · rcases reached other reaches with rfl | ⟨imported, member, rest⟩
    · obtain ⟨imported, ⟨known, found, member⟩, back⟩ := Relation.TransGen.head'_iff.mp cycle
      obtain rfl : known = metadata := by simpa [found] using declared
      exact (imports imported member).2 back
    · exact (imports imported member).1.acyclic other rest cycle

/-- The walk meets no fault below a stack exactly when the module can be composed and no module on
the stack is reached from it. -/
theorem fault_walkModule_eq_none_iff (app : App) (stack : List Class) (cls : Class) :
    (registry.walkModule app stack cls).fault = none ↔
      registry.Composable cls ∧ ∀ other, registry.Reaches cls other → other ∉ stack := by
  induction stack, cls using walk_induction registry with
  | step stack cls ih =>
    by_cases fresh : cls ∈ stack
    · rw [walkModule_of_mem fresh]
      simp only [Trail.fault_stop, reduceCtorEq, false_iff, not_and]
      exact fun _ apart => apart cls .refl fresh
    cases declared : registry.moduleMetadata? cls with
    | none =>
      rw [walkModule_of_undeclared fresh declared]
      simp only [Trail.fault_stop, reduceCtorEq, false_iff, not_and]
      intro composable
      simpa [declared] using composable.declared cls .refl
    | some metadata =>
      rw [fault_walkModule_eq_none_iff_of_declared fresh declared]
      constructor
      · rintro ⟨provided, imports⟩
        have below := fun imported member =>
          (ih metadata fresh declared imported member).mp (imports imported member)
        refine ⟨composable_of_imports declared provided fun imported member =>
          ⟨(below imported member).1, fun back => (below imported member).2 cls back (by simp)⟩, ?_⟩
        intro other reaches
        rcases reaches.cases_head with rfl | ⟨imported, ⟨known, found, member⟩, rest⟩
        · exact fresh
        · obtain rfl : known = metadata := by simpa [found] using declared
          exact fun onStack => (below imported member).2 other rest (by simp [onStack])
      · rintro ⟨composable, apart⟩
        refine ⟨composable.provided cls metadata .refl declared, fun imported member => ?_⟩
        have edge : registry.Imports cls imported := ⟨metadata, declared, member⟩
        refine (ih metadata fresh declared imported member).mpr ⟨?_, fun other reaches => ?_⟩
        · exact ⟨fun other reaches => composable.declared other (.head edge reaches),
            fun other known reaches => composable.provided other known (.head edge reaches),
            fun other reaches => composable.acyclic other (.head edge reaches)⟩
        · simp only [List.mem_append, List.mem_singleton, not_or]
          refine ⟨apart other (.head edge reaches), ?_⟩
          rintro rfl
          exact composable.acyclic other .refl (.head' edge reaches)

theorem fault_walkModule_nil_eq_none_iff (app : App) :
    (registry.walkModule app [] root).fault = none ↔ registry.Composable root := by
  simp [fault_walkModule_eq_none_iff]

end Registry

end Trellis
