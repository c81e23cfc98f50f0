import Trellis.Proofs.Composition.ImportGraph
/-!
# The imported modules of a composition

The order in which the walk is through with the modules it imports, said without the walk: a module
comes after all modules it imports itself. It is a matter of the declared imports alone; neither the
application nor any provider has a part in it.
-/

namespace Trellis

namespace Registry

/-- The modules that some modules lead to, those included, each after the modules it imports. -/
inductive Postorder (registry : Registry) : List Class → List Class → Prop
  | nil : Postorder registry [] []
  | cons {cls : Class} {rest : List Class} {metadata : ModuleMetadata} {below later : List Class}
      (declared : registry.moduleMetadata? cls = some metadata)
      (imports : Postorder registry metadata.imports below)
      (siblings : Postorder registry rest later) :
      Postorder registry (cls :: rest) (below ++ [cls] ++ later)

variable {registry : Registry} {app : App} {stack roots : List Class} {root cls : Class}
  {passed other : List Class}

theorem Postorder.unique (postorder : registry.Postorder roots passed)
    (again : registry.Postorder roots other) : passed = other := by
  induction postorder generalizing other with
  | nil => cases again; rfl
  | cons declared _ _ imports siblings =>
    cases again with
    | cons known below later =>
      obtain rfl := Option.some.inj (declared.symm.trans known)
      rw [imports below, siblings later]

/-- Only modules that the first ones lead to are passed. -/
theorem Postorder.reaches (postorder : registry.Postorder roots passed) (member : cls ∈ passed) :
    ∃ root ∈ roots, registry.Reaches root cls := by
  induction postorder with
  | nil => cases member
  | @cons own rest metadata below later declared _ _ imports siblings =>
    rcases List.mem_append.mp member with first | last
    · rcases List.mem_append.mp first with deeper | here
      · obtain ⟨imported, listed, reaches⟩ := imports deeper
        exact ⟨own, List.mem_cons_self, .head ⟨metadata, declared, listed⟩ reaches⟩
      · rw [List.mem_singleton.mp here]
        exact ⟨own, List.mem_cons_self, .refl⟩
    · obtain ⟨root, listed, reaches⟩ := siblings last
      exact ⟨root, List.mem_cons_of_mem _ listed, reaches⟩

theorem postorder_claimTag (postorder : (registry.claimTag cls).Postorder roots passed) :
    registry.Postorder roots passed := by
  induction postorder with
  | nil => exact .nil
  | cons declared _ _ imports siblings => exact .cons (by simpa using declared) imports siblings

/-! ## The walk passes the imported modules in this order -/

/-- A provider is no imported module. -/
theorem importedModules_visitProvider (provider : Handle) :
    (registry.visitProvider app provider).visits.filterMap Visit.importedModule? = [] := by
  unfold visitProvider
  cases registry.serviceMetadata? provider.cls with
  | none => cases registry.serviceConstructor? provider <;> rfl
  | some metadata =>
    dsimp only
    cases metadata.provision provider app <;> rfl

/-- Modules passed for imports one by one are passed for all of them in order. -/
theorem postorder_flatMap {below : Class → List Class} {imports : List Class}
    (each : ∀ imported ∈ imports, ∃ metadata, registry.moduleMetadata? imported = some metadata ∧
      registry.Postorder metadata.imports (below imported)) :
    registry.Postorder imports (imports.flatMap fun imported => below imported ++ [imported]) := by
  induction imports with
  | nil => exact .nil
  | cons imported rest ih =>
    obtain ⟨metadata, declared, own⟩ := each imported List.mem_cons_self
    exact .cons declared own (ih fun other member => each other (List.mem_cons_of_mem _ member))

/-- A walk without a fault passes the modules that the imports lead to in post-order. -/
theorem postorder_of_clean (registry : Registry) (app : App) (stack : List Class) (cls : Class)
    (clean : (registry.walkModule app stack cls).fault = none) :
    ∃ metadata, registry.moduleMetadata? cls = some metadata ∧
      registry.Postorder metadata.imports
        ((registry.walkModule app stack cls).visits.filterMap Visit.importedModule?) := by
  induction stack, cls, clean using clean_walk_induction registry app with
  | step stack cls metadata fresh declared clean imports =>
    have own : (metadata.providers.flatMap fun provider =>
        (registry.visitProvider app provider).visits.filterMap Visit.importedModule?) = [] :=
      List.flatMap_eq_nil_iff.mpr fun provider _ => importedModules_visitProvider provider
    refine ⟨metadata, declared, ?_⟩
    rw [filterMap_visits_of_clean _ fresh declared clean, own, List.nil_append]
    exact postorder_flatMap fun imported member => (imports imported member).2

@[simp]
theorem declared?_claimTag (registry : Registry) (cls : Class) :
    (registry.claimTag cls).declared? = registry.declared? := by
  funext module
  simp [declared?]

end Registry

namespace Composition

variable {registry : Registry} {root : Class} {app : App} {ledger : Ledger}
  {composition : Composition}

/-- The modules of a composition are the root and what its imports lead to, each where it is passed
first. -/
theorem exists_imported_of_compose
    (composed : (compose registry root app ledger).1.1 = .ok composition) :
    ∃ metadata passed, registry.moduleMetadata? root = some metadata ∧
      registry.Postorder metadata.imports passed ∧ composition.root = { cls := root, metadata } ∧
        composition.imported = passed.eraseDups.filterMap registry.declared? := by
  obtain ⟨metadata, declared, clean, rfl⟩ := eq_ofTrail_of_compose composed
  obtain ⟨known, found, postorder⟩ :=
    (registry.claimTag .logger).postorder_of_clean app [] root clean
  obtain rfl : metadata = known := by simpa [declared] using found
  refine ⟨metadata, _, declared, Registry.postorder_claimTag postorder, rfl, ?_⟩
  rw [ofTrail, Trail.imports, Registry.declared?_claimTag]

theorem root_of_compose (composed : (compose registry root app ledger).1.1 = .ok composition) :
    composition.root.cls = root := by
  obtain ⟨metadata, -, -, rfl⟩ := eq_ofTrail_of_compose composed
  rfl

/-- Every module of a composition stands as it is declared. -/
theorem moduleMetadata?_of_compose
    (composed : (compose registry root app ledger).1.1 = .ok composition) :
    ∀ declared ∈ composition.modules,
      registry.moduleMetadata? declared.cls = some declared.metadata := by
  obtain ⟨metadata, passed, known, -, ownRoot, imports⟩ := exists_imported_of_compose composed
  intro declared member
  rcases List.mem_cons.mp member with rfl | imported
  · rw [ownRoot]
    exact known
  · rw [imports] at imported
    obtain ⟨cls, -, found⟩ := List.mem_filterMap.mp imported
    obtain ⟨metadata, kept, rfl⟩ := Option.map_eq_some_iff.mp found
    exact kept

/-- The root leads to every module of a composition. -/
theorem reaches_of_compose
    (composed : (compose registry root app ledger).1.1 = .ok composition) :
    ∀ declared ∈ composition.modules, registry.Reaches root declared.cls := by
  obtain ⟨metadata, passed, known, postorder, ownRoot, imports⟩ := exists_imported_of_compose composed
  intro declared member
  rcases List.mem_cons.mp member with rfl | imported
  · rw [ownRoot]
    exact .refl
  · rw [imports] at imported
    obtain ⟨cls, once, found⟩ := List.mem_filterMap.mp imported
    obtain ⟨own, -, rfl⟩ := Option.map_eq_some_iff.mp found
    obtain ⟨first, listed, reaches⟩ := postorder.reaches (List.mem_eraseDups.mp once)
    exact .head ⟨metadata, known, listed⟩ reaches

/-- What was composed can be composed. -/
theorem composable_of_compose
    (composed : (compose registry root app ledger).1.1 = .ok composition) :
    registry.Composable root := by
  obtain ⟨metadata, -, clean, -⟩ := eq_ofTrail_of_compose composed
  rw [← Registry.composable_claimTag_iff registry .logger root]
  exact (Registry.fault_walkModule_nil_eq_none_iff app).mp clean

end Composition

end Trellis
