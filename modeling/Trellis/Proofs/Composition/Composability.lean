import Trellis.Proofs.Composition.ImportGraph
/-!
# Composability

Composing a module ends, and succeeds exactly when the import graph below the module is in order. A
cycle that is reported is there: its classes import each other in a ring that the module leads to.

* `walkWithin` is the walk by plain recursion, cut off at a depth; a depth beyond the number of
  known classes is never used up.
* `Descent` is what holds of the stack at every module the walk meets; a cycle is read off it.
-/

namespace Trellis

namespace Registry

variable {registry : Registry} {app : App} {stack : List Class} {root cls : Class}

/-! ## The walk ends -/

/-- The walk over a module as far as `depth` modules below each other; none if that does not do. -/
def walkWithin (registry : Registry) (app : App) : Nat → List Class → Class → Option Trail
  | 0, _, _ => none
  | depth + 1, stack, cls =>
    if cls ∈ stack then some (.stop (.cyclicImport (cyclePath stack cls)))
    else
      match registry.moduleMetadata? cls with
      | none => some (.stop (.missingDecorator cls.name "Module"))
      | some metadata => do
        let imports ← metadata.imports.mapM fun imported => do
          let trail ← walkWithin registry app depth (stack ++ [cls]) imported
          return trail.andThen (.single (.imported cls imported))
        return (Trail.sequence (metadata.providers.map (registry.visitProvider app))).andThen
          (Trail.sequence imports)

/-- A depth that exceeds the number of known classes off the stack is never used up. -/
theorem walkWithin_eq_some {depth : Nat} (enough : registry.offStack stack < depth) :
    registry.walkWithin app depth stack cls = some (registry.walkModule app stack cls) := by
  induction depth generalizing stack cls with
  | zero => exact absurd enough (Nat.not_lt_zero _)
  | succ depth ih =>
    rw [walkWithin]
    by_cases met : cls ∈ stack
    · rw [if_pos met, walkModule_of_mem met]
    rw [if_neg met]
    cases declared : registry.moduleMetadata? cls with
    | none => rw [walkModule_of_undeclared met declared]
    | some metadata =>
      have smaller := offStack_append_lt (mem_keys_of_moduleMetadata? declared) met
      have imports : (fun imported => do
            let trail ← registry.walkWithin app depth (stack ++ [cls]) imported
            return trail.andThen (.single (.imported cls imported))) =
          fun imported => (pure ((registry.walkModule app (stack ++ [cls]) imported).andThen
            (.single (.imported cls imported))) : Option Trail) := by
        funext imported
        rw [ih (by omega)]
        rfl
      rw [walkModule_of_declared met declared]
      simp only [imports, List.mapM_pure]
      rfl

theorem walkWithin_keys (registry : Registry) (app : App) (cls : Class) :
    registry.walkWithin app (registry.entries.length + 1) [] cls =
      some (registry.walkModule app [] cls) := by
  refine walkWithin_eq_some (Nat.lt_succ_of_le ?_)
  calc registry.offStack [] ≤ registry.entries.keys.length := List.length_filter_le _ _
    _ = registry.entries.length := List.length_map _

/-! ## A reported cycle is one -/

/-- What holds whenever the walk from a root meets a module: the modules on the stack are distinct
and each imports the next, the last one the module that is met, to which the root leads. -/
structure Descent (registry : Registry) (root : Class) (stack : List Class) (cls : Class) :
    Prop where
  distinct : stack.Nodup
  chain : List.IsChain registry.Imports (stack ++ [cls])
  reaches : registry.Reaches root cls

theorem Descent.start (registry : Registry) (root : Class) : registry.Descent root [] root :=
  ⟨List.nodup_nil, List.isChain_singleton root, .refl⟩

theorem Descent.step {imported : Class} (descent : registry.Descent root stack cls)
    (fresh : cls ∉ stack) (edge : registry.Imports cls imported) :
    registry.Descent root (stack ++ [cls]) imported where
  distinct := by
    rw [List.nodup_append]
    refine ⟨descent.distinct, by simp, fun other member last here same => ?_⟩
    rw [List.mem_singleton.mp here] at same
    exact fresh (same ▸ member)
  chain := by
    rw [List.append_assoc]
    exact List.isChain_append_cons_cons.mpr ⟨descent.chain, edge, List.isChain_singleton imported⟩
  reaches := descent.reaches.tail edge

/-- A module that is met below itself closes a ring. -/
theorem Descent.ring (descent : registry.Descent root stack cls) (met : cls ∈ stack) :
    ∃ inner, (cls :: inner).Nodup ∧ List.IsChain registry.Imports (cls :: inner ++ [cls]) ∧
      cyclePath stack cls = (cls :: inner ++ [cls]).map (·.name) := by
  obtain ⟨before, inner, rfl, first⟩ := List.eq_append_cons_of_mem met
  refine ⟨inner, (List.nodup_append.mp descent.distinct).2.1, ?_, ?_⟩
  · -- The ring is what is left of the chain from the module on.
    have chain := descent.chain
    rw [List.append_assoc] at chain
    exact chain.right_of_append
  · have skipped : ∀ other ∈ before, decide (other ≠ cls) = true := by
      intro other member
      simpa using ne_of_mem_of_not_mem member first
    rw [cyclePath, List.dropWhile_append_of_pos skipped, List.dropWhile_cons_of_neg (by simp)]

/-- The path of a cycle that the walk reports is a ring of imports to which the root leads. -/
theorem ring_of_walkModule (app : App) {path : List String}
    (descent : registry.Descent root stack cls)
    (reported : (registry.walkModule app stack cls).fault = some (.cyclicImport path)) :
    ∃ first inner, (first :: inner).Nodup ∧
      List.IsChain registry.Imports (first :: inner ++ [first]) ∧ registry.Reaches root first ∧
        path = (first :: inner ++ [first]).map (·.name) := by
  induction stack, cls using walk_induction registry with
  | step stack cls ih =>
    by_cases met : cls ∈ stack
    · rw [walkModule_of_mem met, Trail.fault_stop, Option.some.injEq,
        Error.cyclicImport.injEq] at reported
      obtain ⟨inner, distinct, chain, path⟩ := descent.ring met
      exact ⟨cls, inner, distinct, chain, descent.reaches, reported ▸ path⟩
    cases declared : registry.moduleMetadata? cls with
    | none => simp [walkModule_of_undeclared met declared] at reported
    | some metadata =>
      rw [walkModule_of_declared met declared, Trail.fault_andThen,
        Option.or_eq_some_iff] at reported
      -- The cycle was met below one of the imports: a provider is never at fault for one.
      rcases reported with provider | ⟨-, imports⟩
      · obtain ⟨trail, member, fault⟩ := Trail.exists_fault_of_sequence provider
        obtain ⟨provider, -, rfl⟩ := List.mem_map.mp member
        exact absurd fault (fault_visitProvider_ne_cyclicImport provider path)
      · obtain ⟨trail, member, fault⟩ := Trail.exists_fault_of_sequence imports
        obtain ⟨imported, importedHere, rfl⟩ := List.mem_map.mp member
        simp only [Trail.fault_andThen, Trail.fault_single, Option.or_none] at fault
        exact ih metadata met declared imported importedHere
          (descent.step met ⟨metadata, declared, importedHere⟩) fault

end Registry

/-! ## Composing -/

namespace Composition

/-- Composing a module by the walk that is cut off, which evaluates by plain recursion. -/
def composeWithin (registry : Registry) (cls : Class) (app : App) :
    Logged (Except Error Composition × Registry) := do
  match registry.declared? cls with
  | none => return (.error (.missingDecorator cls.name "Module"), registry)
  | some root =>
    let registry := registry.claimTag .logger
    let logger ← newLoggerInstance app.logger
    let trail := (registry.walkWithin app (registry.entries.length + 1) [] cls).getD {}
    emitAll trail.events
    let claimed := trail.claimTags registry
    match trail.fault with
    | some fault => return (.error fault, claimed)
    | none =>
      let composition := ofTrail registry root app logger trail
      emit composition.composedEvent
      return (.ok composition, claimed)

theorem compose_eq_composeWithin : compose = composeWithin := by
  funext registry cls app
  unfold compose composeWithin
  cases registry.declared? cls with
  | none => rfl
  | some root =>
    dsimp only
    rw [Registry.walkWithin_keys]
    rfl

/-- What the walk that is cut off shows of a composition holds of the composition. -/
theorem exists_compose_of_within {α : Type} {registry : Registry} {cls : Class} {app : App}
    {ledger : Ledger} {view : Composition → α} {shown : α}
    (within : (composeWithin registry cls app ledger).1.1.toOption.map view = some shown) :
    ∃ composition, (compose registry cls app ledger).1.1 = .ok composition ∧
      view composition = shown := by
  rw [compose_eq_composeWithin]
  cases result : (composeWithin registry cls app ledger).1.1 with
  | error fault =>
    rw [result] at within
    cases within
  | ok composition =>
    rw [result] at within
    exact ⟨composition, rfl, Option.some.inj within⟩

/-- Composing a module ends: plain recursion, nested no deeper than there are known classes and one
more, gives the walk it takes. It succeeds exactly when the module can be composed. The path of a
reported cycle names distinct classes, each importing the next and the last one the first, to which
the module leads. -/
theorem compose_decides_composable (registry : Registry) (root : Class) (app : App)
    (ledger : Ledger) :
    (registry.claimTag .logger).walkWithin app (registry.entries.length + 1) [] root =
        some ((registry.claimTag .logger).walkModule app [] root) ∧
      ((∃ composition, (compose registry root app ledger).1.1 = .ok composition) ↔
        registry.Composable root) ∧
      ∀ path, (compose registry root app ledger).1.1 = .error (.cyclicImport path) →
        ∃ first inner, (first :: inner).Nodup ∧
          List.IsChain registry.Imports (first :: inner ++ [first]) ∧
            registry.Reaches root first ∧ path = (first :: inner ++ [first]).map (·.name) := by
  refine ⟨by simpa using (registry.claimTag .logger).walkWithin_keys app root, ?_, ?_⟩
  · rw [← Registry.composable_claimTag_iff registry .logger root,
      ← Registry.fault_walkModule_nil_eq_none_iff app]
    cases declared : registry.moduleMetadata? root with
    | none =>
      rw [compose_of_undeclared declared,
        Registry.walkModule_of_undeclared List.not_mem_nil (by simpa using declared)]
      simp
    | some metadata =>
      cases fault : ((registry.claimTag .logger).walkModule app [] root).fault with
      | none => simp [compose_of_clean declared fault]
      | some error => simp [compose_of_fault declared fault]
  · intro path reported
    cases declared : registry.moduleMetadata? root with
    | none => simp [compose_of_undeclared declared] at reported
    | some metadata =>
      cases fault : ((registry.claimTag .logger).walkModule app [] root).fault with
      | none => simp [compose_of_clean declared fault] at reported
      | some error =>
        rw [compose_of_fault declared fault, Except.error.injEq] at reported
        have ring := Registry.ring_of_walkModule app (.start (registry.claimTag .logger) root)
          (reported ▸ fault)
        simpa using ring

end Composition

end Trellis
