import Trellis.Proofs.Composition.Imported
import Trellis.Proofs.Composition.Providers
import Trellis.Proofs.Composition.SetUp
/-!
# The order of the imported modules

The walk goes over a module again along every path that leads to it, and only its list of imports is
freed of repetitions. What is left is the list of a depth-first walk that goes over each module once:
`Finishes`. In that list each module stands after all it imports, and a set-up, which goes through
the list, wires the controllers of each module once.
-/

namespace Trellis

/-- A list of modules with one more at its end, unless it is in the list. -/
def Class.joining (done : List Class) (cls : Class) : List Class :=
  if cls ∈ done then done else done ++ [cls]

namespace Class

variable {done passed : List Class} {cls : Class}

theorem joining_of_mem (member : cls ∈ done) : joining done cls = done :=
  if_pos member

theorem joining_of_not_mem (new : cls ∉ done) : joining done cls = done ++ [cls] :=
  if_neg new

theorem mem_joining_iff {other : Class} : other ∈ joining done cls ↔ other ∈ done ∨ other = cls := by
  by_cases member : cls ∈ done
  · rw [joining_of_mem member]
    constructor
    · exact .inl
    · rintro (earlier | rfl)
      · exact earlier
      · exact member
  · rw [joining_of_not_mem member]
    simp

theorem mem_foldl_joining_iff :
    cls ∈ passed.foldl joining done ↔ cls ∈ done ∨ cls ∈ passed := by
  induction passed generalizing done with
  | nil => simp
  | cons first rest ih =>
    rw [List.foldl_cons, ih, mem_joining_iff, List.mem_cons, or_assoc]

theorem nodup_foldl_joining (once : done.Nodup) : (passed.foldl joining done).Nodup := by
  induction passed generalizing done with
  | nil => exact once
  | cons first rest ih =>
    apply ih
    by_cases member : first ∈ done
    · rw [joining_of_mem member]
      exact once
    · rw [joining_of_not_mem member, List.nodup_append]
      refine ⟨once, List.pairwise_singleton _ first, ?_⟩
      intro earlier known other here same
      obtain rfl := List.mem_singleton.mp here
      exact member (same ▸ known)

theorem foldl_joining_of_subset (known : ∀ cls ∈ passed, cls ∈ done) :
    passed.foldl joining done = done := by
  induction passed with
  | nil => rfl
  | cons first rest ih =>
    rw [List.foldl_cons, joining_of_mem (known first List.mem_cons_self)]
    exact ih fun cls member => known cls (List.mem_cons_of_mem _ member)

/-- What joins a list is what is not in it, freed of repetitions. -/
theorem foldl_joining_eq_append (done passed : List Class) :
    passed.foldl joining done = done ++ (passed.filter (· ∉ done)).eraseDups := by
  induction passed generalizing done with
  | nil => simp
  | cons first rest ih =>
    rw [List.foldl_cons, ih]
    by_cases member : first ∈ done
    · rw [joining_of_mem member, List.filter_cons_of_neg (by simpa using member)]
    · have others : rest.filter (· ∉ done ++ [first]) =
          (rest.filter (· ∉ done)).filter fun cls => !cls == first := by
        rw [List.filter_filter]
        refine List.filter_congr fun cls _ => ?_
        simp [Bool.and_comm, Bool.beq_eq_decide_eq]
      rw [joining_of_not_mem member, List.filter_cons_of_pos (by simpa using member),
        List.eraseDups_cons, others, List.append_assoc, List.singleton_append]

theorem eraseDups_eq_foldl_joining (passed : List Class) :
    passed.eraseDups = passed.foldl joining [] := by
  rw [foldl_joining_eq_append, List.nil_append, List.filter_eq_self.mpr fun _ _ => by simp]

end Class

namespace Registry

open Trellis.Class (joining)

/-- The depth-first walk over some modules, in order, that leaves out the modules it is through
with. `done` are those it was through with before and `after` are those it is through with in the
end, each behind those it was through with earlier. -/
inductive Finishes (registry : Registry) : List Class → List Class → List Class → Prop
  | nil (done : List Class) : Finishes registry done [] done
  | skip {cls : Class} {done rest after : List Class} (through : cls ∈ done)
      (siblings : Finishes registry done rest after) : Finishes registry done (cls :: rest) after
  | visit {cls : Class} {metadata : ModuleMetadata} {done mid rest after : List Class}
      (new : cls ∉ done) (declared : registry.moduleMetadata? cls = some metadata)
      (imports : Finishes registry done metadata.imports mid)
      (siblings : Finishes registry (mid ++ [cls]) rest after) :
      Finishes registry done (cls :: rest) after

/-- Each module in the list stands behind all modules it imports itself. -/
def Ordered (registry : Registry) (done : List Class) : Prop :=
  ∀ before cls later, done = before ++ cls :: later →
    ∀ imported, registry.Imports cls imported → imported ∈ before

variable {registry : Registry} {cls imported : Class} {done after roots passed : List Class}

/-! ## What a depth-first walk leaves in order -/

theorem ordered_nil : registry.Ordered [] := by
  intro before cls later split
  simp at split

/-- A module goes behind the list that has all its imports. -/
theorem Ordered.concat (ordered : registry.Ordered done)
    (imports : ∀ imported, registry.Imports cls imported → imported ∈ done) :
    registry.Ordered (done ++ [cls]) := by
  intro before other later split imported edge
  rcases List.eq_nil_or_concat later with rfl | ⟨front, last, rfl⟩
  · obtain ⟨rfl, same⟩ := List.append_inj' split rfl
    obtain rfl : cls = other := by simpa using same
    exact imports imported edge
  · have ends : done ++ [cls] = (before ++ other :: front) ++ [last] := by simpa using split
    obtain ⟨earlier, -⟩ := List.append_inj' ends rfl
    exact ordered before other front earlier imported edge

theorem Finishes.mem_of_mem (finishes : registry.Finishes done roots after)
    (member : cls ∈ done) : cls ∈ after := by
  induction finishes with
  | nil => exact member
  | skip _ _ siblings => exact siblings member
  | visit _ _ _ _ imports siblings => exact siblings (List.mem_append_left _ (imports member))

/-- In the end the walk is through with all modules it was to go over. -/
theorem Finishes.mem_of_root (finishes : registry.Finishes done roots after)
    (root : cls ∈ roots) : cls ∈ after := by
  induction finishes with
  | nil => cases root
  | skip through later siblings =>
    rcases List.mem_cons.mp root with rfl | other
    · exact later.mem_of_mem through
    · exact siblings other
  | visit _ _ _ later _ siblings =>
    rcases List.mem_cons.mp root with rfl | other
    · exact later.mem_of_mem (List.mem_append_right _ (List.mem_singleton.mpr rfl))
    · exact siblings other

/-- Going over some modules keeps the list in order: a module joins it when the walk is through with
all its imports. -/
theorem Finishes.ordered (finishes : registry.Finishes done roots after)
    (ordered : registry.Ordered done) : registry.Ordered after := by
  induction finishes with
  | nil => exact ordered
  | skip _ _ siblings => exact siblings ordered
  | visit _ declared below _ imports siblings =>
    refine siblings ((imports ordered).concat ?_)
    rintro imported ⟨known, found, listed⟩
    obtain rfl := Option.some.inj (declared.symm.trans found)
    exact below.mem_of_root listed

/-! ## The modules of a post-order -/

theorem Postorder.mem_of_root (postorder : registry.Postorder roots passed)
    (root : cls ∈ roots) : cls ∈ passed := by
  induction postorder with
  | nil => cases root
  | cons _ _ _ _ siblings =>
    rcases List.mem_cons.mp root with rfl | other
    · exact List.mem_append_left _ (List.mem_append_right _ (List.mem_singleton.mpr rfl))
    · exact List.mem_append_right _ (siblings other)

/-- With each module, all modules it imports are in the list. -/
def Closed (registry : Registry) (done : List Class) : Prop :=
  ∀ cls ∈ done, ∀ imported, registry.Imports cls imported → imported ∈ done

theorem Closed.mem_of_reaches {root : Class} (closed : registry.Closed done) (member : root ∈ done)
    (reaches : registry.Reaches root cls) : cls ∈ done := by
  induction reaches with
  | refl => exact member
  | tail _ edge ih => exact closed _ ih _ edge

theorem Postorder.closed (postorder : registry.Postorder roots passed) :
    registry.Closed passed := by
  induction postorder with
  | nil => exact fun _ member => absurd member List.not_mem_nil
  | @cons own rest metadata below later declared imports _ ihImports ihSiblings =>
    intro cls member imported edge
    rcases List.mem_append.mp member with first | last
    · apply List.mem_append_left
      apply List.mem_append_left
      rcases List.mem_append.mp first with deeper | here
      · exact ihImports cls deeper imported edge
      · obtain rfl := List.mem_singleton.mp here
        obtain ⟨known, found, listed⟩ := edge
        obtain rfl := Option.some.inj (declared.symm.trans found)
        exact imports.mem_of_root listed
    · exact List.mem_append_right _ (ihSiblings cls last imported edge)

theorem Postorder.declared (postorder : registry.Postorder roots passed) (member : cls ∈ passed) :
    ∃ metadata, registry.moduleMetadata? cls = some metadata := by
  induction postorder with
  | nil => cases member
  | @cons _ _ metadata _ _ declared _ _ imports siblings =>
    rcases List.mem_append.mp member with first | last
    · rcases List.mem_append.mp first with deeper | own
      · exact imports deeper
      · rw [List.mem_singleton.mp own]
        exact ⟨metadata, declared⟩
    · exact siblings last

/-- A post-order, freed of repetitions, is the list of the depth-first walk that leaves out what it
is through with. -/
theorem Postorder.finishes (postorder : registry.Postorder roots passed)
    (acyclic : ∀ cls ∈ passed, ¬ Relation.TransGen registry.Imports cls cls)
    (closed : registry.Closed done) :
    registry.Finishes done roots (passed.foldl joining done) := by
  induction postorder generalizing done with
  | nil => exact .nil done
  | @cons cls rest metadata below later declared imports _ ihImports ihSiblings =>
    have acyclicBelow : ∀ other ∈ below, ¬ Relation.TransGen registry.Imports other other := by
      intro other member
      exact acyclic other (List.mem_append_left _ (List.mem_append_left _ member))
    have acyclicLater : ∀ other ∈ later, ¬ Relation.TransGen registry.Imports other other := by
      intro other member
      exact acyclic other (List.mem_append_right _ member)
    rw [List.foldl_append, List.foldl_append, List.foldl_cons, List.foldl_nil]
    by_cases through : cls ∈ done
    · -- Everything below the module is in the list already.
      have known : ∀ other ∈ below, other ∈ done := by
        intro other member
        obtain ⟨first, listed, reaches⟩ := imports.reaches member
        exact closed.mem_of_reaches through (.head ⟨metadata, declared, listed⟩ reaches)
      rw [Class.foldl_joining_of_subset known, Class.joining_of_mem through]
      exact .skip through (ihSiblings acyclicLater closed)
    · -- The module is not below itself, so it joins the list right behind what is below it.
      have fresh : cls ∉ below := by
        intro member
        obtain ⟨first, listed, reaches⟩ := imports.reaches member
        refine acyclic cls (by simp) ?_
        exact Relation.TransGen.head' ⟨metadata, declared, listed⟩ reaches
      have new : cls ∉ below.foldl joining done := by
        rw [Class.mem_foldl_joining_iff]
        exact fun either => either.elim through fresh
      have closedMid : registry.Closed (below.foldl joining done ++ [cls]) := by
        intro other member imported edge
        apply List.mem_append_left
        rw [Class.mem_foldl_joining_iff]
        rw [List.mem_append, Class.mem_foldl_joining_iff, List.mem_singleton] at member
        rcases member with (earlier | deeper) | rfl
        · exact .inl (closed other earlier imported edge)
        · exact .inr (imports.closed other deeper imported edge)
        · obtain ⟨known, found, listed⟩ := edge
          obtain rfl := Option.some.inj (declared.symm.trans found)
          exact .inr (imports.mem_of_root listed)
      rw [Class.joining_of_not_mem new]
      exact .visit through declared (ihImports acyclicBelow closed) (ihSiblings acyclicLater closedMid)

end Registry

namespace Composition

variable {registry : Registry} {root : Class} {app : App} {ledger : Ledger}
  {composition : Composition}

/-! ## The imported modules -/

/-- The imported classes are those of a post-order, each where it is passed first. -/
theorem exists_imports_of_compose
    (composed : (compose registry root app ledger).1.1 = .ok composition) :
    ∃ metadata passed, registry.moduleMetadata? root = some metadata ∧
      registry.Postorder metadata.imports passed ∧ composition.imports = passed.eraseDups := by
  obtain ⟨metadata, passed, declared, postorder, -, imported⟩ := exists_imported_of_compose composed
  refine ⟨metadata, passed, declared, postorder, ?_⟩
  rw [imports, imported, List.map_filterMap]
  have each : ∀ cls ∈ passed.eraseDups,
      ((registry.declared? cls).map fun declared => declared.cls) = some cls := by
    intro cls member
    obtain ⟨own, found⟩ := postorder.declared (List.mem_eraseDups.mp member)
    rw [Registry.declared?, found]
    rfl
  rw [List.filterMap_congr each, List.filterMap_some]

/-- The classes of the controllers of a module that are wired, in the order of wiring. -/
def wiredBy (composition : Composition) (module : Class) : List Class :=
  (composition.controllers.filter (·.module = module)).map (·.cls)

/-- In the plan, the controllers of a module stand as it declares them, if no other module has its
class. -/
theorem filter_plan {modules : List Declared} {declared : Declared}
    (once : (modules.map (·.cls)).Nodup) (member : declared ∈ modules) :
    (modules.flatMap fun declared => declared.metadata.controllers.map fun handle =>
      (declared.cls, handle.cls)).filter (·.1 = declared.cls) =
        declared.metadata.controllers.map fun handle => (declared.cls, handle.cls) := by
  have own : ∀ other : Declared, other.cls = declared.cls →
      (other.metadata.controllers.map fun handle => (other.cls, handle.cls)).filter
        (·.1 = declared.cls) =
          other.metadata.controllers.map fun handle => (other.cls, handle.cls) := by
    intro other same
    apply List.filter_eq_self.mpr
    simp [same]
  have foreign : ∀ other : Declared, other.cls ≠ declared.cls →
      (other.metadata.controllers.map fun handle => (other.cls, handle.cls)).filter
        (·.1 = declared.cls) = [] := by
    intro other different
    apply List.filter_eq_nil_iff.mpr
    simp [different]
  induction modules with
  | nil => cases member
  | cons first rest ih =>
    obtain ⟨unlike, onceLater⟩ := List.nodup_cons.mp once
    rw [List.flatMap_cons, List.filter_append]
    rcases List.mem_cons.mp member with rfl | later
    · have none : (rest.flatMap fun declared => declared.metadata.controllers.map fun handle =>
          (declared.cls, handle.cls)).filter (·.1 = declared.cls) = [] := by
        rw [List.filter_flatMap, List.flatMap_eq_nil_iff]
        intro other listed
        apply foreign
        intro same
        exact unlike (List.mem_map.mpr ⟨other, listed, same⟩)
      rw [own _ rfl, none, List.append_nil]
    · have different : first.cls ≠ declared.cls := by
        intro same
        exact unlike (List.mem_map.mpr ⟨declared, later, same.symm⟩)
      rw [foreign first different, List.nil_append]
      exact ih onceLater later

/-- Among the controllers that are planned, those of a module are wired as far as any are. -/
theorem wiredBy_of_setsUp {reflection : Reflection} {start final : Assembly} {stop : Option Stop}
    (setsUp : SetsUp reflection start stop final) (fresh : start.composition.Fresh)
    (once : (start.composition.modules.map (·.cls)).Nodup) :
    ∀ declared ∈ start.composition.modules,
      final.composition.wiredBy declared.cls <+: declared.metadata.controllers.map (·.cls) ∧
        (stop = none →
          final.composition.wiredBy declared.cls = declared.metadata.controllers.map (·.cls)) := by
  intro declared member
  have planned : (start.composition.plan.filter (·.1 = declared.cls)).map (·.2) =
      declared.metadata.controllers.map (·.cls) := by
    rw [plan, filter_plan once member, List.map_map]
    rfl
  -- What is wired is a first part of the plan.
  obtain ⟨services, stage, made, left, composition, split, complete⟩ := setsUp.exists_composition
  rw [fresh.controllers, List.nil_append] at composition
  have wired : final.composition.wiredBy declared.cls =
      ((made.map Wired.place).filter (·.1 = declared.cls)).map (·.2) := by
    rw [composition, wiredBy, List.filter_map, List.map_map]
    rfl
  rw [split, List.filter_append, List.map_append, ← wired] at planned
  constructor
  · exact ⟨_, planned⟩
  · intro done
    rw [complete done] at planned
    simpa using planned

/-- The imported modules of a composition are the modules that the root leads to over at least one
import, each once, in the order in which a depth-first walk from the root is through with them: each
stands behind all modules it imports itself. They stand as they are declared, and a set-up wires the
controllers of each module once, as far as it gets. -/
theorem imports_of_compose (composed : (compose registry root app ledger).1.1 = .ok composition) :
    (∀ cls, cls ∈ composition.imports ↔ Relation.TransGen registry.Imports root cls) ∧
      composition.imports.Nodup ∧ root ∉ composition.imports ∧
      registry.Ordered composition.imports ∧
      (∃ metadata, registry.moduleMetadata? root = some metadata ∧
        registry.Finishes [] metadata.imports composition.imports) ∧
      (∀ declared ∈ composition.imported,
        registry.moduleMetadata? declared.cls = some declared.metadata) ∧
      ∀ reflection resolver start,
        let outcome := (setup reflection).run ⟨composition, resolver, start⟩
        ∀ declared ∈ composition.modules,
          outcome.2.composition.wiredBy declared.cls <+:
              declared.metadata.controllers.map (·.cls) ∧
            (outcome.1 = .ok () → outcome.2.composition.wiredBy declared.cls =
              declared.metadata.controllers.map (·.cls)) := by
  obtain ⟨metadata, passed, declared, postorder, imports⟩ := exists_imports_of_compose composed
  have acyclic := (composable_of_compose composed).acyclic
  have member : ∀ cls, cls ∈ composition.imports ↔ Relation.TransGen registry.Imports root cls := by
    intro cls
    rw [imports, List.mem_eraseDups]
    constructor
    · intro passes
      obtain ⟨first, listed, reaches⟩ := postorder.reaches passes
      exact .head' ⟨metadata, declared, listed⟩ reaches
    · intro leads
      obtain ⟨first, edge, reaches⟩ := Relation.TransGen.head'_iff.mp leads
      obtain ⟨known, found, listed⟩ := edge
      obtain rfl := Option.some.inj (declared.symm.trans found)
      exact postorder.closed.mem_of_reaches (postorder.mem_of_root listed) reaches
  have once : composition.imports.Nodup := by
    rw [imports, Class.eraseDups_eq_foldl_joining]
    exact Class.nodup_foldl_joining List.nodup_nil
  have notRoot : root ∉ composition.imports := by
    intro again
    exact acyclic root .refl ((member root).mp again)
  have finishes : registry.Finishes [] metadata.imports composition.imports := by
    rw [imports, Class.eraseDups_eq_foldl_joining]
    refine postorder.finishes ?_ nofun
    intro cls passes
    have leads := (member cls).mp (by rwa [imports, List.mem_eraseDups])
    exact acyclic cls leads.to_reflTransGen
  refine ⟨member, once, notRoot, finishes.ordered Registry.ordered_nil, ⟨metadata, declared, finishes⟩,
    ?_, ?_⟩
  · intro module imported
    exact moduleMetadata?_of_compose composed module (List.mem_cons_of_mem _ imported)
  · intro reflection resolver start outcome module listed
    have onceAll : (composition.modules.map (·.cls)).Nodup := by
      rw [modules, List.map_cons, root_of_compose composed]
      exact List.nodup_cons.mpr ⟨notRoot, once⟩
    obtain ⟨stop, final, setsUp⟩ := exists_setsUp reflection ⟨composition, resolver, start⟩
    have ran : outcome = (Stop.result stop, final) := run_setup_of_setsUp setsUp
    obtain ⟨part, whole⟩ :=
      wiredBy_of_setsUp setsUp (fresh_of_compose composed) onceAll module listed
    rw [ran]
    exact ⟨part, fun done => whole (Stop.result_eq_ok_iff.mp done)⟩

/-- In the diamond the module that both others import comes first, and once. -/
theorem imports_of_compose_diamond : ∃ app composition,
    (compose .diamond (.named "App") app {}).1.1 = .ok composition ∧
      composition.imports.map (·.name) = ["Core", "Left", "Right"] ∧ composition.imports.Nodup := by
  let app : App := { logger := {}, config := {} }
  have composed := compose_diamond app {}
  obtain ⟨-, once, -⟩ := imports_of_compose composed
  refine ⟨app, diamond app {}, composed, ?_, once⟩
  decide +kernel

end Composition

end Trellis
