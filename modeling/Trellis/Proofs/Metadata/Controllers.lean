import Mathlib.Data.List.Forall2
import Trellis.Proofs.Metadata.Decorated
/-!
# Controllers and their routes

Controllers, routes and parameters are declared in any order and put together when a controller is
looked at.

* `ParamMetadata.StablySorted`: the parameters in order of their indices, those of one index as they
  were. It determines the list (`StablySorted.unique`).
* `read_controller`, `routesOf_foldl_decorate`, `paramsOf_foldl_decorate`: what was declared.
* `controllerMetadata?_foldl_decorate`: what is put together from it.
* `controller_of_decorations`: that is all, whatever the order was.
-/

namespace Trellis

/-! ## Stable sorting -/

/-- `sorted` has the items of `params` in order of their indices, and the items of one index in the
order they have in `params`. -/
structure ParamMetadata.StablySorted (params sorted : List ParamMetadata) : Prop where
  perm : sorted.Perm params
  ordered : sorted.Pairwise (·.index ≤ ·.index)
  stable : ∀ index, sorted.filter (·.index = index) = params.filter (·.index = index)

namespace ParamMetadata

variable {params more sorted other : List ParamMetadata}

/-- Two lists in order that agree on the items of every index are the same. -/
theorem eq_of_ordered (ordered : sorted.Pairwise (·.index ≤ ·.index))
    (again : other.Pairwise (·.index ≤ ·.index))
    (same : ∀ index, sorted.filter (·.index = index) = other.filter (·.index = index)) :
    sorted = other := by
  induction sorted generalizing other with
  | nil =>
    cases other with
    | nil => rfl
    | cons first rest => simpa using same first.index
  | cons first rest ih =>
    cases other with
    | nil => simpa using same first.index
    | cons head tail =>
      -- Each head stands in the other list, so neither has the smaller index.
      have first_mem : first ∈ (head :: tail).filter (·.index = first.index) := by
        rw [← same]
        simp
      have head_mem : head ∈ (first :: rest).filter (·.index = head.index) := by
        rw [same]
        simp
      have least {item : ParamMetadata} {items : List ParamMetadata}
          (ordered : (item :: items).Pairwise (·.index ≤ ·.index)) {met : ParamMetadata}
          (member : met ∈ item :: items) : item.index ≤ met.index := by
        rcases List.mem_cons.mp member with rfl | later
        · exact Nat.le_refl _
        · exact (List.pairwise_cons.mp ordered).1 met later
      have level : first.index = head.index :=
        Nat.le_antisymm (least ordered (List.mem_filter.mp head_mem).1)
          (least again (List.mem_filter.mp first_mem).1)
      have fronts := same first.index
      simp only [List.filter_cons, level, decide_true, if_true] at fronts
      obtain ⟨rfl, -⟩ := List.cons.inj fronts
      refine congrArg (first :: ·) (ih (List.pairwise_cons.mp ordered).2
        (List.pairwise_cons.mp again).2 fun index => ?_)
      have items := same index
      by_cases here : first.index = index
      · simpa [List.filter_cons, here] using items
      · simpa [List.filter_cons, here] using items

theorem StablySorted.unique (one : StablySorted params sorted) (two : StablySorted params other) :
    sorted = other :=
  eq_of_ordered one.ordered two.ordered fun index => (one.stable index).trans (two.stable index).symm

/-- Sorting by index is stable. -/
theorem stablySorted_mergeSort (params : List ParamMetadata) :
    StablySorted params (params.mergeSort fun a b => a.index ≤ b.index) := by
  have trans (a b c : ParamMetadata) : decide (a.index ≤ b.index) = true →
      decide (b.index ≤ c.index) = true → decide (a.index ≤ c.index) = true := by
    simpa using Nat.le_trans
  have total (a b : ParamMetadata) :
      (decide (a.index ≤ b.index) || decide (b.index ≤ a.index)) = true := by
    simpa using Nat.le_total a.index b.index
  have perm := List.mergeSort_perm params fun a b => decide (a.index ≤ b.index)
  refine ⟨perm, ?_, fun index => ?_⟩
  · simpa using List.pairwise_mergeSort trans total params
  · -- The items of one index are in order as they stand, so sorting leaves them in their order.
    have level : (params.filter (·.index = index)).Pairwise
        fun a b => decide (a.index ≤ b.index) = true := by
      refine List.pairwise_of_forall_mem_list fun a first b second => ?_
      simp only [List.mem_filter, decide_eq_true_eq] at first second ⊢
      omega
    have kept := (List.sublist_mergeSort trans total level List.filter_sublist).filter
      (·.index = index)
    rw [List.filter_filter] at kept
    simp only [Bool.and_self] at kept
    exact (kept.eq_of_length (perm.filter _).length_eq.symm).symm

/-- Items that all have indices of their own may come in any order. -/
theorem StablySorted.of_perm {inline : List ParamMetadata}
    (sorts : StablySorted (inline ++ params) sorted) (perm : more.Perm params)
    (distinct : (params.map (·.index)).Nodup) : StablySorted (inline ++ more) sorted where
  perm := sorts.perm.trans (perm.symm.append_left inline)
  ordered := sorts.ordered
  stable index := by
    have same : more.filter (·.index = index) = params.filter (·.index = index) := by
      have shuffled := perm.filter (·.index = index)
      have apart := (List.pairwise_map.mp distinct).filter (·.index = index)
      have level : ∀ item ∈ params.filter (·.index = index), item.index = index := by simp
      -- At most one item has the index, so there is nothing to be ordered.
      generalize params.filter (·.index = index) = few at shuffled apart level ⊢
      rcases few with _ | ⟨item, _ | ⟨next, rest⟩⟩
      · exact shuffled.eq_nil
      · exact List.perm_singleton.mp shuffled
      · have different := (List.pairwise_cons.mp apart).1 next List.mem_cons_self
        exact absurd ((level item (by simp)).trans (level next (by simp)).symm) different
    rw [sorts.stable, List.filter_append, List.filter_append, same]

end ParamMetadata

/-! ## What was declared -/

namespace Decoration

/-- The base path under which a decoration makes a class a controller. -/
def basePath? (cls : Class) : Decoration → Option String
  | controller handle basePath => if handle.cls = cls then some basePath else none
  | service _ _ | route _ _ | param _ _ _ | module _ _ | paramTypes _ _ => none

/-- The route a decoration declares for a class. -/
def route? (cls : Class) : Decoration → Option RouteMetadata
  | route owner item => if owner = cls then some item else none
  | service _ _ | controller _ _ | param _ _ _ | module _ _ | paramTypes _ _ => none

/-- The parameter a decoration declares for a handler of a class. -/
def param? (cls : Class) (handler : String) : Decoration → Option ParamMetadata
  | param owner name item => if owner = cls ∧ name = handler then some item else none
  | service _ _ | controller _ _ | route _ _ | module _ _ | paramTypes _ _ => none

end Decoration

namespace Registry

open Decoration Definition MetadataValue

theorem collected_routes (items : List RouteMetadata) :
    collected (items.map fun item => .routes [item]) =
      if items.isEmpty then none else some (.routes items) := by
  cases items with
  | nil => rfl
  | cons first rest => simp [collected, List.flatMap_map, routeItems]

theorem collected_params (items : List ParamMetadata) :
    collected (items.map fun item => .params [item]) =
      if items.isEmpty then none else some (.params items) := by
  cases items with
  | nil => rfl
  | cons first rest => simp [collected, List.flatMap_map, paramItems]

/-- A class is a controller under the base path that was said first. -/
theorem read_controller (name : String) (decorations : List Decoration) (cls : Class) :
    (decorations.foldl decorate { name }).read cls { key := MetadataKey.controller } =
      (decorations.findSome? (basePath? cls)).map fun basePath => .controller { basePath } := by
  refine read_foldl_decorate_of_single (fun decoration => ?_) fun _ => rfl
  cases decoration <;> simp +decide [valueAt?, Decoration.definition, basePath?]

/-- The routes of a class are those declared for it, in order. -/
theorem routesOf_foldl_decorate (name : String) (decorations : List Decoration) (cls : Class) :
    (decorations.foldl decorate { name }).routesOf cls = decorations.filterMap (route? cls) := by
  have here (tagOf : Class → Tag) (decoration : Decoration) :
      (decoration.definition tagOf).valueAt? cls { key := MetadataKey.routes } =
        (route? cls decoration).map fun item => .routes [item] := by
    cases decoration <;> simp +decide [valueAt?, Decoration.definition, route?, Class.handle]
  rw [routesOf, read_foldl_decorate, valuesAt_definitions (here _), collected_routes]
  cases decorations.filterMap (route? cls) <;> rfl

/-- The parameters of a handler are those declared for it, in order. -/
theorem paramsOf_foldl_decorate (name : String) (decorations : List Decoration) (cls : Class)
    (handler : String) :
    (decorations.foldl decorate { name }).paramsOf cls handler =
      decorations.filterMap (param? cls handler) := by
  have here (tagOf : Class → Tag) (decoration : Decoration) :
      (decoration.definition tagOf).valueAt? cls
          { key := MetadataKey.params, property := some handler } =
        (param? cls handler decoration).map fun item => .params [item] := by
    cases decoration <;> simp +decide [valueAt?, Decoration.definition, param?, Class.handle]
  rw [paramsOf, read_foldl_decorate, valuesAt_definitions (here _), collected_params]
  cases decorations.filterMap (param? cls handler) <;> rfl

/-! ## What is put together -/

/-- A controller has the base path that was said first, and all its routes with their parameters. -/
theorem controllerMetadata?_foldl_decorate (name : String) (decorations : List Decoration)
    (cls : Class) :
    (decorations.foldl decorate { name }).controllerMetadata? cls =
      (decorations.findSome? (basePath? cls)).map fun basePath =>
        { basePath
          routes := (decorations.filterMap (route? cls)).map
            ((decorations.foldl decorate { name }).withParams cls) } := by
  rw [controllerMetadata?, read_controller, routesOf_foldl_decorate]
  cases decorations.findSome? (basePath? cls) <;> rfl

/-- Two series of decorations declare the routes of a class alike: the same ones in the same order, and
for each handler the same parameters, in the same order unless each has an index of its own. -/
structure SameRoutes (cls : Class) (decorations others : List Decoration) : Prop where
  routes : others.filterMap (route? cls) = decorations.filterMap (route? cls)
  params : ∀ handler,
    others.filterMap (param? cls handler) = decorations.filterMap (param? cls handler) ∨
      (others.filterMap (param? cls handler)).Perm (decorations.filterMap (param? cls handler)) ∧
        ((decorations.filterMap (param? cls handler)).map (·.index)).Nodup

/-- The parameters of a route are stably sorted. -/
theorem stablySorted_withParams (name : String) (decorations : List Decoration) (cls : Class)
    (route : RouteMetadata) :
    ParamMetadata.StablySorted (route.params ++ decorations.filterMap (param? cls route.handler))
      ((decorations.foldl decorate { name }).withParams cls route).params := by
  rw [← paramsOf_foldl_decorate name]
  exact ParamMetadata.stablySorted_mergeSort _

theorem SameRoutes.withParams {cls : Class} {decorations others : List Decoration}
    (same : SameRoutes cls decorations others) (name other : String) (route : RouteMetadata) :
    (others.foldl decorate { name := other }).withParams cls route =
      (decorations.foldl decorate { name }).withParams cls route := by
  have sorts := stablySorted_withParams name decorations cls route
  have again := stablySorted_withParams other others cls route
  have params : ((others.foldl decorate { name := other }).withParams cls route).params =
      ((decorations.foldl decorate { name }).withParams cls route).params := by
    rcases same.params route.handler with listed | ⟨shuffled, distinct⟩
    · rw [listed] at again
      exact again.unique sorts
    · exact again.unique (sorts.of_perm shuffled distinct)
  exact congrArg (fun params => { route with params }) params

/-- A controller is put together from all that was declared of it, wherever that stands among the
decorations.

* A class is no controller exactly if it was never declared one; else its base path is the one that was
  declared first.
* Its routes are those declared for it, in that order. Each is as it was declared, with its own
  parameters and those declared for its handler, all of them stably sorted by index.
* Decorations that declare its routes alike give it the same routes, so with the same base path
  declared first they give the same controller. -/
theorem controller_of_decorations (name : String) (decorations : List Decoration) (cls : Class) :
    let registry := decorations.foldl decorate { name }
    (registry.controllerMetadata? cls = none ↔
      ∀ decoration ∈ decorations, basePath? cls decoration = none) ∧
    ∃ routes,
      registry.controllerMetadata? cls =
        (decorations.findSome? (basePath? cls)).map ({ basePath := ·, routes }) ∧
      List.Forall₂
        (fun declared shown =>
          shown = { declared with params := shown.params } ∧
            ParamMetadata.StablySorted
              (declared.params ++ decorations.filterMap (param? cls declared.handler)) shown.params)
        (decorations.filterMap (route? cls)) routes ∧
      ∀ (other : String) (others : List Decoration), SameRoutes cls decorations others →
        let again := others.foldl decorate { name := other }
        again.controllerMetadata? cls =
          (others.findSome? (basePath? cls)).map ({ basePath := ·, routes }) ∧
        (others.findSome? (basePath? cls) = decorations.findSome? (basePath? cls) →
          again.controllerMetadata? cls = registry.controllerMetadata? cls) := by
  intro registry
  have whole := controllerMetadata?_foldl_decorate name decorations cls
  refine ⟨?_, (decorations.filterMap (route? cls)).map (registry.withParams cls), whole, ?_,
    fun other others same => ?_⟩
  · rw [whole, Option.map_eq_none_iff, List.findSome?_eq_none_iff]
  · rw [List.forall₂_map_right_iff, List.forall₂_same]
    exact fun declared _ => ⟨rfl, stablySorted_withParams name decorations cls declared⟩
  · have shown : (others.foldl decorate { name := other }).controllerMetadata? cls =
        (others.findSome? (basePath? cls)).map ({ basePath := ·, routes :=
          (decorations.filterMap (route? cls)).map (registry.withParams cls) }) := by
      have merged : (others.foldl decorate { name := other }).withParams cls =
          registry.withParams cls := funext (same.withParams name other)
      rw [controllerMetadata?_foldl_decorate, same.routes, merged]
    refine ⟨shown, fun first => ?_⟩
    rw [shown, first]
    exact whole.symm

end Registry

end Trellis
