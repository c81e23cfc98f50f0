import Trellis.Proofs.Metadata.History
/-!
# What decorations leave

Decorations define values; only the tag of a service depends on the registry they are applied to, and
that is the tag its class has from then on. So what decorations leave in a registry is what the values
they define leave, read with the tags that the classes have in the end.

* `entries_foldl_decorate` says so.
* `valuesAt_definitions`: the values of one address, told from the decorations that concern it.
-/

namespace Trellis

/-- What a decoration defines. A service stands under the tag its class has in the end. -/
def Decoration.definition (tagOf : Class → Tag) : Decoration → Definition
  | service handle _ =>
    { target := handle
      address := { key := MetadataKey.service }
      value := .service { tag := tagOf handle.cls, implementation := handle } }
  | controller handle basePath =>
    { target := handle
      address := { key := MetadataKey.controller }
      value := .controller { basePath } }
  | route cls item =>
    { target := cls.handle
      address := { key := MetadataKey.routes }
      value := .routes [item] }
  | param cls handler item =>
    { target := cls.handle
      address := { key := MetadataKey.params, property := some handler }
      value := .params [item] }
  | module handle metadata =>
    { target := handle
      address := { key := MetadataKey.module }
      value := .module metadata }
  | paramTypes cls types =>
    { target := cls.handle
      address := { key := MetadataKey.paramTypes }
      value := .paramTypes types }

namespace Registry

open Definition

variable {registry other later : Registry}

/-- What is written depends on what stands in the entries only. -/
theorem entries_write_congr (same : registry.entries = other.entries) (target : Handle)
    (address : Address) (value : MetadataValue) :
    (registry.write target address value).entries = (other.write target address value).entries := by
  have entry : registry.entryFor target = other.entryFor target := by simp only [entryFor, same]
  simp only [write, outcome, entry, same]

theorem entries_writeAll_congr (same : registry.entries = other.entries)
    (definitions : List Definition) :
    (registry.writeAll definitions).entries = (other.writeAll definitions).entries := by
  induction definitions generalizing registry other with
  | nil => exact same
  | cons first rest ih => exact ih (entries_write_congr same first.target first.address first.value)

theorem grows_foldl_decorate (registry : Registry) (decorations : List Decoration) :
    registry.Grows (decorations.foldl decorate registry) := by
  induction decorations generalizing registry with
  | nil => exact Grows.refl registry
  | cons first rest ih => exact (grows_decorate registry first).trans (ih _)

/-- A decoration writes what it defines under the tags of any later registry. -/
theorem entries_decorate {decoration : Decoration}
    (grown : (registry.decorate decoration).Grows later) :
    (registry.decorate decoration).entries =
      (registry.writeAll [decoration.definition later.tagOf]).entries := by
  cases decoration with
  | service handle tag =>
    -- The tag is bound before the record is written, and it stays bound.
    have bound := grown.tags handle.cls _ (bound_settleTag_self registry handle.cls tag)
    rw [Decoration.definition, tagOf_of_bound bound]
    exact entries_write_congr (entries_settleTag registry handle.cls tag) handle _ _
  | controller | route | param | module | paramTypes => rfl

/-- Decorations leave what the values they define leave. -/
theorem entries_foldl_decorate (registry : Registry) (decorations : List Decoration) :
    (decorations.foldl decorate registry).entries =
      (registry.writeAll (decorations.map (Decoration.definition
        (decorations.foldl decorate registry).tagOf))).entries := by
  suffices general : ∀ later, (decorations.foldl decorate registry).Grows later →
      (decorations.foldl decorate registry).entries =
        (registry.writeAll (decorations.map (Decoration.definition later.tagOf))).entries from
    general _ (Grows.refl _)
  induction decorations generalizing registry with
  | nil => exact fun _ _ => rfl
  | cons first rest ih =>
    intro later grown
    have written := entries_decorate
      ((grows_foldl_decorate (registry.decorate first) rest).trans grown)
    rw [List.foldl_cons, ih (registry.decorate first) later grown, List.map_cons,
      entries_writeAll_congr written]
    rfl

/-- What is read after decorations is what the values they define leave. -/
theorem read_foldl_decorate (name : String) (decorations : List Decoration) (cls : Class)
    (address : Address) :
    (decorations.foldl decorate { name }).read cls address =
      MetadataValue.collected (valuesAt (decorations.map (Decoration.definition
        (decorations.foldl decorate { name }).tagOf)) cls address) := by
  rw [← read_writeAll name, read, entries_foldl_decorate]
  rfl

/-- The values of an address, when the decorations that define there say items of one kind. -/
theorem valuesAt_definitions {α : Type} {tagOf : Class → Tag} {cls : Class} {address : Address}
    {said : Decoration → Option α} {wrap : α → MetadataValue}
    (here : ∀ decoration : Decoration,
      (decoration.definition tagOf).valueAt? cls address = (said decoration).map wrap)
    (decorations : List Decoration) :
    valuesAt (decorations.map (Decoration.definition tagOf)) cls address =
      (decorations.filterMap said).map wrap := by
  rw [valuesAt, List.filterMap_map, List.map_filterMap]
  exact congrArg (decorations.filterMap ·) (funext here)

/-- A value that is no list is the one that was said first. -/
theorem read_foldl_decorate_of_single {α : Type} {name : String} {cls : Class} {address : Address}
    {said : Decoration → Option α} {wrap : α → MetadataValue} {decorations : List Decoration}
    (here : ∀ decoration : Decoration,
      (decoration.definition (decorations.foldl decorate { name }).tagOf).valueAt? cls address =
        (said decoration).map wrap)
    (single : ∀ item, (wrap item).isList = false) :
    (decorations.foldl decorate { name }).read cls address =
      (decorations.findSome? said).map wrap := by
  rw [read_foldl_decorate, valuesAt_definitions here, ← List.head?_filterMap]
  cases decorations.filterMap said with
  | nil => rfl
  | cons first rest => exact MetadataValue.collected_cons_of_single (single first) _

end Registry

end Trellis
