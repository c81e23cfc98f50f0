import Trellis.Proofs.Layer.Twins
import Trellis.Proofs.Object.Shape
/-!
# Layers under other tags

Two registries give other canonical tags to the same classes. Layers that differ in this alone are
built to contexts that differ in this alone, but for the identities of what is in them.
-/

namespace Trellis

/-- A renaming keeps tags apart and keeps the identifiers they go by. -/
structure Tag.Renaming (rename : Tag → Tag) : Prop where
  injective : Function.Injective rename
  identifier : ∀ tag, (rename tag).identifier = tag.identifier

theorem Tag.renaming_id : Tag.Renaming id :=
  ⟨fun _ _ same => same, fun _ => rfl⟩

namespace Context

variable {rename : Tag → Tag} {context other : Context}

/-- The second context binds objects of the same shapes in the same order, each to the renamed tag. -/
def Renamed (rename : Tag → Tag) : Context → Context → Prop :=
  List.Forall₂ fun entry again => again.1 = rename entry.1 ∧ entry.2.Like again.2

theorem Renamed.has (keeps : Tag.Renaming rename) (renamed : context.Renamed rename other)
    (tag : Tag) : Table.has other (rename tag) = Table.has context tag := by
  induction renamed with
  | nil => rfl
  | @cons entry again rest others first _ ih =>
    obtain ⟨known, bound⟩ := entry
    obtain ⟨_, again⟩ := again
    obtain ⟨rfl, -⟩ := first
    unfold Table.has at ih ⊢
    by_cases same : known = tag
    · simp [Table.get?, same]
    · simpa [Table.get?, same, keeps.injective.eq_iff] using ih

theorem Renamed.put (keeps : Tag.Renaming rename) (renamed : context.Renamed rename other)
    (tag : Tag) {subject again : Instance} (like : subject.Like again) :
    Renamed rename (Table.put context tag subject) (Table.put other (rename tag) again) := by
  induction renamed with
  | nil => exact .cons ⟨rfl, like⟩ .nil
  | @cons entry next rest others first later ih =>
    obtain ⟨known, bound⟩ := entry
    obtain ⟨_, next⟩ := next
    obtain ⟨rfl, alike⟩ := first
    by_cases same : known = tag
    · subst same
      simp only [Table.put, if_true]
      exact List.Forall₂.cons ⟨rfl, like⟩ later
    · simp only [Table.put, keeps.injective.eq_iff, same, if_false]
      exact List.Forall₂.cons ⟨rfl, alike⟩ ih

/-- What is told alike of related entries is told alike of the contexts. -/
theorem Renamed.map_eq {α : Type} {tell : Tag × Instance → α}
    (renamed : context.Renamed rename other)
    (same : ∀ tag subject again, subject.Like again →
      tell (tag, subject) = tell (rename tag, again)) :
    context.map tell = other.map tell := by
  induction renamed with
  | nil => rfl
  | @cons entry again rest others first _ ih =>
    obtain ⟨tag, subject⟩ := entry
    obtain ⟨_, again⟩ := again
    obtain ⟨rfl, like⟩ := first
    exact congrArg₂ List.cons (same tag subject again like) ih

/-- The first instance of a class has the same shape in both, if there is one. -/
theorem Renamed.ofClass? (renamed : context.Renamed rename other) (cls : Class) :
    (context.ofClass? cls).map Instance.shape = (other.ofClass? cls).map Instance.shape := by
  have shapes : (Table.values context).map Instance.shape =
      (Table.values other).map Instance.shape := by
    rw [Table.values, Table.values, List.map_map, List.map_map]
    exact renamed.map_eq fun _ _ _ like => like
  rw [Context.ofClass?, Context.ofClass?, ← Instance.find?_isOf_map Instance.cls_shape, shapes,
    Instance.find?_isOf_map Instance.cls_shape]

end Context

/-- Provisions that differ in their tags alone, the second one's tag being renamed. -/
structure Provision.Renamed (rename : Tag → Tag) (one other : Provision) : Prop where
  tag : other.tag = rename one.tag
  label : other.label = one.label
  build : ∀ given again : Context, given.Renamed rename again →
    Build.Twins Instance.Like (one.build given) (other.build again)

namespace Layer

variable {rename : Tag → Tag} {layer other : Layer} {context again : Context}

theorem twins_provide_of_renamed (keeps : Tag.Renaming rename) {one another : Provision}
    (provisions : one.Renamed rename another) (renamed : context.Renamed rename again) :
    Build.Twins (Context.Renamed rename) (provide context one) (provide again another) := by
  refine twins_provide renamed provisions.label.symm ?_ (provisions.build context again renamed)
    fun subject object like => ?_
  · rw [provisions.tag, renamed.has keeps]
  · rw [provisions.tag]
    exact renamed.put keeps one.tag like

/-- Layers that differ in their tags alone are built to contexts that do, or fail alike. -/
theorem twins_build (keeps : Tag.Renaming rename)
    (layers : List.Forall₂ (Provision.Renamed rename) layer other) :
    Build.Twins (Context.Renamed rename) layer.build other.build :=
  twins_extend (fun _ _ pair _ _ renamed => twins_provide_of_renamed keeps pair renamed) layers .nil

end Layer

end Trellis
