import Trellis.Proofs.Layer.Build
import Trellis.Proofs.Layer.Twins
import Trellis.Proofs.Metadata.Blind
/-!
# Layers without the wiring policy

Layers whose provisions do alike, one by one, are built to contexts of the same outline or fail with
the same error.
-/

namespace Trellis

namespace Context

def outline (context : Context) : Context :=
  context.map fun entry => (entry.1, entry.2.outline)

variable {context : Context}

@[simp]
theorem keys_outline (context : Context) : Table.keys context.outline = Table.keys context := by
  simp [outline, Table.keys, Function.comp_def]

@[simp]
theorem length_outline (context : Context) : context.outline.length = context.length :=
  List.length_map _

theorem ofClass?_outline (context : Context) (cls : Class) :
    context.outline.ofClass? cls = (context.ofClass? cls).map Instance.outline := by
  have values : Table.values context.outline = (Table.values context).map Instance.outline := by
    simp [outline, Table.values, Function.comp_def]
  rw [ofClass?, values, Instance.find?_isOf_map Instance.cls_outline]
  rfl

theorem outline_put (context : Context) (tag : Tag) (subject : Instance) :
    outline (Table.put context tag subject) = Table.put context.outline tag subject.outline := by
  induction context with
  | nil => rfl
  | cons entry rest ih =>
    obtain ⟨known, bound⟩ := entry
    by_cases same : known = tag
    · simp [Table.put, outline, same]
    · simpa [Table.put, outline, same] using ih

theorem has_of_outline_eq {other : Context} (same : context.outline = other.outline) (tag : Tag) :
    Table.has context tag = Table.has other tag := by
  have keys : Table.keys context = Table.keys other := by
    rw [← keys_outline, same, keys_outline]
  rw [Bool.eq_iff_iff, Table.has_eq_true_iff, Table.has_eq_true_iff, keys]

end Context

/-- Provisions that do alike, whatever the policies in what they are given. -/
structure Provision.Alike (one other : Provision) : Prop where
  tag : one.tag = other.tag
  label : one.label = other.label
  build : ∀ given again : Context, given.outline = again.outline →
    Instance.outline <$> one.build given = Instance.outline <$> other.build again

namespace Layer

variable {layer other : Layer} {context again : Context}

theorem twins_provide_of_alike {one another : Provision} (alike : one.Alike another)
    (same : context.outline = again.outline) :
    Steps.Twins Eq (fun result final => result.outline = final.outline) (provide context one)
      (provide again another) := by
  refine twins_provide same alike.label ?_
    (Steps.twins_iff_map_eq.mpr (alike.build context again same)) fun subject object looks => ?_
  · rw [alike.tag, Context.has_of_outline_eq same]
  · rw [alike.tag, Context.outline_put, Context.outline_put, same, looks]

/-- Layers that do alike are built alike. -/
theorem map_build (alike : List.Forall₂ Provision.Alike layer other) :
    Context.outline <$> layer.build = Context.outline <$> other.build :=
  Steps.twins_iff_map_eq.mp
    (twins_extend (fun _ _ pair _ _ same => twins_provide_of_alike pair same) alike rfl)

end Layer

end Trellis
