import Mathlib.Data.List.Perm.Basic
import Trellis.Layer.Context
/-!
# Looking services up

A context is searched for a tag, for an identifier or for a class. The order in which it is searched
shows only where there is a choice: a tag is bound once, so it is no matter for a tag that is bound,
and none for an identifier that at most one bound tag carries.

* `Context.find?_of_perm` says so of the search for a tag, which falls back to its identifier.
* `Context.isSome_ofClass?_iff` says when a class is found, whichever of its instances that is.
-/

namespace Trellis

namespace Table

variable {κ α : Type} [DecidableEq κ] {table : Table κ α} {key : κ} {value : α}

/-- With one entry a key, what is found is what is there. -/
theorem get?_eq_some_iff_mem (distinct : table.keys.Nodup) :
    table.get? key = some value ↔ (key, value) ∈ table := by
  induction table with
  | nil => simp
  | cons entry rest ih =>
    obtain ⟨known, old⟩ := entry
    obtain ⟨new, later⟩ := List.nodup_cons.mp distinct
    by_cases same : known = key
    · subst same
      -- No later entry has the key again.
      have absent : (known, value) ∉ rest := fun member =>
        new (List.mem_map.mpr ⟨_, member, rfl⟩)
      simp [get?, absent, eq_comm]
    · simp [get?, same, Ne.symm same, ih later]

end Table

namespace Context

variable {context order : Context} {tag : Tag} {identifier : String} {cls : Class}
  {subject : Instance}

/-- At most one bound tag goes by an identifier. -/
def Sole (context : Context) (identifier : String) : Prop :=
  ∀ tag ∈ Table.keys context, ∀ other ∈ Table.keys context,
    tag.identifier = identifier → other.identifier = identifier → tag = other

/-! ## By tag and by identifier -/

theorem get?_of_perm (distinct : (Table.keys context).Nodup) (perm : order.Perm context)
    (tag : Tag) : Table.get? order tag = Table.get? context tag := by
  have reordered : (Table.keys order).Nodup := (perm.map _).nodup_iff.mpr distinct
  ext subject
  rw [Table.get?_eq_some_iff_mem reordered, Table.get?_eq_some_iff_mem distinct, perm.mem_iff]

theorem mem_of_getByIdentifier? (found : context.getByIdentifier? identifier = some subject) :
    ∃ tag, (tag, subject) ∈ context ∧ tag.identifier = identifier := by
  induction context with
  | nil => cases found
  | cons entry rest ih =>
    obtain ⟨tag, bound⟩ := entry
    rw [getByIdentifier?] at found
    split at found
    next same =>
      cases found
      exact ⟨tag, List.mem_cons_self, same⟩
    next =>
      obtain ⟨other, member, same⟩ := ih found
      exact ⟨other, List.mem_cons_of_mem _ member, same⟩

theorem isSome_getByIdentifier? (bound : (tag, subject) ∈ context)
    (named : tag.identifier = identifier) : (context.getByIdentifier? identifier).isSome := by
  induction context with
  | nil => cases bound
  | cons entry rest ih =>
    rw [getByIdentifier?]
    split
    · rfl
    next other =>
      rcases List.mem_cons.mp bound with rfl | later
      · exact absurd named other
      · exact ih later

/-- Where one tag at most goes by an identifier, the instance found is the one bound to it. -/
theorem getByIdentifier?_eq_some_iff (distinct : (Table.keys context).Nodup)
    (sole : context.Sole identifier) :
    context.getByIdentifier? identifier = some subject ↔
      ∃ tag, (tag, subject) ∈ context ∧ tag.identifier = identifier := by
  refine ⟨mem_of_getByIdentifier?, ?_⟩
  rintro ⟨tag, bound, named⟩
  obtain ⟨found, search⟩ := Option.isSome_iff_exists.mp (isSome_getByIdentifier? bound named)
  obtain ⟨other, known, renamed⟩ := mem_of_getByIdentifier? search
  obtain rfl : other = tag :=
    sole other (List.mem_map_of_mem known) tag (List.mem_map_of_mem bound) renamed named
  -- One tag, so one instance.
  have first := (Table.get?_eq_some_iff_mem distinct).mpr known
  have second := (Table.get?_eq_some_iff_mem distinct).mpr bound
  rw [search, ← first, second]

theorem Sole.of_perm (sole : context.Sole identifier) (perm : order.Perm context) :
    order.Sole identifier := by
  have keys : ∀ tag, tag ∈ Table.keys order → tag ∈ Table.keys context :=
    fun tag => (perm.map Prod.fst).mem_iff.mp
  intro tag member other again
  exact sole tag (keys tag member) other (keys other again)

theorem getByIdentifier?_of_perm (distinct : (Table.keys context).Nodup)
    (perm : order.Perm context) (sole : context.Sole identifier) :
    order.getByIdentifier? identifier = context.getByIdentifier? identifier := by
  have reordered : (Table.keys order).Nodup := (perm.map _).nodup_iff.mpr distinct
  ext subject
  rw [getByIdentifier?_eq_some_iff reordered (sole.of_perm perm),
    getByIdentifier?_eq_some_iff distinct sole]
  simp only [perm.mem_iff]

/-- The order of the search is no matter for a tag that is bound, nor for one whose identifier one
bound tag at most carries. -/
theorem find?_of_perm (distinct : (Table.keys context).Nodup) (perm : order.Perm context)
    (definite : tag ∈ Table.keys context ∨ context.Sole tag.identifier) :
    order.find? tag = context.find? tag := by
  rw [find?, find?, get?_of_perm distinct perm]
  cases bound : Table.get? context tag with
  | some subject => rfl
  | none =>
    have sole := definite.resolve_left (Table.get?_eq_none_iff.mp bound)
    rw [getByIdentifier?_of_perm distinct perm sole]

theorem mem_of_find? (found : context.find? tag = some subject) :
    subject ∈ Table.values context := by
  rcases Option.or_eq_some_iff.mp found with bound | ⟨-, named⟩
  · exact Table.mem_values_of_get?_eq_some bound
  · obtain ⟨other, member, -⟩ := mem_of_getByIdentifier? named
    exact List.mem_map_of_mem member

/-! ## By class -/

theorem mem_of_ofClass? (found : context.ofClass? cls = some subject) :
    subject ∈ Table.values context ∧ subject.cls = cls := by
  have right := List.find?_some found
  exact ⟨List.mem_of_find?_eq_some found, by simpa [Instance.isOf] using right⟩

theorem isSome_ofClass?_iff :
    (context.ofClass? cls).isSome ↔ ∃ subject ∈ Table.values context, subject.cls = cls := by
  rw [ofClass?, List.find?_isSome]
  simp [Instance.isOf]

/-- Whether a class has an instance is not a matter of order. -/
theorem isSome_ofClass?_of_perm (perm : order.Perm context) :
    (order.ofClass? cls).isSome ↔ (context.ofClass? cls).isSome := by
  have values : ∀ subject, subject ∈ Table.values order ↔ subject ∈ Table.values context :=
    fun subject => (perm.map Prod.snd).mem_iff
  simp only [isSome_ofClass?_iff, values]

end Context

end Trellis
