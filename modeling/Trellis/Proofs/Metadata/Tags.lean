import Trellis.Metadata.Decoration
/-!
# Bound tags

A tag is bound once and stays bound. Binding tags and handing them out changes nothing else of a
registry, and handing a tag out does not even change which tag a class has.
-/

namespace Trellis

namespace Registry

variable {registry : Registry} {cls other : Class} {bound : Tag}

/-! ## The entries and the name stay -/

@[simp]
theorem entries_bindTag (registry : Registry) (cls : Class) (tag : Tag) :
    (registry.bindTag cls tag).entries = registry.entries := by
  unfold bindTag
  split <;> rfl

@[simp]
theorem entries_claimTag (registry : Registry) (cls : Class) :
    (registry.claimTag cls).entries = registry.entries :=
  entries_bindTag ..

@[simp]
theorem entries_settleTag (registry : Registry) (cls : Class) (tag : Option Tag) :
    (registry.settleTag cls tag).entries = registry.entries := by
  cases tag with
  | none => exact entries_claimTag registry cls
  | some tag => exact entries_bindTag registry cls tag

@[simp]
theorem name_bindTag (registry : Registry) (cls : Class) (tag : Tag) :
    (registry.bindTag cls tag).name = registry.name := by
  unfold bindTag
  split <;> rfl

@[simp]
theorem name_settleTag (registry : Registry) (cls : Class) (explicit : Option Tag) :
    (registry.settleTag cls explicit).name = registry.name := by
  cases explicit <;> exact name_bindTag ..

theorem entries_foldl_claimTag (registry : Registry) (classes : List Class) :
    (classes.foldl claimTag registry).entries = registry.entries := by
  induction classes generalizing registry with
  | nil => rfl
  | cons cls rest ih => rw [List.foldl_cons, ih, entries_claimTag]

@[simp]
theorem read_foldl_claimTag (registry : Registry) (classes : List Class) :
    (classes.foldl claimTag registry).read = registry.read := by
  funext cls address
  rw [read, entries_foldl_claimTag]
  rfl

@[simp]
theorem moduleMetadata?_foldl_claimTag (registry : Registry) (classes : List Class)
    (module : Class) :
    (classes.foldl claimTag registry).moduleMetadata? module = registry.moduleMetadata? module := by
  rw [moduleMetadata?, read_foldl_claimTag]
  rfl

@[simp]
theorem serviceMetadata?_foldl_claimTag (registry : Registry) (classes : List Class)
    (provider : Class) :
    (classes.foldl claimTag registry).serviceMetadata? provider =
      registry.serviceMetadata? provider := by
  rw [serviceMetadata?, read_foldl_claimTag]
  rfl

@[simp]
theorem moduleMetadata?_claimTag (registry : Registry) (cls module : Class) :
    (registry.claimTag cls).moduleMetadata? module = registry.moduleMetadata? module := by
  simp [moduleMetadata?, read]

@[simp]
theorem serviceMetadata?_claimTag (registry : Registry) (cls provider : Class) :
    (registry.claimTag cls).serviceMetadata? provider = registry.serviceMetadata? provider := by
  simp [serviceMetadata?, read]

/-! ## Which tag a class has -/

@[simp]
theorem tagOf_claimTag (registry : Registry) (cls other : Class) :
    (registry.claimTag cls).tagOf other = registry.tagOf other := by
  unfold claimTag bindTag hasTag Table.has
  cases bound : registry.tags.get? cls with
  | some tag => simp
  | none =>
    simp only [Option.isSome_none, Bool.false_eq_true, if_false, tagOf]
    by_cases same : other = cls
    · rw [same, Table.get?_put_self, bound]
      rfl
    · rw [Table.get?_put_of_ne _ _ same]

theorem tagOf_of_bound (found : registry.tags.get? cls = some bound) :
    registry.tagOf cls = bound := by
  rw [tagOf, found]
  rfl

/-! ## Bound tags stay bound -/

theorem bound_bindTag (found : registry.tags.get? cls = some bound) (other : Class) (tag : Tag) :
    (registry.bindTag other tag).tags.get? cls = some bound := by
  unfold bindTag
  split
  · exact found
  next free =>
    -- A class that gets a tag had none, so it is another one.
    have apart : cls ≠ other := by
      rintro rfl
      exact free (by rw [hasTag, Table.has, found]; rfl)
    show (registry.tags.put other tag).get? cls = some bound
    rw [Table.get?_put_of_ne _ _ apart, found]

theorem bound_claimTag (found : registry.tags.get? cls = some bound) (other : Class) :
    (registry.claimTag other).tags.get? cls = some bound :=
  bound_bindTag found other _

theorem bound_settleTag (found : registry.tags.get? cls = some bound) (other : Class)
    (tag : Option Tag) : (registry.settleTag other tag).tags.get? cls = some bound := by
  cases tag with
  | none => exact bound_claimTag found other
  | some tag => exact bound_bindTag found other tag

/-- A bound tag was bound before, or it has just been bound. -/
theorem get?_bindTag {tag : Tag} (found : (registry.bindTag other tag).tags.get? cls = some bound) :
    registry.tags.get? cls = some bound ∨ cls = other ∧ bound = tag := by
  unfold bindTag at found
  split at found
  · exact .inl found
  · exact (Table.get?_put_eq_some found).symm

/-- A class has a tag once one was bound to it, whichever it is. -/
theorem bound_bindTag_self (registry : Registry) (cls : Class) (tag : Tag) :
    (registry.bindTag cls tag).tags.get? cls = some ((registry.bindTag cls tag).tagOf cls) := by
  unfold bindTag
  split
  next known =>
    obtain ⟨bound, found⟩ := Option.isSome_iff_exists.mp known
    rw [tagOf_of_bound found, found]
  next =>
    have stands := Table.get?_put_self registry.tags cls tag
    have tagged : tagOf { registry with tags := registry.tags.put cls tag } cls = tag :=
      tagOf_of_bound stands
    rw [tagged]
    exact stands

theorem bound_settleTag_self (registry : Registry) (cls : Class) (tag : Option Tag) :
    (registry.settleTag cls tag).tags.get? cls =
      some ((registry.settleTag cls tag).tagOf cls) := by
  cases tag with
  | none => exact bound_bindTag_self registry cls _
  | some tag => exact bound_bindTag_self registry cls tag

/-- A class without a tag gets the one that is asked for or, without one, the canonical one. -/
theorem tagOf_settleTag_of_unbound (unbound : registry.tags.get? cls = none) (tag : Option Tag) :
    (registry.settleTag cls tag).tagOf cls = tag.getD (.canonical registry.name cls) := by
  cases tag with
  | none =>
    show (registry.claimTag cls).tagOf cls = _
    rw [tagOf_claimTag, tagOf, unbound]
  | some tag =>
    have free : registry.hasTag cls = false := by rw [hasTag, Table.has, unbound]; rfl
    show (registry.bindTag cls tag).tagOf cls = tag
    simp [bindTag, free, tagOf]

theorem bound_foldl_claimTag (found : registry.tags.get? cls = some bound) (classes : List Class) :
    (classes.foldl claimTag registry).tags.get? cls = some bound := by
  induction classes generalizing registry with
  | nil => exact found
  | cons first rest ih => exact ih (bound_claimTag found first)

theorem name_foldl_claimTag (registry : Registry) (classes : List Class) :
    (classes.foldl claimTag registry).name = registry.name := by
  induction classes generalizing registry with
  | nil => rfl
  | cons first rest ih =>
    have kept : (registry.claimTag first).name = registry.name := name_bindTag ..
    rw [List.foldl_cons, ih, kept]

/-- After tags were handed out, a bound tag was bound before, or it is the canonical one of a class
whose tag was handed out. -/
theorem get?_foldl_claimTag {classes : List Class}
    (found : (classes.foldl claimTag registry).tags.get? cls = some bound) :
    registry.tags.get? cls = some bound ∨ cls ∈ classes ∧ bound = .canonical registry.name cls := by
  induction classes generalizing registry with
  | nil => exact .inl found
  | cons first rest ih =>
    have kept : (registry.claimTag first).name = registry.name := name_bindTag ..
    rcases ih found with before | ⟨later, canonical⟩
    · rcases get?_bindTag before with stood | ⟨rfl, canonical⟩
      · exact .inl stood
      · exact .inr ⟨List.mem_cons_self, canonical⟩
    · rw [kept] at canonical
      exact .inr ⟨List.mem_cons_of_mem first later, canonical⟩

/-- A tag that was handed out is bound. -/
theorem bound_foldl_claimTag_of_mem {classes : List Class} (claimed : cls ∈ classes) :
    (classes.foldl claimTag registry).tags.get? cls = some (registry.tagOf cls) := by
  induction classes generalizing registry with
  | nil => cases claimed
  | cons first rest ih =>
    rw [List.foldl_cons]
    rcases List.mem_cons.mp claimed with rfl | later
    · have bound := bound_bindTag_self registry cls (.canonical registry.name cls)
      change (registry.claimTag cls).tags.get? cls = some ((registry.claimTag cls).tagOf cls) at bound
      rw [tagOf_claimTag] at bound
      exact bound_foldl_claimTag bound rest
    · rw [ih later, tagOf_claimTag]

end Registry

end Trellis
