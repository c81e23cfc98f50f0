import Trellis.Proofs.Metadata.Tags
/-!
# What decorations write

A decoration writes one value at one address of one class. What is read there afterwards is that
value laid over the one that stood there, and everywhere else nothing changes.

* `read_decorate_self` and `read_decorate_of_ne` say so.
* `read_decorate_of_single`: a value that is no list stays for good once it was written.
* `eq_of_read_decorate`: a value that is no list was there before or is the one just written.
* `Registry.Grows` joins a registry to what it becomes.
-/

namespace Trellis

/-- The handles in a value. -/
def MetadataValue.handles : MetadataValue → List Handle
  | service metadata => [metadata.implementation]
  | module metadata => metadata.providers ++ metadata.controllers
  | controller _ | routes _ | params _ | paramTypes _ | json _ => []

namespace MetadataValue

variable {value old : MetadataValue}

/-- Nothing is added to a value that is no list. -/
theorem over_of_single (single : old.isList = false) : (value.over (some old)).1 = old := by
  simp only [MetadataValue.over]
  split
  · -- Adding needs two lists of one kind.
    cases old <;> cases value <;> first | rfl | cases single
  · rfl

/-- Two lists of one kind give a list. -/
theorem isList_of_append? {longer : MetadataValue} (appended : old.append? value = some longer) :
    longer.isList = true := by
  unfold append? at appended
  split at appended <;> cases appended <;> rfl

/-- No handle stands in a list. -/
theorem handles_of_isList (list : value.isList = true) : value.handles = [] := by
  cases value <;> first | rfl | cases list

/-- What comes of writing a value is no list only if it stood there or was written there first. -/
theorem eq_of_over {known : Option MetadataValue} (laid : (value.over known).1 = old)
    (single : old.isList = false) : known = some old ∨ known = none ∧ value = old := by
  cases known with
  | none => exact .inr ⟨rfl, laid⟩
  | some stood =>
    simp only [MetadataValue.over] at laid
    split at laid
    · cases appended : stood.append? value with
      | none =>
        rw [appended] at laid
        exact .inl (congrArg some laid)
      | some longer =>
        rw [appended] at laid
        subst laid
        exact absurd (isList_of_append? appended) (by simp [single])
    · exact .inl (congrArg some laid)

end MetadataValue

namespace Registry

variable {registry : Registry} {target handle : Handle} {cls : Class} {address : Address}
  {value old : MetadataValue} {decoration : Decoration}

/-! ## Reading after writing -/

theorem get?_entryFor (registry : Registry) (target : Handle) (address : Address) :
    (registry.entryFor target).values.get? address = registry.read target.cls address := by
  unfold entryFor read
  cases registry.entries.get? target.cls <;> rfl

theorem read_write_self (registry : Registry) (target : Handle) (address : Address)
    (value : MetadataValue) :
    (registry.write target address value).read target.cls address =
      some (value.over (registry.read target.cls address)).1 := by
  rw [← get?_entryFor registry target address]
  simp [read, write, outcome]

theorem read_write_of_ne (registry : Registry) (value : MetadataValue)
    (apart : cls ≠ target.cls ∨ address ≠ other) :
    (registry.write target other value).read cls address = registry.read cls address := by
  by_cases same : cls = target.cls
  · -- Another address of the class that was written to.
    subst same
    have elsewhere := apart.resolve_left (not_not_intro rfl)
    rw [← get?_entryFor registry, read]
    simp only [write, Table.get?_put_self, Option.bind_some]
    exact Table.get?_put_of_ne _ _ elsewhere
  · simp only [read, write, Table.get?_put_of_ne _ _ same]

theorem read_settleTag (registry : Registry) (owner : Class) (tag : Option Tag) (cls : Class)
    (address : Address) :
    (registry.settleTag owner tag).read cls address = registry.read cls address := by
  rw [read, entries_settleTag]
  rfl

@[simp]
theorem name_decorate (registry : Registry) (decoration : Decoration) :
    (registry.decorate decoration).name = registry.name := by
  cases decoration with
  | service handle explicit => exact name_settleTag registry handle.cls explicit
  | controller | route | param | module | paramTypes => rfl

/-- Whatever a decoration says, it writes one value. -/
theorem read_decorate (registry : Registry) (decoration : Decoration) (cls : Class)
    (address : Address) : ∃ settled : Registry,
      (∀ cls address, settled.read cls address = registry.read cls address) ∧
        (registry.decorate decoration).read cls address =
          (settled.write (registry.written decoration).1 (registry.written decoration).2.1
            (registry.written decoration).2.2).read cls address := by
  cases decoration with
  | service handle tag =>
    exact ⟨registry.settleTag handle.cls tag, read_settleTag registry handle.cls tag, rfl⟩
  | controller | route | param | module | paramTypes => exact ⟨registry, fun _ _ => rfl, rfl⟩

theorem read_decorate_self (registry : Registry) (decoration : Decoration) :
    (registry.decorate decoration).read (registry.written decoration).1.cls
        (registry.written decoration).2.1 =
      some ((registry.written decoration).2.2.over
        (registry.read (registry.written decoration).1.cls (registry.written decoration).2.1)).1 := by
  obtain ⟨settled, same, reads⟩ := registry.read_decorate decoration
    (registry.written decoration).1.cls (registry.written decoration).2.1
  rw [reads, read_write_self, same]

theorem read_decorate_of_ne (registry : Registry) (decoration : Decoration)
    (apart : cls ≠ (registry.written decoration).1.cls ∨
      address ≠ (registry.written decoration).2.1) :
    (registry.decorate decoration).read cls address = registry.read cls address := by
  obtain ⟨settled, same, reads⟩ := registry.read_decorate decoration cls address
  rw [reads, read_write_of_ne settled _ apart, same]

/-! ## Values that are no lists -/

/-- A value that is no list stays, whatever is written. -/
theorem read_write_of_single (found : registry.read cls address = some old)
    (single : old.isList = false) (target : Handle) (other : Address) (value : MetadataValue) :
    (registry.write target other value).read cls address = some old := by
  by_cases here : cls = target.cls ∧ address = other
  · obtain ⟨rfl, rfl⟩ := here
    rw [read_write_self, found, MetadataValue.over_of_single single]
  · rw [read_write_of_ne registry value (Decidable.not_and_iff_not_or_not.mp here), found]

theorem read_decorate_of_single (found : registry.read cls address = some old)
    (single : old.isList = false) (decoration : Decoration) :
    (registry.decorate decoration).read cls address = some old := by
  obtain ⟨settled, same, reads⟩ := registry.read_decorate decoration cls address
  rw [reads]
  exact read_write_of_single ((same cls address).trans found) single _ _ _

/-- A value that is no list stood there before, or the decoration was the first to write there. -/
theorem eq_of_read_decorate
    (found : (registry.decorate decoration).read cls address = some value)
    (single : value.isList = false) :
    registry.read cls address = some value ∨
      cls = (registry.written decoration).1.cls ∧ address = (registry.written decoration).2.1 ∧
        value = (registry.written decoration).2.2 := by
  by_cases here : cls = (registry.written decoration).1.cls ∧
      address = (registry.written decoration).2.1
  · obtain ⟨rfl, rfl⟩ := here
    rw [read_decorate_self] at found
    rcases MetadataValue.eq_of_over (Option.some.inj found) single with stood | ⟨-, first⟩
    · exact .inl stood
    · exact .inr ⟨rfl, rfl, first.symm⟩
  · rw [read_decorate_of_ne registry decoration (Decidable.not_and_iff_not_or_not.mp here)] at found
    exact .inl found

/-! ## The records of the library's own decorators -/

theorem moduleMetadata?_eq_some_iff {metadata : ModuleMetadata} :
    registry.moduleMetadata? cls = some metadata ↔
      registry.read cls { key := MetadataKey.module } = some (.module metadata) := by
  unfold moduleMetadata?
  split <;> simp_all

theorem serviceMetadata?_eq_some_iff {metadata : ServiceMetadata} :
    registry.serviceMetadata? cls = some metadata ↔
      registry.read cls { key := MetadataKey.service } = some (.service metadata) := by
  unfold serviceMetadata?
  split <;> simp_all

/-- What makes a class a module is settled by the first decoration that says so. -/
theorem moduleMetadata?_decorate {metadata : ModuleMetadata}
    (found : registry.moduleMetadata? cls = some metadata) (decoration : Decoration) :
    (registry.decorate decoration).moduleMetadata? cls = some metadata :=
  moduleMetadata?_eq_some_iff.mpr <|
    read_decorate_of_single (moduleMetadata?_eq_some_iff.mp found) rfl decoration

theorem eq_of_moduleMetadata?_decorate {metadata : ModuleMetadata}
    (found : (registry.decorate decoration).moduleMetadata? cls = some metadata) :
    registry.moduleMetadata? cls = some metadata ∨
      ∃ handle, decoration = .module handle metadata := by
  rcases eq_of_read_decorate (moduleMetadata?_eq_some_iff.mp found) rfl with stood | ⟨-, -, first⟩
  · exact .inl (moduleMetadata?_eq_some_iff.mpr stood)
  · cases decoration with
    | module handle known =>
      cases first
      exact .inr ⟨handle, rfl⟩
    | service | controller | route | param | paramTypes => cases first

/-- What makes a class a service was there before, or it was decorated as one under the tag it was
then bound to. -/
theorem eq_of_serviceMetadata?_decorate {metadata : ServiceMetadata}
    (found : (registry.decorate decoration).serviceMetadata? cls = some metadata) :
    registry.serviceMetadata? cls = some metadata ∨
      ∃ tag, decoration = .service metadata.implementation tag ∧
        metadata.implementation.cls = cls ∧
          metadata.tag = (registry.settleTag cls tag).tagOf cls := by
  rcases eq_of_read_decorate (serviceMetadata?_eq_some_iff.mp found) rfl with
    stood | ⟨same, -, first⟩
  · exact .inl (serviceMetadata?_eq_some_iff.mpr stood)
  · cases decoration with
    | service handle tag =>
      cases first
      exact .inr ⟨tag, rfl, same.symm, by rw [same]; rfl⟩
    | module | controller | route | param | paramTypes => cases first

/-- The types of a constructor are those that were said of its class. -/
theorem read_paramTypes_decorate (elsewhere : ∀ types, decoration ≠ .paramTypes cls types) :
    (registry.decorate decoration).read cls { key := MetadataKey.paramTypes } =
      registry.read cls { key := MetadataKey.paramTypes } := by
  refine read_decorate_of_ne registry decoration ?_
  cases decoration with
  | paramTypes owner types =>
    left
    rintro rfl
    exact elsewhere types rfl
  | service | controller | route | module =>
    right
    simp only [written]
    decide
  | param owner handler =>
    right
    simp [written]

/-! ## Registries only grow -/

/-- What is settled in a registry is settled alike in a later one: what makes a class a module, and
which tag is bound to it. -/
structure Grows (registry later : Registry) : Prop where
  modules : ∀ cls metadata, registry.moduleMetadata? cls = some metadata →
    later.moduleMetadata? cls = some metadata
  tags : ∀ cls tag, registry.tags.get? cls = some tag → later.tags.get? cls = some tag

theorem Grows.refl (registry : Registry) : registry.Grows registry :=
  ⟨fun _ _ declared => declared, fun _ _ bound => bound⟩

theorem Grows.trans {later last : Registry} (first : registry.Grows later)
    (second : later.Grows last) : registry.Grows last where
  modules cls metadata declared := second.modules cls metadata (first.modules cls metadata declared)
  tags cls tag bound := second.tags cls tag (first.tags cls tag bound)

theorem grows_decorate (registry : Registry) (decoration : Decoration) :
    registry.Grows (registry.decorate decoration) where
  modules _ _ declared := moduleMetadata?_decorate declared decoration
  tags cls tag bound := by
    cases decoration with
    | service handle explicit => exact bound_settleTag bound handle.cls explicit
    | controller | route | param | module | paramTypes => exact bound

theorem grows_write (registry : Registry) (target : Handle) (address : Address)
    (value : MetadataValue) : registry.Grows (registry.write target address value) where
  modules _ _ declared := moduleMetadata?_eq_some_iff.mpr <|
    read_write_of_single (moduleMetadata?_eq_some_iff.mp declared) rfl target address value
  tags _ _ bound := bound

theorem grows_foldl_claimTag (registry : Registry) (classes : List Class) :
    registry.Grows (classes.foldl claimTag registry) where
  modules cls metadata declared := by rwa [moduleMetadata?_foldl_claimTag]
  tags _ _ bound := bound_foldl_claimTag bound classes

end Registry

end Trellis
