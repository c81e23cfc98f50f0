import Mathlib.Data.List.Induction
import Trellis.Proofs.Metadata.Writing
/-!
# What a history of definitions leaves

Values are defined one after the other, at any addresses of any classes. What the registry then holds
is told from the history alone.

* `MetadataValue.collected`: what the values defined at one address leave there.
* `read_writeAll`, `mem_keysOf_writeAll`, `knownHandle_writeAll`: what stands at an address, under
  which keys something stands, and which constructors are known of a class.
* `isChange_outcome_iff`: what a definition answers.
* `store_of_definitions` puts them together.
-/

namespace Trellis

/-! ## The values of one address -/

namespace MetadataValue

/-- The routes in a value. -/
def routeItems : MetadataValue → List RouteMetadata
  | routes items => items
  | service _ | controller _ | module _ | params _ | paramTypes _ | json _ => []

/-- The parameters in a value. -/
def paramItems : MetadataValue → List ParamMetadata
  | params items => items
  | service _ | controller _ | module _ | routes _ | paramTypes _ | json _ => []

/-- What values defined one after the other at one address leave there: the first one, and if that
is a list, the items of every later list of its kind behind its own. -/
def collected : List MetadataValue → Option MetadataValue
  | [] => none
  | routes items :: later => some (routes (items ++ later.flatMap routeItems))
  | params items :: later => some (params (items ++ later.flatMap paramItems))
  | first :: _ => some first

/-- Both values are lists of one kind. -/
inductive SameList : MetadataValue → MetadataValue → Prop
  | ofRoutes {known more : List RouteMetadata} : SameList (routes known) (routes more)
  | ofParams {known more : List ParamMetadata} : SameList (params known) (params more)

variable {value old : MetadataValue}

theorem append?_isSome_iff : (old.append? value).isSome ↔ old.SameList value := by
  constructor
  · intro joined
    cases old <;> cases value <;> first | exact .ofRoutes | exact .ofParams | cases joined
  · rintro (_ | _) <;> rfl

/-- A definition changes something if nothing stood at its address or it adds to a list. -/
theorem isChange_over_iff {known : Option MetadataValue} :
    (value.over known).2.isChange = true ↔ known = none ∨ ∃ old ∈ known, old.SameList value := by
  cases known with
  | none => simp [MetadataValue.over, Written.isChange]
  | some old =>
    simp only [MetadataValue.over, reduceCtorEq, Option.mem_some_iff, exists_eq_left', false_or,
      ← append?_isSome_iff]
    cases joined : old.append? value with
    | none => split <;> simp [Written.isChange]
    | some longer =>
      -- Only a list is added to a list.
      have list : value.isList = true := by
        obtain _ | _ := append?_isSome_iff.mp (Option.isSome_of_eq_some joined) <;> rfl
      simp [list, Written.isChange]

@[simp]
theorem collected_eq_none_iff {values : List MetadataValue} :
    collected values = none ↔ values = [] := by
  unfold collected
  split <;> simp

/-- The last value is laid over what the earlier ones left. -/
theorem collected_concat (values : List MetadataValue) (last : MetadataValue) :
    collected (values ++ [last]) = some (last.over (collected values)).1 := by
  cases values with
  | nil => cases last <;> simp [collected, MetadataValue.over]
  | cons first later =>
    cases first <;> cases last <;> simp [collected, MetadataValue.over, isList, append?, routeItems, paramItems]

/-- A value that is no list stays alone. -/
theorem collected_cons_of_single (single : value.isList = false) (later : List MetadataValue) :
    collected (value :: later) = some value := by
  cases value <;> first | rfl | cases single

end MetadataValue

/-! ## Histories -/

/-- A value defined at an address of a class, through a handle of it. -/
structure Definition where
  target : Handle
  address : Address
  value : MetadataValue

namespace Definition

/-- The value, if it was defined at that address of that class. -/
def valueAt? (cls : Class) (address : Address) (definition : Definition) : Option MetadataValue :=
  if definition.target.cls = cls ∧ definition.address = address then some definition.value
  else none

/-- The values defined at one address of one class, in order. -/
def valuesAt (definitions : List Definition) (cls : Class) (address : Address) :
    List MetadataValue :=
  definitions.filterMap (valueAt? cls address)

theorem mem_valuesAt_iff {definitions : List Definition} {cls : Class} {address : Address}
    {value : MetadataValue} : value ∈ valuesAt definitions cls address ↔
      ∃ definition ∈ definitions, definition.target.cls = cls ∧ definition.address = address ∧
        definition.value = value := by
  simp [valuesAt, valueAt?, and_assoc]

end Definition

namespace Registry

open Definition MetadataValue

variable {registry : Registry} {definitions : List Definition} {cls : Class}
  {address : Address}

/-- The registry with all values written. -/
def writeAll (registry : Registry) (definitions : List Definition) : Registry :=
  definitions.foldl (fun registry definition =>
    registry.write definition.target definition.address definition.value) registry

theorem writeAll_concat (registry : Registry) (earlier : List Definition) (last : Definition) :
    registry.writeAll (earlier ++ [last]) =
      (registry.writeAll earlier).write last.target last.address last.value := by
  simp [writeAll]

/-- Values are defined one after the other. -/
def defineAll (registry : Registry) (definitions : List Definition) : Logged Registry :=
  definitions.foldlM (fun registry definition => do
    let (_, registry) ← registry.define definition.target definition.address definition.value
    return registry) registry

/-- Defining reports what it does, and writes. -/
theorem defineAll_fst (registry : Registry) (definitions : List Definition) (ledger : Ledger) :
    (registry.defineAll definitions ledger).1 = registry.writeAll definitions := by
  induction definitions generalizing registry ledger with
  | nil => rfl
  | cons first rest ih => exact ih (registry.write first.target first.address first.value) _

/-! ## What is read -/

/-- What stands at an address is what the values defined there leave. -/
theorem read_writeAll (name : String) (definitions : List Definition) (cls : Class)
    (address : Address) :
    (writeAll { name } definitions).read cls address =
      collected (valuesAt definitions cls address) := by
  induction definitions using List.reverseRecOn with
  | nil => rfl
  | append_singleton earlier last ih =>
    rw [writeAll_concat]
    by_cases here : last.target.cls = cls ∧ last.address = address
    · have values : valuesAt (earlier ++ [last]) cls address =
          valuesAt earlier cls address ++ [last.value] := by
        simp [valuesAt, valueAt?, here]
      obtain ⟨rfl, rfl⟩ := here
      rw [values, collected_concat, read_write_self, ih]
    · have values : valuesAt (earlier ++ [last]) cls address = valuesAt earlier cls address := by
        simp [valuesAt, valueAt?, here]
      have apart : cls ≠ last.target.cls ∨ address ≠ last.address := by
        by_cases same : cls = last.target.cls
        · exact .inr fun met => here ⟨same.symm, met.symm⟩
        · exact .inl same
      rw [values, read_write_of_ne _ _ apart, ih]

/-- What a definition answers. -/
theorem isChange_outcome_iff {target : Handle} {value : MetadataValue} :
    (registry.outcome target address value).2.isChange = true ↔
      registry.read target.cls address = none ∨
        ∃ old ∈ registry.read target.cls address, old.SameList value := by
  rw [outcome, get?_entryFor]
  exact isChange_over_iff

/-! ## Keys -/

/-- The keys of a class are those under which something can be read. -/
theorem mem_keysOf_iff {key : String} :
    key ∈ registry.keysOf cls ↔
      ∃ address, address.key = key ∧ (registry.read cls address).isSome := by
  unfold keysOf read
  cases known : registry.entries.get? cls with
  | none => simp
  | some entry =>
    simp only [Dict.mem_keys_ofList, List.map_map, List.mem_map, Function.comp_apply,
      Option.bind_some, ← Table.has_eq_true_iff, Table.has]
    simp only [and_comm]

theorem pairwise_keysOf (registry : Registry) (cls : Class) :
    (registry.keysOf cls).Pairwise (· < ·) := by
  unfold keysOf
  split
  · exact List.Pairwise.nil
  · exact Dict.pairwise_keys_ofList _

/-- Something stands under a key if it was defined there. -/
theorem mem_keysOf_writeAll {name key : String} :
    key ∈ (writeAll { name } definitions).keysOf cls ↔
      ∃ definition ∈ definitions, definition.target.cls = cls ∧ definition.address.key = key := by
  have written (address : Address) :
      ((writeAll { name } definitions).read cls address).isSome ↔
        ∃ definition ∈ definitions, definition.target.cls = cls ∧ definition.address = address := by
    rw [read_writeAll, Option.isSome_iff_ne_none, ne_eq, collected_eq_none_iff,
      List.eq_nil_iff_forall_not_mem]
    simp [mem_valuesAt_iff]
  simp only [mem_keysOf_iff, written]
  constructor
  · rintro ⟨address, rfl, definition, member, same, rfl⟩
    exact ⟨definition, member, same, rfl⟩
  · rintro ⟨definition, member, same, rfl⟩
    exact ⟨definition.address, rfl, definition, member, same, rfl⟩

/-! ## Handles -/

theorem knownHandle_write_self (registry : Registry) (target : Handle) (address : Address)
    (value : MetadataValue) :
    (registry.write target address value).knownHandle target.cls =
      some (match registry.knownHandle target.cls with
        | some known => known.mergedWith target
        | none => target) := by
  simp only [knownHandle, write, Table.get?_put_self, entryFor]
  cases registry.entries.get? target.cls <;> rfl

theorem knownHandle_write_of_ne (registry : Registry) {target : Handle} (address : Address)
    (value : MetadataValue) (apart : cls ≠ target.cls) :
    (registry.write target address value).knownHandle cls = registry.knownHandle cls := by
  simp only [knownHandle, write, Table.get?_put_of_ne _ _ apart]

end Registry

/-! ## Constructors -/

/-- A constructor that handles may know, such that a handle merged with another one knows its own or
else the other's. -/
def Handle.Merging (part : Handle → Option Constructor) : Prop :=
  ∀ one other, part (one.mergedWith other) = (part one).or (part other)

theorem Handle.merging_serviceConstructor : Handle.Merging (·.serviceConstructor) :=
  fun _ _ => rfl

theorem Handle.merging_controllerConstructor : Handle.Merging (·.controllerConstructor) :=
  fun _ _ => rfl

namespace Registry

open Definition MetadataValue

variable {part : Handle → Option Constructor}

/-- Of a class the constructor is known that the first of its handles to know one knew. -/
theorem bind_knownHandle_writeAll (merging : Handle.Merging part) (name : String)
    (definitions : List Definition) (cls : Class) :
    ((writeAll { name } definitions).knownHandle cls).bind part =
      (definitions.filter (·.target.cls = cls)).findSome? (part ·.target) := by
  induction definitions using List.reverseRecOn with
  | nil => rfl
  | append_singleton earlier last ih =>
    rw [writeAll_concat, List.filter_append, List.findSome?_append, ← ih]
    by_cases same : last.target.cls = cls
    · subst same
      rw [knownHandle_write_self, Option.bind_some]
      cases (writeAll { name } earlier).knownHandle last.target.cls with
      | none => simp
      | some known => simp [merging known last.target]
    · rw [knownHandle_write_of_ne _ _ _ (Ne.symm same)]
      simp [same]

/-- A constructor is known of a class if some handle of the class knew one. -/
theorem isSome_bind_knownHandle_writeAll (merging : Handle.Merging part) (name : String)
    (definitions : List Definition) (cls : Class) :
    (((writeAll { name } definitions).knownHandle cls).bind part).isSome ↔
      ∃ definition ∈ definitions, definition.target.cls = cls ∧
        (part definition.target).isSome := by
  rw [bind_knownHandle_writeAll merging, List.findSome?_isSome_iff]
  simp [and_assoc]

/-- A class is known if something was defined about it. -/
theorem isSome_knownHandle_writeAll {name : String} {definitions : List Definition} {cls : Class} :
    ((writeAll { name } definitions).knownHandle cls).isSome ↔
      ∃ definition ∈ definitions, definition.target.cls = cls := by
  induction definitions using List.reverseRecOn with
  | nil => simp [writeAll, knownHandle]
  | append_singleton earlier last ih =>
    rw [writeAll_concat]
    by_cases same : last.target.cls = cls
    · subst same
      rw [knownHandle_write_self]
      simp
    · rw [knownHandle_write_of_ne _ _ _ (Ne.symm same), ih]
      simp [same]

/-! ## The store -/

/-- A registry in which values were defined, in any order and of any kinds, tells of its history:

* at an address of a class stands what the values defined there leave, and nothing if there are none;
* the keys of a class are those under which something was defined about it, in order and each once;
* a class is known as soon as something was defined about it, and it has a constructor of services,
  or of controllers, if some handle through which something was defined about it had one;
* the next definition answers that it changed something if nothing stands at its address or a list of
  its kind does, and it changes nothing at other addresses. -/
theorem store_of_definitions (name : String) (definitions : List Definition) (ledger : Ledger) :
    let registry := (defineAll { name } definitions ledger).1
    (∀ cls address,
      registry.read cls address = collected (valuesAt definitions cls address) ∧
        registry.has cls address = (registry.read cls address).isSome) ∧
    (∀ cls,
      (registry.keysOf cls).Pairwise (· < ·) ∧
        ∀ key, key ∈ registry.keysOf cls ↔
          ∃ definition ∈ definitions, definition.target.cls = cls ∧
            definition.address.key = key) ∧
    (∀ cls,
      ((registry.knownHandle cls).isSome ↔
        ∃ definition ∈ definitions, definition.target.cls = cls) ∧
      (((registry.knownHandle cls).bind (·.serviceConstructor)).isSome ↔
        ∃ definition ∈ definitions, definition.target.cls = cls ∧
          definition.target.serviceConstructor.isSome) ∧
      (((registry.knownHandle cls).bind (·.controllerConstructor)).isSome ↔
        ∃ definition ∈ definitions, definition.target.cls = cls ∧
          definition.target.controllerConstructor.isSome)) ∧
    ∀ (next : Definition) (later : Ledger),
      let answered := (registry.define next.target next.address next.value later).1
      (answered.1 = true ↔
        valuesAt definitions next.target.cls next.address = [] ∨
          ∃ old ∈ registry.read next.target.cls next.address, old.SameList next.value) ∧
      ∀ cls address, cls ≠ next.target.cls ∨ address ≠ next.address →
        answered.2.read cls address = registry.read cls address := by
  intro registry
  have stands : registry = writeAll { name } definitions := defineAll_fst { name } definitions ledger
  rw [stands]
  refine ⟨fun cls address => ⟨read_writeAll name definitions cls address, rfl⟩,
    fun cls => ⟨pairwise_keysOf _ cls, fun key => mem_keysOf_writeAll⟩,
    fun cls => ⟨isSome_knownHandle_writeAll, ?_, ?_⟩, fun next later => ⟨?_, ?_⟩⟩
  · exact isSome_bind_knownHandle_writeAll Handle.merging_serviceConstructor name definitions cls
  · exact isSome_bind_knownHandle_writeAll Handle.merging_controllerConstructor name definitions cls
  · -- Nothing stands at an address exactly if nothing was defined there.
    have first := read_writeAll name definitions next.target.cls next.address
    rw [← collected_eq_none_iff, ← first]
    exact isChange_outcome_iff
  · exact fun cls address apart => read_write_of_ne _ next.value apart

end Registry

end Trellis
