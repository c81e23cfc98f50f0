import Trellis.Proofs.Metadata.Writing
import Trellis.Proofs.Object.Outline
/-!
# Registries of blind constructors

A registry is blind if no constructor that can be found in it reads the wiring policy: neither one
of a handle the registry keeps of a class nor one of a handle in a decorator's record. Decorating
with blind handles keeps a registry blind.
-/

namespace Trellis

def MetadataValue.Blind (value : MetadataValue) : Prop :=
  ∀ handle ∈ value.handles, handle.Blind

structure ClassEntry.Blind (entry : ClassEntry) : Prop where
  handle : entry.handle.Blind
  values : ∀ address value, entry.values.get? address = some value → value.Blind

def Registry.Blind (registry : Registry) : Prop :=
  ∀ cls entry, registry.entries.get? cls = some entry → entry.Blind

def Decoration.Blind : Decoration → Prop
  | service handle _ | controller handle _ => handle.Blind
  | module handle metadata => handle.Blind ∧ (MetadataValue.module metadata).Blind
  | route _ _ | param _ _ _ | paramTypes _ _ => True

namespace Registry

variable {registry : Registry} {handle : Handle} {cls : Class}

/-! ## What is found in a blind registry is blind -/

theorem Blind.read (blind : registry.Blind) {address : Address} {value : MetadataValue}
    (found : registry.read cls address = some value) : value.Blind := by
  obtain ⟨entry, known, stands⟩ := Option.bind_eq_some_iff.mp found
  exact (blind cls entry known).values address value stands

theorem Blind.knownHandle (blind : registry.Blind)
    (found : registry.knownHandle cls = some handle) : handle.Blind := by
  obtain ⟨entry, known, rfl⟩ := Option.map_eq_some_iff.mp found
  exact (blind cls entry known).handle

theorem Blind.serviceMetadata? (blind : registry.Blind) {metadata : ServiceMetadata}
    (found : registry.serviceMetadata? cls = some metadata) : metadata.implementation.Blind :=
  blind.read (serviceMetadata?_eq_some_iff.mp found) _ (by simp [MetadataValue.handles])

theorem Blind.moduleMetadata? (blind : registry.Blind) {metadata : ModuleMetadata}
    (found : registry.moduleMetadata? cls = some metadata) :
    (MetadataValue.module metadata).Blind :=
  blind.read (moduleMetadata?_eq_some_iff.mp found)

theorem Blind.serviceConstructor? (blind : registry.Blind) (own : handle.Blind)
    {construct : Constructor} (found : registry.serviceConstructor? handle = some construct) :
    Constructor.Blind construct := by
  rcases Option.or_eq_some_iff.mp found with known | ⟨-, other⟩
  · exact own.service construct known
  · obtain ⟨kept, found, known⟩ := Option.bind_eq_some_iff.mp other
    exact (blind.knownHandle found).service construct known

theorem Blind.controllerConstructor? (blind : registry.Blind) (own : handle.Blind)
    {construct : Constructor} (found : registry.controllerConstructor? handle = some construct) :
    Constructor.Blind construct := by
  rcases Option.or_eq_some_iff.mp found with known | ⟨-, other⟩
  · exact own.controller construct known
  · obtain ⟨kept, found, known⟩ := Option.bind_eq_some_iff.mp other
    exact (blind.knownHandle found).controller construct known

/-! ## Decorating keeps a registry blind -/

theorem blind_nil (name : String) : Blind { name } :=
  fun _ _ found => absurd found nofun

theorem Blind.entryFor (blind : registry.Blind) (own : handle.Blind) :
    (registry.entryFor handle).Blind := by
  unfold Registry.entryFor
  cases known : registry.entries.get? handle.cls with
  | none => exact ⟨own, fun _ _ found => absurd found nofun⟩
  | some entry =>
    obtain ⟨kept, values⟩ := blind handle.cls entry known
    refine ⟨⟨fun construct found => ?_, fun construct found => ?_⟩, values⟩
    · rcases Option.or_eq_some_iff.mp found with first | ⟨-, second⟩
      · exact kept.service construct first
      · exact own.service construct second
    · rcases Option.or_eq_some_iff.mp found with first | ⟨-, second⟩
      · exact kept.controller construct first
      · exact own.controller construct second

end Registry

/-- A value written over another is one of them or a list, in which no handle stands. -/
theorem MetadataValue.Blind.over {value : MetadataValue} (blind : value.Blind)
    {known : Option MetadataValue} (old : ∀ value ∈ known, value.Blind) :
    (value.over known).1.Blind := by
  cases known with
  | none => exact blind
  | some stands =>
    have kept : stands.Blind := old stands rfl
    simp only [MetadataValue.over]
    split
    · cases appended : stands.append? value with
      | none => exact kept
      | some longer =>
        intro handle member
        rw [handles_of_isList (isList_of_append? appended)] at member
        cases member
    · exact kept

namespace Registry

variable {registry : Registry} {handle : Handle}

theorem Blind.write (blind : registry.Blind) (own : handle.Blind) {address : Address}
    {value : MetadataValue} (written : value.Blind) :
    (registry.write handle address value).Blind := by
  have before := blind.entryFor own
  -- What stands at the class that was written to, and what stands elsewhere.
  intro cls entry found
  rcases Table.get?_put_eq_some found with ⟨-, rfl⟩ | kept
  · refine ⟨before.handle, fun other value stands => ?_⟩
    rcases Table.get?_put_eq_some stands with ⟨-, rfl⟩ | stood
    · exact written.over fun old known => before.values address old known
    · exact before.values other value stood
  · exact blind cls entry kept

theorem Blind.settleTag (blind : registry.Blind) (cls : Class) (tag : Option Tag) :
    (registry.settleTag cls tag).Blind := by
  unfold Registry.Blind
  rw [entries_settleTag]
  exact blind

theorem Blind.decorate (blind : registry.Blind) {decoration : Decoration}
    (own : decoration.Blind) : (registry.decorate decoration).Blind := by
  cases decoration with
  | service handle tag =>
    refine (blind.settleTag handle.cls tag).write own fun other member => ?_
    obtain rfl := List.mem_singleton.mp member
    exact own
  | controller handle basePath => exact blind.write own fun _ member => absurd member nofun
  | module handle metadata => exact blind.write own.1 own.2
  | route cls route => exact blind.write cls.blind_handle fun _ member => absurd member nofun
  | param cls handler param =>
    exact blind.write cls.blind_handle fun _ member => absurd member nofun
  | paramTypes cls types => exact blind.write cls.blind_handle fun _ member => absurd member nofun

theorem Blind.foldl_decorate (blind : registry.Blind) {decorations : List Decoration}
    (all : ∀ decoration ∈ decorations, decoration.Blind) :
    (decorations.foldl Registry.decorate registry).Blind :=
  List.foldlRecOn decorations _ blind fun _ kept decoration member =>
    kept.decorate (all decoration member)

end Registry

end Trellis
