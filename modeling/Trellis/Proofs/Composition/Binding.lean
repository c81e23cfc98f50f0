import Trellis.Proofs.Composition.Process
import Trellis.Proofs.Metadata.History
/-!
# Which tags classes are bound to

The tag of a class stands in two places: it is bound in the registry, and a class that is a service
has it in its record as well. Decorations ask for tags, lookups and compositions hand canonical ones
out, and they come in any order; still both places agree, and a tag that a class once has stays its
tag.

* `Registry.Accounted` is the invariant; each operation has a lemma that says what it keeps.
* `Process.serve` answers calls, and `accounted_serve` is the step.
* `tags_of_calls` says what holds after any calls.
-/

namespace Trellis

/-- The decoration asks for a tag of its own for a class. -/
def Decoration.Asks (decoration : Decoration) (cls : Class) (tag : Tag) : Prop :=
  ∃ handle, decoration = .service handle (some tag) ∧ handle.cls = cls

namespace Registry

/-- A service stands under the tag that is bound to its class, and a bound tag is the canonical one of
its class or was asked for. -/
structure Accounted (registry : Registry) (asked : Class → Tag → Prop) : Prop where
  services : ∀ cls metadata, registry.serviceMetadata? cls = some metadata →
    registry.tags.get? cls = some metadata.tag
  origins : ∀ cls tag, registry.tags.get? cls = some tag →
    tag = .canonical registry.name cls ∨ asked cls tag

variable {registry : Registry} {asked : Class → Tag → Prop} {cls owner : Class} {tag : Tag}

/-! ## What keeps tags accounted for -/

theorem accounted_empty (name : String) (asked : Class → Tag → Prop) : Accounted { name } asked :=
  ⟨fun _ _ declared => absurd declared nofun, fun _ _ found => absurd found nofun⟩

theorem Accounted.mono {more : Class → Tag → Prop} (accounted : registry.Accounted asked)
    (wider : ∀ cls tag, asked cls tag → more cls tag) : registry.Accounted more :=
  ⟨accounted.services, fun cls tag found =>
    (accounted.origins cls tag found).imp_right (wider cls tag)⟩

theorem Accounted.claimTag (accounted : registry.Accounted asked) (owner : Class) :
    (registry.claimTag owner).Accounted asked where
  services cls metadata declared := by
    rw [serviceMetadata?_claimTag] at declared
    exact bound_claimTag (accounted.services cls metadata declared) owner
  origins cls tag found := by
    rw [Registry.claimTag, name_bindTag]
    rcases get?_bindTag found with before | ⟨rfl, rfl⟩
    · exact accounted.origins cls tag before
    · exact .inl rfl

theorem Accounted.foldl_claimTag (accounted : registry.Accounted asked) (classes : List Class) :
    (classes.foldl Registry.claimTag registry).Accounted asked := by
  induction classes generalizing registry with
  | nil => exact accounted
  | cons first rest ih => exact ih (accounted.claimTag first)

/-- A decoration that makes a class a service writes the tag that is bound by then. -/
theorem Accounted.decorate {decoration : Decoration} (accounted : registry.Accounted asked)
    (asks : ∀ cls tag, decoration.Asks cls tag → asked cls tag) :
    (registry.decorate decoration).Accounted asked where
  services cls metadata declared := by
    rcases eq_of_serviceMetadata?_decorate declared with before | ⟨explicit, rfl, rfl, settled⟩
    · exact (registry.grows_decorate decoration).tags cls _ (accounted.services cls metadata before)
    · rw [settled]
      exact bound_settleTag_self registry metadata.implementation.cls explicit
  origins cls tag found := by
    rw [name_decorate]
    cases decoration with
    | service handle explicit =>
      -- Only here tags are bound: the one asked for or, without one, the canonical one.
      cases explicit with
      | none => simpa [Registry.claimTag] using (accounted.claimTag handle.cls).origins cls tag found
      | some wanted =>
        rcases get?_bindTag found with before | ⟨rfl, rfl⟩
        · exact accounted.origins cls tag before
        · exact .inr (asks handle.cls tag ⟨handle, rfl, rfl⟩)
    | controller | route | param | module | paramTypes => exact accounted.origins cls tag found

/-- Whatever is written elsewhere, the records of services stay. -/
theorem Accounted.write {target : Handle} {address : Address} {value : MetadataValue}
    (accounted : registry.Accounted asked) (elsewhere : address.key ≠ MetadataKey.service) :
    (registry.write target address value).Accounted asked where
  services cls metadata declared := by
    rw [serviceMetadata?_eq_some_iff, read_write_of_ne, ← serviceMetadata?_eq_some_iff] at declared
    · exact accounted.services cls metadata declared
    · exact .inr fun same => elsewhere (congrArg Address.key same).symm
  origins := accounted.origins

/-- A class that is a service is one under its tag. -/
theorem Accounted.serviceTag? (accounted : registry.Accounted asked) {metadata : ServiceMetadata}
    (declared : registry.serviceMetadata? cls = some metadata) :
    registry.serviceTag? cls = some (registry.tagOf cls) ∧ metadata.tag = registry.tagOf cls := by
  have same : registry.tagOf cls = metadata.tag :=
    tagOf_of_bound (accounted.services cls metadata declared)
  rw [Registry.serviceTag?, declared, same]
  exact ⟨rfl, rfl⟩

/-- A class that was made a service goes by the tag that is bound to it. -/
theorem Accounted.bound_tagOfService {handle : Handle} {explicit : Option Tag}
    (accounted : (registry.decorate (.service handle explicit)).Accounted asked) :
    let after := registry.decorate (.service handle explicit)
    after.tags.get? handle.cls = some (after.tagOfService handle.cls) := by
  intro after
  have bound : after.tags.get? handle.cls = some (after.tagOf handle.cls) :=
    bound_settleTag_self registry handle.cls explicit
  rw [tagOfService]
  cases declared : after.serviceMetadata? handle.cls with
  | none =>
    rw [Registry.serviceTag?, declared]
    exact bound
  | some metadata =>
    rw [(accounted.serviceTag? declared).1]
    exact bound

/-! ## Layers of services -/

/-- The layer of a service provides its tag alone; it is there if a constructor is. -/
theorem run_serviceLayer {metadata : ServiceMetadata} {handle : Handle} (app : App) (ledger : Ledger)
    (declared : registry.serviceMetadata? handle.cls = some metadata) :
    ((∃ layer after, (registry.serviceLayer handle app).run ledger = (.ok layer, after)) ↔
      (metadata.implementation.serviceConstructor.or handle.serviceConstructor).isSome) ∧
    ∀ layer after, (registry.serviceLayer handle app).run ledger = (.ok layer, after) →
      layer.tags = [metadata.tag] := by
  cases known : metadata.implementation.serviceConstructor.or handle.serviceConstructor with
  | none =>
    have failed : ∃ error, (registry.serviceLayer handle app).run ledger = (.error error, ledger) := by
      simp only [serviceLayer, declared, ServiceMetadata.provision, known]
      exact ⟨_, rfl⟩
    obtain ⟨error, failed⟩ := failed
    have never (layer : Layer) (after : Ledger) :
        (registry.serviceLayer handle app).run ledger ≠ (.ok layer, after) := by
      intro ran
      cases failed.symm.trans ran
    refine ⟨⟨?_, fun there => ?_⟩, fun layer after ran => absurd ran (never layer after)⟩
    · rintro ⟨layer, after, ran⟩
      exact absurd ran (never layer after)
    · cases there
  | some construct =>
    have made : ∃ provision after, provision.tag = metadata.tag ∧
        (registry.serviceLayer handle app).run ledger = (.ok [provision], after) := by
      simp only [serviceLayer, declared, ServiceMetadata.provision, known]
      exact ⟨_, _, rfl, rfl⟩
    obtain ⟨provision, after, tagged, made⟩ := made
    refine ⟨⟨fun _ => rfl, fun _ => ⟨[provision], after, made⟩⟩, fun layer later ran => ?_⟩
    cases made.symm.trans ran
    rw [← tagged]
    rfl

end Registry

namespace Process

/-! ## Calls -/

/-- What a process may be asked to do. Values may be written at any address but that of the record
that makes a class a service. -/
inductive Call where
  | deed (deed : Deed)
  /-- Hands the tag of a class out. -/
  | claim (cls : Class)
  /-- Looks a service up by its class. -/
  | lookup (cls : Class)
  | define (definition : Definition) (elsewhere : definition.address.key ≠ MetadataKey.service)

/-- The call asks for a tag of its own for a class. -/
def Call.Asks (call : Call) (cls : Class) (tag : Tag) : Prop :=
  ∃ decoration : Decoration, call = .deed (.decorate decoration) ∧ decoration.Asks cls tag

/-- The process after a call. -/
def serve (process : Process) : Call → Process
  | .deed deed => process.after deed
  | .claim cls => { process with registry := process.registry.claimTag cls }
  | .lookup cls => { process with registry := Composition.afterLookup process.registry cls }
  | .define definition _ =>
    let ((_, registry), ledger) := process.registry.define definition.target definition.address
      definition.value process.ledger
    { process with registry, ledger }

/-- The class a call asks about and the tag it answers with. -/
def answer? (process : Process) (call : Call) : Option (Class × Tag) :=
  match call with
  | .deed (.decorate (.service handle _)) =>
    some (handle.cls, (process.serve call).registry.tagOfService handle.cls)
  | .claim cls => some (cls, process.registry.tagOf cls)
  | .deed _ | .lookup _ | .define .. => none

variable {process : Process} {asked : Class → Tag → Prop}

theorem grows_serve (process : Process) (call : Call) :
    process.registry.Grows (process.serve call).registry := by
  cases call with
  | deed deed => exact process.grows_after deed
  | claim cls => exact process.registry.grows_foldl_claimTag [cls]
  | lookup cls =>
    show process.registry.Grows (Composition.afterLookup process.registry cls)
    unfold Composition.afterLookup
    split
    · exact .refl process.registry
    · exact process.registry.grows_foldl_claimTag [cls]
  | define definition elsewhere => exact process.registry.grows_write ..

/-- Every call keeps the tags accounted for. -/
theorem accounted_serve (accounted : process.registry.Accounted asked) {call : Call}
    (asks : ∀ cls tag, call.Asks cls tag → asked cls tag) :
    (process.serve call).registry.Accounted asked := by
  cases call with
  | deed deed =>
    cases deed with
    | decorate decoration =>
      exact accounted.decorate fun cls tag wanted => asks cls tag ⟨decoration, rfl, wanted⟩
    | create cls app =>
      obtain ⟨⟨classes, registry⟩, -⟩ := process.after_create cls app
      show (process.after (.create cls app)).registry.Accounted asked
      rw [registry]
      exact accounted.foldl_claimTag classes
    | setUp index =>
      show (process.after (.setUp index)).registry.Accounted asked
      rcases process.after_setUp index with same | ⟨_, -, _, _, -, same⟩ <;> rw [same]
      · exact accounted
      · exact accounted
  | claim cls => exact accounted.claimTag cls
  | lookup cls =>
    show (Composition.afterLookup process.registry cls).Accounted asked
    unfold Composition.afterLookup
    split
    · exact accounted
    · exact accounted.claimTag cls
  | define definition elsewhere => exact accounted.write elsewhere

/-- The tag a call answers with is the one bound to the class from then on. -/
theorem bound_of_answer? (accounted : process.registry.Accounted asked) {call : Call} {cls : Class}
    {tag : Tag} (answered : process.answer? call = some (cls, tag)) :
    (process.serve call).registry.tags.get? cls = some tag := by
  cases call with
  | deed deed =>
    cases deed with
    | decorate decoration =>
      cases decoration with
      | service handle explicit =>
        cases answered
        have after : (process.registry.decorate (.service handle explicit)).Accounted
            fun _ _ => True :=
          (accounted.mono fun _ _ _ => trivial).decorate fun _ _ _ => trivial
        exact after.bound_tagOfService
      | controller | route | param | module | paramTypes => cases answered
    | create | setUp => cases answered
  | claim owner =>
    cases answered
    exact Registry.bound_foldl_claimTag_of_mem (List.mem_singleton_self _)
  | lookup | define => cases answered

/-! ## Any calls -/

theorem grows_foldl_serve (process : Process) (calls : List Call) :
    process.registry.Grows (calls.foldl serve process).registry := by
  induction calls generalizing process with
  | nil => exact .refl process.registry
  | cons first rest ih => exact (process.grows_serve first).trans (ih _)

theorem accounted_foldl_serve (accounted : process.registry.Accounted asked) (calls : List Call)
    (asks : ∀ call ∈ calls, ∀ cls tag, call.Asks cls tag → asked cls tag) :
    (calls.foldl serve process).registry.Accounted asked := by
  induction calls generalizing process with
  | nil => exact accounted
  | cons first rest ih =>
    refine ih (accounted_serve accounted (asks first List.mem_cons_self)) ?_
    exact fun call member => asks call (List.mem_cons_of_mem _ member)

/-- Whatever is called, in any order:

* a class keeps the tag that is bound to it, and every later answer about the class is that tag;
* what is answered is bound from then on;
* a class that is a service is one under the tag it has, and its layer, if there is a constructor,
  provides this tag and no other;
* two classes have a common tag only if it was asked for, for one of them. -/
theorem tags_of_calls (host : MetadataSource) (name : String) (calls later : List Call) :
    let before := calls.foldl serve { host, registry := { name } }
    let process := later.foldl serve before
    (∀ cls bound, before.registry.tags.get? cls = some bound →
      process.registry.tags.get? cls = some bound) ∧
    (∀ call cls tag, process.answer? call = some (cls, tag) →
      (process.serve call).registry.tags.get? cls = some tag ∧
        ∀ bound, before.registry.tags.get? cls = some bound → tag = bound) ∧
    (∀ handle metadata, process.registry.serviceMetadata? handle.cls = some metadata →
      process.registry.serviceTag? handle.cls = some (process.registry.tagOf handle.cls) ∧
        ∀ app ledger,
          ((∃ layer after,
            (process.registry.serviceLayer handle app).run ledger = (.ok layer, after)) ↔
              (metadata.implementation.serviceConstructor.or handle.serviceConstructor).isSome) ∧
          ∀ layer after, (process.registry.serviceLayer handle app).run ledger = (.ok layer, after) →
            layer.tags = [process.registry.tagOf handle.cls]) ∧
    ∀ one two tag, one ≠ two → process.registry.tags.get? one = some tag →
      process.registry.tags.get? two = some tag →
        ∃ call ∈ calls ++ later, call.Asks one tag ∨ call.Asks two tag := by
  intro before process
  have all : process = (calls ++ later).foldl serve { host, registry := { name } } :=
    List.foldl_append.symm
  have accounted : process.registry.Accounted fun cls tag =>
      ∃ call ∈ calls ++ later, call.Asks cls tag := by
    rw [all]
    exact accounted_foldl_serve (Registry.accounted_empty name _) (calls ++ later)
      fun call member cls tag asks => ⟨call, member, asks⟩
  have kept := (grows_foldl_serve before later).tags
  refine ⟨kept, fun call cls tag answered => ?_, fun handle metadata declared => ?_,
    fun one two tag apart first second => ?_⟩
  · have bound := bound_of_answer? accounted answered
    refine ⟨bound, fun known stood => ?_⟩
    have still := (process.grows_serve call).tags cls known (kept cls known stood)
    exact Option.some.inj (bound.symm.trans still)
  · obtain ⟨tagged, same⟩ := accounted.serviceTag? declared
    rw [← same] at tagged ⊢
    exact ⟨tagged, fun app ledger => Registry.run_serviceLayer app ledger declared⟩
  · rcases accounted.origins one tag first with rfl | ⟨call, member, asks⟩
    · rcases accounted.origins two _ second with same | ⟨call, member, asks⟩
      · -- Canonical tags of one registry tell their classes apart.
        cases same
        exact absurd rfl apart
      · exact ⟨call, member, .inr asks⟩
    · exact ⟨call, member, .inl asks⟩

end Process

end Trellis
