import Trellis.Composition.Inquiry
import Trellis.Object.Blueprint
import Trellis.Proofs.Composition.Composability
import Trellis.Proofs.Metadata.Writing
/-!
# What inquiries leave behind

Inquiries write no values, and all but one kind of them leave the registry as it is. A service that is
looked up by its class is looked up under the tag of the class; if the class is not declared a service,
the tag is handed out for that, and a tag of its own that the class is given afterwards comes too late.

* `Inquiry.claimed?` is the class whose tag an inquiry hands out.
* `run_askAll` says what any number of inquiries leaves: the registry with these tags handed out.
* `registry_of_inquiries` says what that is to a class, and to its later registration.
-/

namespace Trellis

namespace Registry

variable {registry : Registry} {cls : Class} {classes : List Class}

theorem claimTag_of_hasTag (bound : registry.hasTag cls) : registry.claimTag cls = registry :=
  if_pos bound

theorem foldl_claimTag_of_hasTag (bound : ∀ cls ∈ classes, registry.hasTag cls) :
    classes.foldl claimTag registry = registry := by
  induction classes with
  | nil => rfl
  | cons first rest ih =>
    rw [List.foldl_cons, claimTag_of_hasTag (bound first List.mem_cons_self)]
    exact ih fun cls member => bound cls (List.mem_cons_of_mem _ member)

/-- The tags of other classes stay as they are when tags are handed out. -/
theorem get?_foldl_claimTag_of_notMem (other : cls ∉ classes) :
    (classes.foldl claimTag registry).tags.get? cls = registry.tags.get? cls := by
  cases after : (classes.foldl claimTag registry).tags.get? cls with
  | some tag =>
    rcases get?_foldl_claimTag after with before | ⟨claimed, -⟩
    · exact before.symm
    · exact absurd claimed other
  | none =>
    cases before : registry.tags.get? cls with
    | none => rfl
    | some tag => exact after.symm.trans (bound_foldl_claimTag before classes)

/-- Handing tags out changes something exactly if one of the classes had none. -/
theorem foldl_claimTag_eq_self_iff :
    classes.foldl claimTag registry = registry ↔ ∀ cls ∈ classes, registry.hasTag cls := by
  refine ⟨fun same cls member => ?_, foldl_claimTag_of_hasTag⟩
  have bound : (classes.foldl claimTag registry).tags.get? cls = some (registry.tagOf cls) :=
    bound_foldl_claimTag_of_mem member
  rw [same] at bound
  rw [hasTag, Table.has, bound]
  rfl

/-! ## Registering a class afterwards -/

/-- Two registries with the same values and the same tag for a class write the same when the class is
made a service. -/
theorem entries_decorate_service_congr {one other : Registry} {handle : Handle}
    {explicit : Option Tag} (entries : one.entries = other.entries)
    (tags : (one.settleTag handle.cls explicit).tagOf handle.cls =
      (other.settleTag handle.cls explicit).tagOf handle.cls) :
    (one.decorate (.service handle explicit)).entries =
      (other.decorate (.service handle explicit)).entries := by
  simp only [decorate, written, write, outcome, entryFor, entries_settleTag, entries, tags]

/-- A class that has no tag in either registry, or the same one in both, is bound to the same tag in
both when it asks for one. -/
theorem get?_bindTag_congr {one other : Registry} {tag : Tag}
    (same : one.tags.get? cls = other.tags.get? cls) :
    (one.bindTag cls tag).tags.get? cls = (other.bindTag cls tag).tags.get? cls := by
  have known : one.hasTag cls = other.hasTag cls := by rw [hasTag, Table.has, same]; rfl
  unfold bindTag
  rw [known]
  split
  · exact same
  · show (one.tags.put cls tag).get? cls = (other.tags.put cls tag).get? cls
    rw [Table.get?_put_self, Table.get?_put_self]

theorem tagOf_bindTag_congr {one other : Registry} {tag : Tag}
    (same : one.tags.get? cls = other.tags.get? cls) :
    (one.bindTag cls tag).tagOf cls = (other.bindTag cls tag).tagOf cls := by
  have bound := bound_bindTag_self one cls tag
  rw [get?_bindTag_congr same, bound_bindTag_self] at bound
  exact (Option.some.inj bound).symm

end Registry

/-- The class whose tag an inquiry has handed out: one that is looked up and not declared a service. -/
def Inquiry.claimed? (registry : Registry) : Inquiry → Option Class
  | .service cls => if (registry.serviceTag? cls).isSome then none else some cls
  | _ => none

namespace Composition

variable {composition : Composition} {registry : Registry}

/-- The classes whose tags some inquiries have handed out. -/
def claimedBy (registry : Registry) (inquiries : List (Composition × Inquiry)) : List Class :=
  inquiries.filterMap fun (_, inquiry) => inquiry.claimed? registry

/-- One inquiry leaves the registry as it is or hands one tag out. -/
theorem run_ask (composition : Composition) (inquiry : Inquiry) (registry : Registry) :
    (composition.ask inquiry registry).2 =
      (inquiry.claimed? registry).toList.foldl Registry.claimTag registry := by
  cases inquiry with
  | service cls =>
    show afterLookup registry cls = _
    cases declared : registry.serviceTag? cls with
    | none => simp [afterLookup, Inquiry.claimed?, declared]
    | some tag => simp [afterLookup, Inquiry.claimed?, declared]
  | serviceOfTag | controller | typedController | report | registeredTag | registeredClass
  | registered => rfl

theorem claimed?_foldl_claimTag (registry : Registry) (classes : List Class) (inquiry : Inquiry) :
    inquiry.claimed? (classes.foldl Registry.claimTag registry) = inquiry.claimed? registry := by
  cases inquiry with
  | service cls => simp [Inquiry.claimed?, Registry.serviceTag?]
  | serviceOfTag | controller | typedController | report | registeredTag | registeredClass
  | registered => rfl

/-- Any inquiries leave the registry with the tags of the looked up classes handed out. -/
theorem run_askAll (inquiries : List (Composition × Inquiry)) (registry : Registry) :
    (askAll inquiries registry).2 =
      (claimedBy registry inquiries).foldl Registry.claimTag registry := by
  induction inquiries generalizing registry with
  | nil => rfl
  | cons first rest ih =>
    obtain ⟨composition, inquiry⟩ := first
    have later : (askAll ((composition, inquiry) :: rest) registry).2 =
        (askAll rest (composition.ask inquiry registry).2).2 := by
      simp only [askAll, List.mapM_cons]
      rfl
    -- What is a service does not change on the way, so neither does what is handed out.
    have steady : claimedBy (composition.ask inquiry registry).2 rest = claimedBy registry rest := by
      rw [run_ask]
      simp only [claimedBy, claimed?_foldl_claimTag]
    have first : claimedBy registry ((composition, inquiry) :: rest) =
        (inquiry.claimed? registry).toList ++ claimedBy registry rest := by
      simp only [claimedBy, List.filterMap_cons]
      cases inquiry.claimed? registry <;> rfl
    rw [later, ih, steady, run_ask, first, List.foldl_append]

/-- After any inquiries, to any compositions, all values are what they were. The registry is the same
exactly if every class that was looked up and is no service had a tag; other classes keep what they
had, and these have the tag that they would have been given next. A class with none of its own is made
a service under the tag it asks for, as if nothing had been asked, unless it was looked up before it
was a service: then it has its canonical tag and not the one it asks for. -/
theorem registry_of_inquiries (inquiries : List (Composition × Inquiry)) (registry : Registry) :
    let after := (askAll inquiries registry).2
    after.entries = registry.entries ∧
      (after = registry ↔ ∀ cls ∈ claimedBy registry inquiries, registry.hasTag cls) ∧
      (∀ cls, after.tags.get? cls =
        if cls ∈ claimedBy registry inquiries then some (registry.tagOf cls)
        else registry.tags.get? cls) ∧
      ∀ handle tag,
        let later := after.decorate (.service handle (some tag))
        let asIf := registry.decorate (.service handle (some tag))
        (handle.cls ∉ claimedBy registry inquiries ∨ registry.hasTag handle.cls →
          later.tags.get? handle.cls = asIf.tags.get? handle.cls ∧ later.entries = asIf.entries) ∧
        (handle.cls ∈ claimedBy registry inquiries → registry.hasTag handle.cls = false →
          later.tags.get? handle.cls = some (.canonical registry.name handle.cls) ∧
            asIf.tags.get? handle.cls = some tag) := by
  intro after
  have claimed : after = (claimedBy registry inquiries).foldl Registry.claimTag registry :=
    run_askAll inquiries registry
  have entries : after.entries = registry.entries := by
    rw [claimed, Registry.entries_foldl_claimTag]
  have tags : ∀ cls, after.tags.get? cls =
      if cls ∈ claimedBy registry inquiries then some (registry.tagOf cls)
      else registry.tags.get? cls := by
    intro cls
    rw [claimed]
    split
    next member => exact Registry.bound_foldl_claimTag_of_mem member
    next other => exact Registry.get?_foldl_claimTag_of_notMem other
  refine ⟨entries, ?_, tags, fun handle tag => ⟨fun kept => ?_, fun member unbound => ?_⟩⟩
  · rw [claimed]
    exact Registry.foldl_claimTag_eq_self_iff
  · have same : after.tags.get? handle.cls = registry.tags.get? handle.cls := by
      rw [tags]
      split
      next member =>
        obtain ⟨bound, found⟩ := Option.isSome_iff_exists.mp (kept.resolve_left (absurd member))
        rw [Registry.tagOf_of_bound found, found]
      next => rfl
    exact ⟨Registry.get?_bindTag_congr same,
      Registry.entries_decorate_service_congr entries (Registry.tagOf_bindTag_congr same)⟩
  · have free : registry.tags.get? handle.cls = none := by
      simpa [Registry.hasTag, Table.has] using unbound
    have bound : after.tags.get? handle.cls = some (.canonical registry.name handle.cls) := by
      rw [tags, if_pos member, Registry.tagOf, free]
      rfl
    refine ⟨Registry.bound_bindTag bound handle.cls tag, ?_⟩
    show (registry.bindTag handle.cls tag).tags.get? handle.cls = some tag
    rw [Registry.bound_bindTag_self]
    exact congrArg some (Registry.tagOf_settleTag_of_unbound free (some tag))

/-! ## A class that is looked up before it is a service -/

/-- A service that no module provides and that is not registered yet. -/
def notes : Handle := Blueprint.handle { cls := .named "Notes" } .provider

/-- A registry with a module that provides nothing. -/
def noteless : Registry :=
  Registry.decorate { name := "noteless" } (.module (Class.named "App").handle {})

/-- The registry after the module was composed. -/
def noted : Registry := noteless.claimTag .logger

theorem registry_compose_noteless :
    (compose noteless (.named "App") { logger := {}, config := {} } {}).1.2 = noted := by
  rw [compose_eq_composeWithin]
  rfl

/-- What looking the service up in the module, which is set up, leaves of its tag: it is not found,
but it has its canonical tag from then on, and is registered under that one. -/
theorem told_noteless : ((composeWithin noteless (.named "App") { logger := {}, config := {} }
    {}).1.1.toOption.map fun composition =>
      let outcome := (setup { store := noted }).run ⟨composition, {}, {}⟩
      let after := (askAll [(outcome.2.composition, .service notes.cls)] noted).2
      let register (registry : Registry) :=
        (registry.decorate (.service notes (some (.custom 0 "notebook")))).tagOf notes.cls
      (outcome.1.toBool, (outcome.2.composition.service? noted notes.cls).isSome,
        noted.hasTag notes.cls, after.hasTag notes.cls, register noted, register after)) =
    some (true, false, false, true, .custom 0 "notebook", .canonical "noteless" notes.cls) := by
  decide +kernel

/-- Asked for a service that is not registered yet, a composition binds its tag. The tag that the
service is then registered with is not the one it asks for, as it would have been. -/
theorem not_frame_noteless : ∃ composition final,
    (compose noteless (.named "App") { logger := {}, config := {} } {}).1 = (.ok composition, noted) ∧
      (setup { store := noted }).run ⟨composition, {}, {}⟩ = (.ok (), final) ∧
      let after := (askAll [(final.composition, .service notes.cls)] noted).2
      final.composition.service? noted notes.cls = none ∧
      noted.hasTag notes.cls = false ∧ after.hasTag notes.cls = true ∧
      (noted.decorate (.service notes (some (.custom 0 "notebook")))).tagOf notes.cls =
        .custom 0 "notebook" ∧
      (after.decorate (.service notes (some (.custom 0 "notebook")))).tagOf notes.cls =
        .canonical "noteless" notes.cls := by
  obtain ⟨composition, composed, shown⟩ := exists_compose_of_within told_noteless
  rcases ran : (setup { store := noted }).run ⟨composition, {}, {}⟩ with ⟨error | ⟨⟩, final⟩
  · rw [ran] at shown
    cases shown
  · rw [ran] at shown
    obtain ⟨-, shown⟩ := Prod.mk.inj shown
    obtain ⟨missing, shown⟩ := Prod.mk.inj shown
    obtain ⟨unbound, shown⟩ := Prod.mk.inj shown
    obtain ⟨bound, shown⟩ := Prod.mk.inj shown
    obtain ⟨asked, given⟩ := Prod.mk.inj shown
    exact ⟨composition, final, Prod.ext composed registry_compose_noteless, ran,
      Option.isSome_eq_false_iff.mp missing |> Option.isNone_iff_eq_none.mp, unbound, bound, asked,
      given⟩

end Composition

end Trellis
