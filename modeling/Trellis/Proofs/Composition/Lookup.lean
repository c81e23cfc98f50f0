import Trellis.Proofs.Composition.Services
import Trellis.Proofs.Layer.Lookup
/-!
# The services of wired controllers

Every wired controller can look up exactly the services of the composition. The composition goes
through them in order, first by tag and last by class; a controller goes through them in no order
that can be relied on, first by class and last by identifier. Both find the same wherever there is
only one thing to find.
-/

namespace Trellis

namespace Controller

variable {controller : Controller} {cls : Class} {tag : Tag} {subject : Instance}

/-- Registering services of different tags, none of which is registered yet, adds them in order. -/
theorem foldl_register {services : Context}
    (distinct : (Table.keys (controller.services ++ services)).Nodup) :
    services.foldl (fun controller entry => controller.register entry.1 entry.2) controller =
      { controller with services := controller.services ++ services } := by
  induction services generalizing controller with
  | nil => rw [List.append_nil]; rfl
  | cons entry rest ih =>
    obtain ⟨tag, service⟩ := entry
    have unbound : Table.get? controller.services tag = none := by
      rw [Table.get?_eq_none_iff]
      intro bound
      rw [Table.keys, List.map_append, List.nodup_append] at distinct
      exact distinct.2.2 tag bound tag (List.mem_map_of_mem List.mem_cons_self) rfl
    have next : controller.register tag service =
        { controller with services := controller.services ++ [(tag, service)] } := by
      rw [register, Table.put_of_get?_eq_none service unbound]
    rw [List.foldl_cons, next, ih (by simpa using distinct)]
    simp

/-- A service that has to be of a class is the first instance of the class: what is found by the
name of the class alone is none. -/
theorem service_eq_ok_iff :
    controller.service cls = .ok subject ↔ controller.services.ofClass? cls = some subject := by
  unfold service getByClass
  cases found : controller.services.ofClass? cls with
  | some first =>
    have right : first.isOf cls := by
      simpa [Instance.isOf] using (Context.mem_of_ofClass? found).2
    simp [right, bind, Except.bind, pure, Except.pure]
  | none =>
    cases named : controller.services.getByIdentifier? cls.name with
    | none => simp [bind, Except.bind]
    | some other =>
      have wrong : ¬ other.isOf cls := by
        intro right
        obtain ⟨tag, member, -⟩ := Context.mem_of_getByIdentifier? named
        have some : (controller.services.ofClass? cls).isSome :=
          Context.isSome_ofClass?_iff.mpr
            ⟨other, List.mem_map_of_mem member, by simpa [Instance.isOf] using right⟩
        rw [found] at some
        cases some
      simp [wrong, bind, Except.bind, throw, throwThe, MonadExceptOf.throw]

theorem getByTag_eq_ok_iff :
    controller.getByTag tag = .ok subject ↔ controller.services.find? tag = some subject := by
  unfold getByTag
  cases controller.services.find? tag <;> simp

end Controller

namespace Composition

variable {reflection : Reflection} {tasks : List Task} {before start final : Assembly}
  {stop : Option Stop} {composition : Composition} {registry : Registry} {cls : Class}
  {subject : Instance}

/-! ## What wired controllers hold -/

theorem Wiring.services (wiring : Wiring reflection tasks before stop final)
    (fresh : before.composition.controllers = []) :
    ∀ wired ∈ final.composition.controllers,
      wired.controller.services = final.composition.services := by
  obtain ⟨made, left, composition, -⟩ := wiring.composition
  have same : final.composition.services = before.composition.services := by rw [composition]
  refine wiring.forall_wired ?_ fun wired member => absurd (fresh ▸ member) List.not_mem_nil
  intro declared handle mid after wired turn services _
  rw [same, ← services]
  cases turn
  rfl

/-- A set-up that succeeds has built the layer, and all controllers it wired hold the services. -/
theorem services_of_wired (fresh : start.composition.Fresh)
    (ran : (setup reflection).run start = (.ok (), final)) :
    (Table.keys final.composition.services).Nodup ∧
      ∀ wired ∈ final.composition.controllers,
        wired.controller.services = final.composition.services := by
  obtain ⟨stop, setsUp, result⟩ := run_setup_iff.mp ran
  obtain rfl := Stop.result_eq_ok_iff.mp result.symm
  cases setsUp with
  | @done services ledger last composed built wiring =>
    obtain ⟨made, left, composition, -⟩ := wiring.composition
    have same : last.composition.services = services := by rw [composition]; rfl
    refine ⟨?_, wiring.services fresh.controllers⟩
    show (Table.keys last.composition.services).Nodup
    rw [same]
    exact Layer.nodup_keys_of_build built

/-! ## Looking up by class in a composition -/

theorem of_service?_eq_some (found : composition.service? registry cls = some subject) :
    subject ∈ Table.values composition.services ∧ subject.cls = cls := by
  rcases Option.or_eq_some_iff.mp found with tagged | ⟨-, first⟩
  · obtain ⟨bound, right⟩ := Option.filter_eq_some_iff.mp tagged
    exact ⟨Context.mem_of_find? bound, by simpa [Instance.isOf] using right⟩
  · exact Context.mem_of_ofClass? first

theorem isSome_service?_iff : (composition.service? registry cls).isSome ↔
    ∃ subject ∈ Table.values composition.services, subject.cls = cls := by
  constructor
  · intro found
    obtain ⟨subject, found⟩ := Option.isSome_iff_exists.mp found
    exact ⟨subject, of_service?_eq_some found⟩
  · intro instanced
    have last : (composition.services.ofClass? cls).isSome := Context.isSome_ofClass?_iff.mpr instanced
    rw [service?, Option.isSome_or, last, Bool.or_true]

/-- After a set-up that succeeded every wired controller is what registering the services one by one
makes of it. Whatever the order in which it goes through them, it finds what the composition finds:
for a tag, if the tag is bound or at most one bound tag goes by its identifier; for a class, at least
some instance if there is one, and the same one if there is only one. -/
theorem lookups_of_setup (fresh : start.composition.Fresh)
    (ran : (setup reflection).run start = (.ok (), final)) :
    let services := final.composition.services
    ∀ wired ∈ final.composition.controllers,
      wired.controller =
        services.foldl (fun controller entry => controller.register entry.1 entry.2)
          { subject := wired.controller.subject } ∧
      wired.controller.services = services ∧ wired.report.services = services.length ∧
      ∀ order : Context, order.Perm wired.controller.services →
        let controller := { wired.controller with services := order }
        (∀ tag, tag ∈ Table.keys services ∨ services.Sole tag.identifier →
          ∀ subject, controller.getByTag tag = .ok subject ↔
            final.composition.serviceOfTag? tag = some subject) ∧
        ∀ registry cls,
          ((∃ subject, controller.service cls = .ok subject) ↔
            ∃ subject ∈ Table.values services, subject.cls = cls) ∧
          ((∃ subject, final.composition.service? registry cls = some subject) ↔
            ∃ subject ∈ Table.values services, subject.cls = cls) ∧
          ((∀ one ∈ Table.values services, ∀ other ∈ Table.values services,
              one.cls = cls → other.cls = cls → one = other) →
            ∀ subject, controller.service cls = .ok subject ↔
              final.composition.service? registry cls = some subject) := by
  intro services wired member
  obtain ⟨distinct, held⟩ := services_of_wired fresh ran
  have own : wired.controller.services = services := held wired member
  refine ⟨?_, own, ?_, fun order perm => ?_⟩
  · have empty : (Table.keys (Controller.services { subject := wired.controller.subject } ++
        services)).Nodup := distinct
    rw [Controller.foldl_register empty, List.nil_append, ← own]
  · rw [Wired.report, own]
  · rw [own] at perm
    intro controller
    -- The values are the same, so the same classes have instances.
    have instanced : ∀ cls, (∃ subject, controller.service cls = .ok subject) ↔
        ∃ subject ∈ Table.values services, subject.cls = cls := by
      intro cls
      simp only [Controller.service_eq_ok_iff]
      rw [← Option.isSome_iff_exists]
      exact (Context.isSome_ofClass?_of_perm perm).trans Context.isSome_ofClass?_iff
    refine ⟨fun tag definite subject => ?_, fun registry cls => ⟨instanced cls, ?_, ?_⟩⟩
    · rw [Controller.getByTag_eq_ok_iff]
      show order.find? tag = some subject ↔ services.find? tag = some subject
      rw [Context.find?_of_perm distinct perm definite]
    · rw [← Option.isSome_iff_exists]
      exact isSome_service?_iff
    · intro unique subject
      rw [Controller.service_eq_ok_iff]
      constructor
      · intro found
        obtain ⟨member, right⟩ := Context.mem_of_ofClass? found
        have there : subject ∈ Table.values services := (perm.map Prod.snd).mem_iff.mp member
        obtain ⟨other, search⟩ :=
          Option.isSome_iff_exists.mp (isSome_service?_iff.mpr ⟨subject, there, right⟩)
        obtain ⟨known, same⟩ := of_service?_eq_some search
        rw [search, unique subject there other known right same]
      · intro found
        obtain ⟨member, right⟩ := of_service?_eq_some found
        obtain ⟨other, search⟩ := (instanced cls).mpr ⟨subject, member, right⟩
        rw [Controller.service_eq_ok_iff] at search
        obtain ⟨known, same⟩ := Context.mem_of_ofClass? search
        have there : other ∈ Table.values services := (perm.map Prod.snd).mem_iff.mp known
        rw [search, unique subject member other there right same]

/-- In the diamond the page finds the one cache by a tag that was made independently of the bound one
and goes by the same identifier, in whatever order it searches. -/
theorem lookups_of_setup_diamond : ∃ composition final,
    composition.Fresh ∧
      (setup { store := .diamond }).run ⟨composition, {}, {}⟩ = (.ok (), final) ∧
      (final.composition.serviceOfTag? (.custom 7 "cache")).map (·.cls) = some (.named "Cache") ∧
      (final.composition.controllers.map fun wired => wired.report.services) = [4] ∧
      ∀ wired ∈ final.composition.controllers, ∀ order : Context,
        order.Perm wired.controller.services → ∀ subject,
          Controller.getByTag { wired.controller with services := order } (.custom 7 "cache") =
              .ok subject ↔
            final.composition.serviceOfTag? (.custom 7 "cache") = some subject := by
  let start : Assembly := ⟨diamond { logger := {}, config := {} } {}, {}, {}⟩
  have works : ((setup { store := .diamond }).run start).1.toBool := by decide +kernel
  rcases ran : (setup { store := .diamond }).run start with ⟨error | ⟨⟩, final⟩
  · rw [ran] at works
    cases works
  have found : (((setup { store := .diamond }).run start).2.composition.serviceOfTag?
      (.custom 7 "cache")).map (·.cls) = some (.named "Cache") := by decide +kernel
  have counts : (((setup { store := .diamond }).run start).2.composition.controllers.map
      fun wired => wired.report.services) = [4] := by decide +kernel
  have sole : ∀ tag ∈ Table.keys ((setup { store := .diamond }).run start).2.composition.services,
      ∀ other ∈ Table.keys ((setup { store := .diamond }).run start).2.composition.services,
        tag.identifier = "cache" → other.identifier = "cache" → tag = other := by decide +kernel
  rw [ran] at found counts sole
  have fresh := fresh_of_compose (compose_diamond { logger := {}, config := {} } {})
  refine ⟨start.composition, final, fresh, ran, found, counts, fun wired member order perm => ?_⟩
  obtain ⟨-, -, -, lookups⟩ := lookups_of_setup fresh ran wired member
  exact (lookups order perm).1 _ (.inr sole)

end Composition

end Trellis
