import Trellis.Proofs.Composition.Objects
import Trellis.Proofs.Composition.Shuffling
/-!
# Launches do not depend on each other

Launching a module leaves traces: tags are handed out while it is composed, also if that fails half-way,
and the resolver remembers how controllers were resolved. Neither shows when the module is launched
again. What is left of the registry says the same as before, under the same tags (`Registry.Renamed id`),
and a resolver that was asked before answers as it did then (`Resolver.Replays`). So both launches go the
same way, and each makes its own objects.
-/

namespace Trellis

namespace Composition

variable {registry other : Registry} {host : MetadataSource} {resolver again : Resolver} {root : Class}
  {app : App}

/-- On registries that say the same under other tags, and with resolvers that give the same answers,
launches tell the same, whatever was done before. -/
theorem told_launch_renamed {rename : Tag → Tag} (keeps : Tag.Renaming rename)
    (renamed : registry.Renamed rename other) (steady : registry.Steady) (ledger later : Ledger)
    (replays : again.Replays resolver (launch host registry resolver root app ledger).1.resolver) :
    (launch host other again root app later).1.told =
      (launch host registry resolver root app ledger).1.told := by
  cases composed : (compose registry root app ledger).1.1 with
  | error error =>
    have recomposed := compose_renamed_of_error renamed steady composed later
    rw [launch_of_error composed, launch_of_error recomposed]
    rfl
  | ok one =>
    obtain ⟨two, recomposed, twin⟩ := exists_twin_of_compose keeps renamed steady composed later
    obtain ⟨stop, final, setsUp, launched⟩ := exists_launch_of_composed host resolver composed
    rw [launched] at replays ⊢
    obtain ⟨last, resumed, same⟩ := twin (compose other root app later).2 setsUp replays
    rw [launch_of_setsUp recomposed resumed]
    -- The same stops both, and what has been reached by then is reported alike.
    have report : last.composition.report = final.composition.report := (same.report_eq keeps).symm
    show Except.ok (last.composition.report, Stop.result stop) = _
    rw [report]
    rfl

/-- A module is launched, whether it can be composed and set up or fails anywhere on the way. The registry
is the same afterwards but for tags: those that were bound stay bound, and the only new ones are canonical
tags of the logger and of plain providers that the module leads to.

Launched again on what is left of the registry, whatever was done in between, the module tells the same:
the same error, or the same report. For that, constructors must be deterministic, and the resolver must
be as it was when the first launch began (each launch has its own) or remember what it remembered when
that launch ended (both share one). If constructors make new objects, no service and no controller of one
module is an object of the other. -/
theorem launch_again (steady : registry.Steady) (host : MetadataSource) (resolver : Resolver)
    (root : Class) (app : App) (ledger : Ledger) :
    let first := launch host registry resolver root app ledger
    registry.SameButTags root first.1.registry ∧
      ∀ (again : Resolver) (later : Ledger), again.Replays resolver first.1.resolver →
        let second := launch host first.1.registry again root app later
        second.1.told = first.1.told ∧
          ((∀ construct, registry.Finds construct → Constructor.Allots construct) →
            first.2.Precedes later → first.1.objects.Disjoint second.1.objects) := by
  intro first
  obtain ⟨classes, handed, -⟩ := exists_claimed_of_compose registry root app ledger
  have left : first.1.registry = classes.foldl Registry.claimTag registry :=
    (registry_launch host registry resolver root app ledger).trans handed
  refine ⟨?_, fun again later replays => ⟨?_, fun allots begins => ?_⟩⟩
  · have same := sameButTags_of_compose registry root app ledger
    rwa [← registry_launch host registry resolver root app ledger] at same
  · have renamed : registry.Renamed id first.1.registry := by
      rw [left]
      exact (Registry.Renamed.refl registry).foldl_claimTag [] classes
    exact told_launch_renamed Tag.renaming_id renamed steady ledger later replays
  · have still : ∀ construct, first.1.registry.Finds construct → Constructor.Allots construct := by
      intro construct finds
      rw [left] at finds
      exact allots construct (Registry.finds_foldl_claimTag finds)
    intro object earlier new
    have before := made_launch allots host resolver root app ledger object earlier
    have after := made_launch still host again root app later object new
    exact before.ne after begins rfl

end Composition

/-! ## The kiosk, launched twice -/

namespace Kiosk

def registry : Registry := batch.foldl Registry.decorate { name := "kiosk" }

def launch (registry : Registry) (resolver : Resolver) : Logged Composition.Launched :=
  Composition.launch .emitted registry resolver (.named "Kiosk") { logger := {}, config := {} }

theorem steady_registry : registry.Steady :=
  Registry.steady_batch deterministic_constructors madeFrom_batch

theorem allots_constructors {construct : Constructor} (finds : registry.Finds construct) :
    Constructor.Allots construct := by
  obtain ⟨cls, rfl | rfl⟩ := Registry.eq_of_finds_batch madeFrom_batch finds
  · unfold constructors
    dsimp only
    split
    · exact clock.allots_constructor
    · exact till.allots_constructor
  · exact page.allots_constructor

/-- The first launch hands out the tag of the clock, which is no service, and the second one goes on
with the resolver and the ledger of the first. Both wire the page, to objects of their own. -/
theorem launch_again_kiosk :
    let first := launch registry {} {}
    let second := launch first.1.registry first.1.resolver first.2
    registry.tags.get? clock.cls = none ∧
      first.1.registry.tags.get? clock.cls = some (.canonical "kiosk" clock.cls) ∧
      first.1.told.toOption.map (fun (report, result) =>
          (report.controllers.map (·.dependencies), result.toBool)) =
        some ([["Clock", "Till"]], true) ∧
      second.1.told = first.1.told ∧
      first.1.objects = [.logger 1, .constructed 1, .constructed 2, .constructed 3] ∧
      first.1.objects.Disjoint second.1.objects := by
  intro first second
  have shown : first.1.registry.tags.get? clock.cls = some (.canonical "kiosk" clock.cls) ∧
      first.1.told.toOption.map (fun (report, result) =>
          (report.controllers.map (·.dependencies), result.toBool)) =
        some ([["Clock", "Till"]], true) ∧
      first.1.objects = [.logger 1, .constructed 1, .constructed 2, .constructed 3] := by
    unfold first launch Composition.launch
    rw [Composition.compose_eq_composeWithin]
    decide +kernel
  obtain ⟨handed, told, objects⟩ := shown
  obtain ⟨-, again⟩ := Composition.launch_again steady_registry .emitted {} (.named "Kiosk")
    { logger := {}, config := {} } {}
  obtain ⟨same, apart⟩ := again first.1.resolver first.2 (.shared {} first.1.resolver)
  refine ⟨by decide +kernel, handed, told, same, objects, ?_⟩
  exact apart (fun _ finds => allots_constructors finds) (.refl first.2)

end Kiosk

end Trellis
