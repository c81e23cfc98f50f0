import Trellis.Proofs.Composition.Renaming
import Trellis.Proofs.Metadata.Batch
/-!
# The order of decorations does not matter

Decorators stand in many places, and nobody says in which order they are applied. Neither does it
matter: on two registries that the same batch was applied to, every module is bootstrapped alike.
-/

namespace Trellis

namespace Composition

/-- A batch that says of each class at most once that it is a service, that it is a module, and what
its constructor takes, is applied to two empty registries, in any order and with any routes and
parameters in between; tags that it asks for were made before. Then every bootstrap ends alike on
both, whatever tags were handed out and whatever else was done by then: with the same error, or with
the same report. The constructors must be deterministic. -/
theorem bootstrap_of_perm {batch again : List Decoration} (shuffled : batch.Perm again)
    (single : Decoration.Single batch) {constructors : Constructors}
    (deterministic : constructors.Deterministic)
    (own : ∀ decoration ∈ batch, ∀ handle ∈ decoration.handles, handle.MadeFrom constructors)
    {one two : String}
    (fixed : ∀ handle tag, .service handle (some tag) ∈ batch →
      tag.Foreign one ∧ tag.Foreign two)
    (handed rehanded : List Class) (host : MetadataSource) (resolver : Resolver) (root : Class)
    (app : App) (onComposed onReady : Composition → List Event) (ledger later : Ledger) :
    let registry := handed.foldl Registry.claimTag (batch.foldl Registry.decorate { name := one })
    let other := rehanded.foldl Registry.claimTag (again.foldl Registry.decorate { name := two })
    (bootstrap host registry resolver root app onComposed onReady ledger).1.result.map report =
      (bootstrap host other resolver root app onComposed onReady later).1.result.map report := by
  intro registry other
  have renamed : registry.Renamed (Tag.swap one two) other :=
    (Registry.renamed_of_perm shuffled single own fixed).foldl_claimTag handed rehanded
  have steady : registry.Steady := (Registry.steady_batch deterministic own).foldl_claimTag handed
  exact bootstrap_renamed (Tag.renaming_swap one two) renamed steady host resolver root app onComposed
    onReady ledger later

end Composition

/-! ## A kiosk

A page that needs a clock and a till. The clock is no service, the till is one under a tag of its own,
and the module that imports both is declared before anything else. -/

namespace Kiosk

def clock : Blueprint := { cls := .named "Clock", making := .plain }

def till : Blueprint := { cls := .named "Till" }

def page : Blueprint :=
  { cls := .named "Page", making := .controller, required := [clock.cls, till.cls] }

def batch : List Decoration :=
  [ .module (Class.named "Kiosk").handle
      { imports := [.named "Stand"], controllers := [page.handle .controller] },
    .route page.cls { method := .get, path := "/", handler := "index" },
    .service (till.handle .provider) (some (.custom 0 "till")),
    .paramTypes page.cls [clock.cls, till.cls],
    .module (Class.named "Stand").handle
      { providers := [clock.handle .provider, (Class.named "Till").handle] },
    .controller (page.handle .controller) "/" ]

def constructors : Constructors where
  service cls := if cls = clock.cls then clock.constructor else till.constructor
  controller _ := page.constructor

/-- What bootstrapping the kiosk on a registry comes to. -/
def told (registry : Registry) : Except Error WiringReport :=
  (Composition.bootstrap .emitted registry {} (.named "Kiosk") { logger := {}, config := {} }
    (fun _ => []) (fun _ => []) {}).1.result.map Composition.report

theorem single_batch : Decoration.Single batch where
  services cls := by
    simp only [batch, List.filterMap_cons, List.filterMap_nil, Decoration.service?]
    split <;> simp
  modules cls := by
    have apart : Class.named "Kiosk" ≠ Class.named "Stand" := by decide
    simp only [batch, List.filterMap_cons, List.filterMap_nil, Decoration.module?, Class.handle]
    by_cases kiosk : Class.named "Kiosk" = cls
    · subst kiosk
      simp [apart.symm]
    · simp only [kiosk, if_false]
      split <;> simp
  paramTypes cls := by
    simp only [batch, List.filterMap_cons, List.filterMap_nil, Decoration.paramTypes?]
    split <;> simp

theorem deterministic_constructors : constructors.Deterministic where
  service cls := by
    unfold constructors
    dsimp only
    split
    · exact clock.deterministic_constructor
    · exact till.deterministic_constructor
  controller _ := page.deterministic_constructor

theorem madeFrom_batch : ∀ decoration ∈ batch, ∀ handle ∈ decoration.handles,
    handle.MadeFrom constructors := by
  have clocks : (clock.handle .provider).MadeFrom constructors :=
    Blueprint.madeFrom_handle (fun _ => by simp [constructors]) nofun
  have tills : (till.handle .provider).MadeFrom constructors :=
    Blueprint.madeFrom_handle (fun _ => by simp [constructors, till, clock, Class.named]) nofun
  have pages : (page.handle .controller).MadeFrom constructors :=
    Blueprint.madeFrom_handle nofun fun _ => rfl
  simp [batch, Decoration.handles, Decoration.target, clocks, tills, pages, Class.madeFrom_handle]

/-- The page is wired to the clock and the till, and in the reverse order of decorations as well. -/
theorem bootstrap_of_perm_kiosk :
    told (batch.foldl Registry.decorate { name := "one" }) =
        told (batch.reverse.foldl Registry.decorate { name := "two" }) ∧
      (told (batch.foldl Registry.decorate { name := "one" })).toOption.map
          (fun report => report.controllers.map (·.dependencies)) =
        some [["Clock", "Till"]] := by
  constructor
  · refine Composition.bootstrap_of_perm (List.reverse_perm batch).symm single_batch
      deterministic_constructors ?_ ?_ [] [] _ _ _ _ _ _ _ _
    · exact madeFrom_batch
    · intro handle tag member
      obtain ⟨rfl, rfl⟩ : handle = till.handle .provider ∧ tag = .custom 0 "till" := by
        simpa [batch] using member
      exact ⟨nofun, nofun⟩
  · unfold told Composition.bootstrap
    rw [Composition.compose_eq_composeWithin]
    decide +kernel

end Kiosk

end Trellis
