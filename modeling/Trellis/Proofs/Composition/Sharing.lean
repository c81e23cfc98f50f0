import Trellis.Composition.Shared
import Trellis.Proofs.Composition.Renaming
import Trellis.Proofs.Composition.Transparency
/-!
# What applications share

The applications of a process share a registry, a resolver and the host that reflects on constructors.
Classes are decorated and applications are started in any order, with any configuration and whatever
comes of it.

* `bootstrap_of_error` and `exists_bootstrap_of_composed` say what a bootstrap comes to, reports
  included, in terms of composing and of the rules of a set-up.
* `Shared.Reached` is what decorations and starts lead to; `Shared.ofDecorations`, `Shared.start` and
  `Shared.warmedUp` stay within it.
* `Reached.coherent`: the resolver that is shared answers like one without a memory.
-/

namespace Trellis

/-! ## What a bootstrap comes to -/

namespace Composition

variable {registry : Registry} {resolver : Resolver} {root : Class} {app : App} {ledger : Ledger}

theorem bootstrap_of_error {error : Error} (host : MetadataSource) (resolver : Resolver)
    (onComposed onReady : Composition → List Event)
    (failed : (compose registry root app ledger).1.1 = .error error) :
    (bootstrap host registry resolver root app onComposed onReady ledger).1 =
      { result := .error error
        registry := (compose registry root app ledger).1.2
        resolver } := by
  rcases composed : compose registry root app ledger with ⟨⟨result, claimed⟩, mid⟩
  rw [composed] at failed
  obtain rfl : result = .error error := failed
  simp only [bootstrap, bind, StateT.bind, composed]
  rfl

/-- A module that can be composed is set up by the rules, as far as that gets. -/
theorem exists_bootstrap_of_composed {composition : Composition} (host : MetadataSource)
    (resolver : Resolver) (onComposed onReady : Composition → List Event)
    (composed : (compose registry root app ledger).1.1 = .ok composition) :
    ∃ begun stop final,
      SetsUp { host, store := (compose registry root app ledger).1.2 } ⟨composition, resolver, begun⟩
        stop final ∧
      (bootstrap host registry resolver root app onComposed onReady ledger).1 =
        { result := (Stop.result stop).map fun _ => final.composition
          registry := (compose registry root app ledger).1.2
          resolver := final.resolver } := by
  rcases made : compose registry root app ledger with ⟨⟨result, claimed⟩, mid⟩
  rw [made] at composed
  obtain rfl : result = .ok composition := composed
  rcases told : emitAll (onComposed composition) mid with ⟨⟨⟩, begun⟩
  obtain ⟨stop, final, setsUp⟩ :=
    exists_setsUp { host, store := claimed } ⟨composition, resolver, begun⟩
  have ran := run_setup_of_setsUp setsUp
  refine ⟨begun, stop, final, setsUp, ?_⟩
  simp only [bootstrap, bind, StateT.bind, made, told, setupIn]
  rw [ran]
  cases stop <;> rfl

/-- Whatever becomes of it, a bootstrap leaves the registry as composing did. -/
theorem registry_bootstrap (host : MetadataSource) (registry : Registry) (resolver : Resolver)
    (root : Class) (app : App) (onComposed onReady : Composition → List Event) (ledger : Ledger) :
    (bootstrap host registry resolver root app onComposed onReady ledger).1.registry =
      (compose registry root app ledger).1.2 := by
  cases composed : (compose registry root app ledger).1.1 with
  | error error => rw [bootstrap_of_error host resolver onComposed onReady composed]
  | ok composition =>
    obtain ⟨begun, stop, final, -, ran⟩ :=
      exists_bootstrap_of_composed host resolver onComposed onReady composed
    rw [ran]

/-- Starting an application is a bootstrap with reports. -/
theorem exists_bootstrap_eq_start (host : MetadataSource) (registry : Registry)
    (resolver : Resolver) (cls : Class) (config : AppConfig) (origin : String) (ledger : Ledger) :
    ∃ onComposed onReady begun,
      bootstrap host registry resolver cls (.ofConfig config) onComposed onReady begun =
        start host registry resolver cls config origin ledger := by
  simp only [start, bind, StateT.bind]
  split
  exact ⟨_, _, _, rfl⟩

end Composition

namespace Registry

theorem applyAll_fst (registry : Registry) (decorations : List (String × Decoration))
    (ledger : Ledger) :
    (registry.applyAll decorations ledger).1 =
      (decorations.map (·.2)).foldl decorate registry := by
  induction decorations generalizing registry ledger with
  | nil => rfl
  | cons first rest ih => exact ih (registry.decorate first.2) _

end Registry

/-! ## Decorations and starts in any order -/

namespace Shared

/-- What is shared, as a process in which nothing has been created. -/
def process (shared : Shared) : Process where
  host := shared.hostInUse
  registry := shared.registry
  resolver := shared.resolver

/-- What decorations and starts make of what is shared at first, if each decoration is permitted when
it is made. -/
inductive Reached (host : MetadataSource) (permits : Shared → Decoration → Prop) : Shared → Prop
  | begin (name : String) (installed : Option MetadataSource)
      (inUse : installed.getD .emitted = host) :
      Reached host permits { registry := { name }, host := installed }
  | decorate {shared : Shared} (reached : Reached host permits shared) (decoration : Decoration)
      (permitted : permits shared decoration) :
      Reached host permits { shared with registry := shared.registry.decorate decoration }
  | bootstrap {shared : Shared} (reached : Reached host permits shared) (cls : Class) (app : App)
      (onComposed onReady : Composition → List Event) (ledger : Ledger) :
      Reached host permits (shared.after
        (Composition.bootstrap shared.hostInUse shared.registry shared.resolver cls app onComposed
          onReady ledger).1)

variable {host : MetadataSource} {permits : Shared → Decoration → Prop} {shared : Shared}
  {catalogue : Catalogue}

theorem Reached.hostInUse_eq (reached : shared.Reached host permits) : shared.hostInUse = host := by
  induction reached with
  | begin _ _ inUse => exact inUse
  | decorate _ _ _ ih => exact ih
  | bootstrap _ _ _ _ _ _ ih => exact ih

/-- Decorations that are permitted whenever they are made lead from what is reached to what is
reached. -/
theorem Reached.foldl_decorate {decorations : List Decoration}
    (reached : shared.Reached host permits)
    (permitted : ∀ registry, ∀ decoration ∈ decorations,
      permits { shared with registry } decoration) :
    Reached host permits
      { shared with registry := decorations.foldl Registry.decorate shared.registry } := by
  induction decorations generalizing shared with
  | nil => exact reached
  | cons first rest ih =>
    have next := reached.decorate first (permitted shared.registry first List.mem_cons_self)
    exact ih next fun registry other member =>
      permitted registry other (List.mem_cons_of_mem _ member)

theorem reached_ofDecorations {decorations : List (String × Decoration)} (name : String)
    (permitted : ∀ registry, ∀ entry ∈ decorations, permits { registry } entry.2)
    (ledger : Ledger) :
    (ofDecorations name decorations ledger).1.Reached .emitted permits := by
  have registry := Registry.applyAll_fst { name } decorations ledger
  have same : (ofDecorations name decorations ledger).1 =
      { registry := (decorations.map (·.2)).foldl Registry.decorate { name } } :=
    congrArg (fun registry : Registry => ({ registry } : Shared)) registry
  rw [same]
  refine Reached.foldl_decorate (.begin name none rfl) fun registry decoration member => ?_
  obtain ⟨entry, listed, rfl⟩ := List.mem_map.mp member
  exact permitted registry entry listed

theorem Reached.start (reached : shared.Reached host permits) (cls : Class) (config : AppConfig)
    (ledger : Ledger) : (shared.start cls config ledger).1.2.Reached host permits := by
  obtain ⟨onComposed, onReady, begun, same⟩ := Composition.exists_bootstrap_eq_start
    shared.hostInUse shared.registry shared.resolver cls config "" ledger
  have next := reached.bootstrap cls (.ofConfig config) onComposed onReady begun
  rw [same] at next
  exact next

theorem Reached.warmedUp (reached : shared.Reached host permits) (modules : List Class)
    (ledger : Ledger) : (shared.warmedUp modules ledger).1.Reached host permits := by
  induction modules generalizing shared ledger with
  | nil => exact reached
  | cons cls rest ih =>
    exact ih (reached.bootstrap cls (.ofConfig {}) (fun _ => []) (fun _ => []) ledger) _

/-! ## The shared resolver is coherent -/

/-- Modules list handles that describe their classes, and nothing new is said of the types of a
constructor that was resolved. -/
def Permits (catalogue : Catalogue) (shared : Shared) (decoration : Decoration) : Prop :=
  shared.process.Permits catalogue (.decorate decoration)

/-- Composing hands tags out, which makes no difference to the resolver. -/
theorem coherent_composed (coherent : shared.process.Coherent catalogue) (cls : Class) (app : App)
    (ledger : Ledger) :
    (Composition.compose shared.registry cls app ledger).1.2.Described catalogue ∧
      shared.resolver.Coherent catalogue
        { host := shared.hostInUse
          store := (Composition.compose shared.registry cls app ledger).1.2 } := by
  have begun : Process.Coherent catalogue { shared.process with ledger } :=
    ⟨coherent.described, coherent.resolver⟩
  have created := begun.create cls app
  exact ⟨created.described, created.resolver⟩

/-- Whether a bootstrap fails or not, and wherever: the resolver learns about controllers that modules
of the registry list. -/
theorem coherent_bootstrap (coherent : shared.process.Coherent catalogue) (cls : Class) (app : App)
    (onComposed onReady : Composition → List Event) (ledger : Ledger) :
    (shared.after (Composition.bootstrap shared.hostInUse shared.registry shared.resolver cls app
      onComposed onReady ledger).1).process.Coherent catalogue := by
  obtain ⟨described, resolver⟩ := coherent_composed coherent cls app ledger
  cases composed : (Composition.compose shared.registry cls app ledger).1.1 with
  | error error =>
    rw [Composition.bootstrap_of_error shared.hostInUse shared.resolver onComposed onReady composed]
    exact ⟨described, resolver⟩
  | ok composition =>
    obtain ⟨begun, stop, final, setsUp, ran⟩ := Composition.exists_bootstrap_of_composed
      shared.hostInUse shared.resolver onComposed onReady composed
    rw [ran]
    refine ⟨described, ?_⟩
    refine setsUp.resolver_induction (Resolver.Coherent catalogue _) ?_ resolver
    intro declared module handle listed resolver known
    have stands := Composition.moduleMetadata?_claimed_of_compose composed declared module
    exact known.learning described ⟨stands, listed⟩

theorem Reached.coherent (reached : shared.Reached host permits)
    (own : ∀ shared decoration, permits shared decoration → Permits catalogue shared decoration) :
    shared.process.Coherent catalogue := by
  induction reached with
  | begin name installed =>
    have start := Process.coherent_start catalogue (installed.getD .emitted) name
    exact ⟨start.described, start.resolver⟩
  | @decorate shared _ decoration permitted ih =>
    have next := ih.decorate decoration (own shared decoration permitted)
    exact ⟨next.described, next.resolver⟩
  | bootstrap _ cls app onComposed onReady ledger ih =>
    exact coherent_bootstrap ih cls app onComposed onReady ledger

end Shared

end Trellis
