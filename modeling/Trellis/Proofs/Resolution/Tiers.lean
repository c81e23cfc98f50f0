import Trellis.Proofs.Resolution.Matching
import Trellis.Proofs.Text.Cutting
/-!
# Tiers of reflection

What a constructor takes is asked of the host, then of the store, and at last read from its signature.
The first of these that has anything decides alone. A tier has something to say if it lists the types
of the constructor and can inject one of them; whatever else it answers, it might as well not answer.

* `Class.Injectable` are the classes that a tier may name.
* `MetadataSource.Lists` and `MetadataSource.Silent` say what a source has for a constructor.
* `resolution_by_tiers` says that a tier which speaks is heard alone, and a silent one not at all.
-/

namespace Trellis

/-! ## Classes to inject -/

/-- A class that may be injected: its name is that of no primitive type, and nothing in it marks what
the framework supplies itself, in whatever ASCII case. -/
structure Class.Injectable (cls : Class) : Prop where
  notPrimitive : cls.name ∉ primitiveTypeNames
  notReserved : ∀ fragment ∈ ["logger", "config"], ∀ part : List Char, part <:+: cls.name.toList →
    part.map Char.toLower ≠ fragment.toList

theorem Class.injectable_iff (cls : Class) : isInjectableName cls.name = true ↔ cls.Injectable := by
  have unmarked : Signature.isReservedName cls.name = false ↔
      ∀ fragment ∈ ["logger", "config"], ∀ part : List Char, part <:+: cls.name.toList →
        part.map Char.toLower ≠ fragment.toList := by
    rw [← Bool.not_eq_true, Signature.isReservedName, Text.mentions_iff]
    simp only [Signature.reservedFragments, not_exists, not_and, ne_eq]
  rw [isInjectableName, Bool.and_eq_true, Bool.not_eq_true', Bool.not_eq_true', unmarked,
    List.contains_eq_mem, decide_eq_false_iff_not]
  exact ⟨fun ⟨primitive, reserved⟩ => ⟨primitive, reserved⟩,
    fun injectable => ⟨injectable.notPrimitive, injectable.notReserved⟩⟩

instance (cls : Class) : Decidable cls.Injectable :=
  decidable_of_iff _ cls.injectable_iff

/-! ## What a source has for a constructor -/

namespace MetadataSource

variable {source : MetadataSource} {handle : Handle} {types : List Class}

/-- The source lists the types of a constructor. -/
def Lists (source : MetadataSource) (handle : Handle) (types : List Class) : Prop :=
  source.read handle { key := MetadataKey.paramTypes } = some (.paramTypes types)

/-- The source has nothing for a constructor: no value, a value that is no list of types, or a list
with no class to inject. -/
def Silent (source : MetadataSource) (handle : Handle) : Prop :=
  ∀ types, source.Lists handle types → ∀ cls ∈ types, ¬ cls.Injectable

theorem injectableTypes_of_lists (lists : source.Lists handle types) :
    source.injectableTypes handle = types.filter (·.Injectable) := by
  unfold Lists at lists
  simp only [injectableTypes, lists]
  refine List.filter_congr fun cls _ => ?_
  rw [Bool.eq_iff_iff, cls.injectable_iff, decide_eq_true_iff]

theorem injectableTypes_ne_nil (lists : source.Lists handle types)
    (some : ∃ cls ∈ types, cls.Injectable) : source.injectableTypes handle ≠ [] := by
  obtain ⟨cls, member, injectable⟩ := some
  rw [injectableTypes_of_lists lists]
  exact List.ne_nil_of_mem (List.mem_filter.mpr ⟨member, by simpa using injectable⟩)

theorem Silent.injectableTypes (silent : source.Silent handle) :
    source.injectableTypes handle = [] := by
  cases value : source.read handle { key := MetadataKey.paramTypes } with
  | none => simp only [MetadataSource.injectableTypes, value]
  | some answer =>
    cases answer with
    | paramTypes types =>
      rw [injectableTypes_of_lists value, List.filter_eq_nil_iff]
      intro cls member
      simpa using silent types value cls member
    | _ => simp only [MetadataSource.injectableTypes, value]

theorem silent_of_read_eq_none (unknown : source.read handle { key := MetadataKey.paramTypes } = none) :
    source.Silent handle :=
  fun _ lists => absurd (unknown.symm.trans lists) nofun

/-- Only classes to inject are taken from a source. -/
theorem injectable_of_mem_injectableTypes {cls : Class} (member : cls ∈ source.injectableTypes handle) :
    cls.Injectable := by
  unfold MetadataSource.injectableTypes at member
  split at member
  · exact cls.injectable_iff.mp (List.mem_filter.mp member).2
  · cases member

end MetadataSource

/-! ## The first tier that speaks -/

namespace Reflection

variable {reflection again : Reflection} {handle other : Handle}

theorem constructorTypes?_of_host (speaks : reflection.host.injectableTypes handle ≠ []) :
    reflection.constructorTypes? handle =
      some (.host, reflection.host.injectableTypes handle) := by
  obtain ⟨cls, rest, types⟩ := List.exists_cons_of_ne_nil speaks
  simp [constructorTypes?, source, types]

theorem constructorTypes?_of_store (silent : reflection.host.injectableTypes handle = [])
    (speaks : (MetadataSource.ofRegistry reflection.store).injectableTypes handle ≠ []) :
    reflection.constructorTypes? handle =
      some (.store, (MetadataSource.ofRegistry reflection.store).injectableTypes handle) := by
  obtain ⟨cls, rest, types⟩ := List.exists_cons_of_ne_nil speaks
  simp [constructorTypes?, source, silent, types]

theorem constructorTypes?_eq_none (silent : reflection.host.injectableTypes handle = [])
    (empty : (MetadataSource.ofRegistry reflection.store).injectableTypes handle = []) :
    reflection.constructorTypes? handle = none := by
  simp [constructorTypes?, source, silent, empty]

/-- Whichever tier answers, it answers with what it has to inject. -/
theorem eq_of_constructorTypes? {tier : ReflectionTier} {types : List Class}
    (found : reflection.constructorTypes? handle = some (tier, types)) :
    types = (reflection.source tier).injectableTypes handle := by
  unfold constructorTypes? at found
  obtain ⟨asked, -, answer⟩ := List.exists_of_findSome?_eq_some found
  split at answer
  · cases answer
  · cases answer
    rfl

end Reflection

variable {reflection : Reflection} {handle : Handle}

theorem resolveAmong_of_types {tier : ReflectionTier} {types : List Class}
    (found : reflection.constructorTypes? handle = some (tier, types)) (scope : Scope)
    (classes : List Class) (ledger : Ledger) :
    (resolveAmong reflection handle scope classes ledger).1 =
      { dependencies := types, unresolved := [], source := tier.resolutionSource } := by
  rw [resolveAmong_fst, resolve, found]

/-- What the host has to inject is all that is resolved. -/
theorem resolveAmong_of_host {types : List Class} (lists : reflection.host.Lists handle types)
    (speaks : ∃ cls ∈ types, cls.Injectable) (scope : Scope) (classes : List Class)
    (ledger : Ledger) :
    (resolveAmong reflection handle scope classes ledger).1 =
      { dependencies := types.filter (·.Injectable), unresolved := [], source := .hostReflection } := by
  have found := Reflection.constructorTypes?_of_host
    (MetadataSource.injectableTypes_ne_nil lists speaks)
  rw [MetadataSource.injectableTypes_of_lists lists] at found
  exact resolveAmong_of_types found scope classes ledger

/-- What the store has to inject is all that is resolved, if the host has nothing. -/
theorem resolveAmong_of_store {types : List Class} (silent : reflection.host.Silent handle)
    (lists : (MetadataSource.ofRegistry reflection.store).Lists handle types)
    (speaks : ∃ cls ∈ types, cls.Injectable) (scope : Scope) (classes : List Class)
    (ledger : Ledger) :
    (resolveAmong reflection handle scope classes ledger).1 =
      { dependencies := types.filter (·.Injectable), unresolved := [], source := .metadataStore } := by
  have found := Reflection.constructorTypes?_of_store silent.injectableTypes
    (MetadataSource.injectableTypes_ne_nil lists speaks)
  rw [MetadataSource.injectableTypes_of_lists lists] at found
  exact resolveAmong_of_types found scope classes ledger

/-- A host that has nothing might as well give no answer. -/
theorem resolveAmong_of_silent_host {host mute : MetadataSource} (silent : host.Silent handle)
    (unknown : mute.read handle { key := MetadataKey.paramTypes } = none) (store : Registry)
    (scope : Scope) (classes : List Class) (ledger : Ledger) :
    (resolveAmong { host, store } handle scope classes ledger).1 =
      (resolveAmong { host := mute, store } handle scope classes ledger).1 := by
  have hosts : host.injectableTypes handle = mute.injectableTypes handle :=
    silent.injectableTypes.trans (MetadataSource.silent_of_read_eq_none unknown).injectableTypes.symm
  have types : Reflection.constructorTypes? { host, store } handle =
      Reflection.constructorTypes? { host := mute, store } handle :=
    Reflection.constructorTypes?_congr hosts rfl
  rw [resolveAmong_fst, resolveAmong_fst]
  exact resolve_congr types rfl

/-- A store that has nothing might as well have no value. -/
theorem resolveAmong_of_silent_store {store blank : Registry}
    (silent : (MetadataSource.ofRegistry store).Silent handle)
    (unknown : blank.read handle.cls { key := MetadataKey.paramTypes } = none)
    (host : MetadataSource) (scope : Scope) (classes : List Class) (ledger : Ledger) :
    (resolveAmong { host, store } handle scope classes ledger).1 =
      (resolveAmong { host, store := blank } handle scope classes ledger).1 := by
  have unread : (MetadataSource.ofRegistry blank).Silent handle :=
    MetadataSource.silent_of_read_eq_none unknown
  have types : Reflection.constructorTypes? { host, store } handle =
      Reflection.constructorTypes? { host, store := blank } handle :=
    Reflection.constructorTypes?_congr rfl (silent.injectableTypes.trans unread.injectableTypes.symm)
  rw [resolveAmong_fst, resolveAmong_fst]
  exact resolve_congr types rfl

/-- The signature is read if neither tier has anything. -/
theorem resolveAmong_of_silent (hosts : reflection.host.Silent handle)
    (stores : (MetadataSource.ofRegistry reflection.store).Silent handle) (scope : Scope)
    (classes : List Class) (ledger : Ledger) :
    (resolveAmong reflection handle scope classes ledger).1 =
      resolveParams (Signature.params handle.signature)
        (Available.addAll { scope } classes ledger).1 := by
  rw [resolveAmong_fst, resolve,
    Reflection.constructorTypes?_eq_none hosts.injectableTypes stores.injectableTypes]

theorem injectable_of_tier {cls : Class} {scope : Scope} {classes : List Class} {ledger : Ledger}
    (tiered : (resolveAmong reflection handle scope classes ledger).1.source = .hostReflection ∨
      (resolveAmong reflection handle scope classes ledger).1.source = .metadataStore)
    (member : cls ∈ (resolveAmong reflection handle scope classes ledger).1.dependencies) :
    cls.Injectable := by
  cases found : reflection.constructorTypes? handle with
  | none =>
    -- Then the signature was read, which is no tier.
    rw [resolveAmong_fst, resolve, found, source_resolveParams] at tiered
    split at tiered <;> exact absurd tiered (by simp)
  | some answer =>
    obtain ⟨tier, types⟩ := answer
    rw [resolveAmong_of_types found, Reflection.eq_of_constructorTypes? found] at member
    exact MetadataSource.injectable_of_mem_injectableTypes member

/-- The first tier that has a class to inject decides alone: the dependencies are what it has to
inject, in its order and as often as it lists them, and nothing is unresolved. Whatever the signature
says and whichever classes are available, the resolution is the same, and so it is whatever the store
holds when the host decides. A tier that has nothing to inject, whatever it answers, is passed over as
if it gave no answer; if both are, the signature is read. No dependency from either tier has the name
of a primitive type or of what the framework supplies. -/
theorem resolution_by_tiers (host : MetadataSource) (store : Registry) (handle : Handle)
    (scope : Scope) (classes : List Class) (ledger : Ledger) :
    let stored := MetadataSource.ofRegistry store
    let resolution := (resolveAmong { host, store } handle scope classes ledger).1
    (∀ types, host.Lists handle types → (∃ cls ∈ types, cls.Injectable) →
      resolution =
        { dependencies := types.filter (·.Injectable), unresolved := [], source := .hostReflection } ∧
      ∀ signature elsewhere other more again, host.Lists { handle with signature } types →
        (resolveAmong { host, store := elsewhere } { handle with signature } other more again).1 =
          resolution) ∧
    (∀ types, host.Silent handle → stored.Lists handle types → (∃ cls ∈ types, cls.Injectable) →
      resolution =
        { dependencies := types.filter (·.Injectable), unresolved := [], source := .metadataStore } ∧
      ∀ signature other more again, host.Silent { handle with signature } →
        (resolveAmong { host, store } { handle with signature } other more again).1 =
          resolution) ∧
    (host.Silent handle → ∀ mute : MetadataSource,
      mute.read handle { key := MetadataKey.paramTypes } = none →
        resolution = (resolveAmong { host := mute, store } handle scope classes ledger).1) ∧
    (stored.Silent handle → ∀ blank : Registry,
      blank.read handle.cls { key := MetadataKey.paramTypes } = none →
        resolution = (resolveAmong { host, store := blank } handle scope classes ledger).1) ∧
    (host.Silent handle → stored.Silent handle →
      resolution = resolveParams (Signature.params handle.signature)
        (Available.addAll { scope } classes ledger).1) ∧
    (resolution.source = .hostReflection ∨ resolution.source = .metadataStore →
      ∀ cls ∈ resolution.dependencies, cls.Injectable) := by
  intro stored resolution
  refine ⟨fun types lists speaks => ?_, fun types silent lists speaks => ?_,
    fun silent mute unknown => ?_, fun silent blank unknown => ?_, fun hosts stores => ?_,
    fun tiered cls member => injectable_of_tier tiered member⟩
  · have resolved : resolution = _ := resolveAmong_of_host lists speaks scope classes ledger
    refine ⟨resolved, fun signature elsewhere other more again relists => ?_⟩
    rw [resolved]
    exact resolveAmong_of_host relists speaks other more again
  · have resolved : resolution = _ :=
      resolveAmong_of_store silent lists speaks scope classes ledger
    refine ⟨resolved, fun signature other more again still => ?_⟩
    rw [resolved]
    exact resolveAmong_of_store still lists speaks other more again
  · exact resolveAmong_of_silent_host silent unknown store scope classes ledger
  · exact resolveAmong_of_silent_store silent unknown host scope classes ledger
  · exact resolveAmong_of_silent hosts stores scope classes ledger

namespace Desk

/-- A clerk whose types were known when it was compiled. -/
def clerk : Handle where
  cls := .named "Clerk"
  signature := page.signature
  emitted := [.named "CacheService", .logger, .named "CacheService", .named "String"]

/-- A porter of whom only the logger was known. -/
def porter : Handle where
  cls := .named "Porter"
  signature := page.signature
  emitted := [.logger]

/-- A registry with a type for the porter and with one that is none to inject for the page. -/
def registry : Registry :=
  (({ name := "desk" } : Registry).write porter { key := MetadataKey.paramTypes }
    (.paramTypes [.named "AppConfig", .named "KeyService"])).write page
      { key := MetadataKey.paramTypes } (.paramTypes [.named "bool"])

/-- The host decides for the clerk and the store for the porter, each without the types that are not
to inject; for the page it is left to the signature. -/
theorem resolution_by_tiers_desk :
    let stored := MetadataSource.ofRegistry registry
    let keys : List Class := [.named "AppConfig", .named "KeyService"]
    let resolved (handle : Handle) : Resolution :=
      (resolveAmong { store := registry } handle (.anonymous 0) services {}).1
    MetadataSource.emitted.Lists clerk clerk.emitted ∧ (∃ cls ∈ clerk.emitted, cls.Injectable) ∧
      resolved clerk =
        { dependencies := [.named "CacheService", .named "CacheService"], unresolved := [],
          source := .hostReflection } ∧
      MetadataSource.emitted.Silent porter ∧ stored.Lists porter keys ∧
      (∃ cls ∈ keys, cls.Injectable) ∧
      resolved porter =
        { dependencies := [.named "KeyService"], unresolved := [], source := .metadataStore } ∧
      MetadataSource.emitted.Silent page ∧ stored.Silent page ∧
      resolved page = resolveParams (Signature.params page.signature)
        (Available.addAll { scope := .anonymous 0 } services {}).1 := by
  intro stored keys resolved
  have clerks : ∃ cls ∈ clerk.emitted, cls.Injectable := by decide +kernel
  have porters : ∃ cls ∈ keys, cls.Injectable := by decide +kernel
  have silent : MetadataSource.emitted.Silent porter := by
    rintro types ⟨⟩
    decide +kernel
  have unknown : MetadataSource.emitted.Silent page :=
    MetadataSource.silent_of_read_eq_none rfl
  have useless : stored.Silent page := by
    rintro types ⟨⟩
    decide +kernel
  obtain ⟨host, -⟩ := resolution_by_tiers .emitted registry clerk (.anonymous 0) services {}
  obtain ⟨-, store, -⟩ := resolution_by_tiers .emitted registry porter (.anonymous 0) services {}
  obtain ⟨-, -, -, -, signature, -⟩ :=
    resolution_by_tiers .emitted registry page (.anonymous 0) services {}
  refine ⟨rfl, clerks, ?_, silent, rfl, porters, ?_, unknown, useless, signature unknown useless⟩
  · have filtered : clerk.emitted.filter (·.Injectable) =
        [.named "CacheService", .named "CacheService"] := by
      decide +kernel
    exact filtered ▸ (host clerk.emitted rfl clerks).1
  · have filtered : keys.filter (·.Injectable) = [.named "KeyService"] := by decide +kernel
    exact filtered ▸ (store keys silent rfl porters).1

end Desk

end Trellis
