import Trellis.Resolution.Resolver
/-!
# What a resolver remembers

Resolving a constructor adds its resolution to what is remembered, unless one is remembered already,
and nothing that is remembered is ever forgotten. What is worked out is a matter of three things: the
types that reflection answers with, the parameters of the signature, and the classes that are
available, whatever scope they are remembered under.

So a resolver that is asked the same things as another one gives the same answers, whether it begins
with what that one began with or with what that one remembers in the end: `Resolver.Replays`.
-/

namespace Trellis

namespace Resolver

variable {resolver : Resolver} {reflection : Reflection} {handle : Handle} {available : Available}
  {scope : Scope} {cls : Class} {resolution : Resolution} {params : List Signature.Param}

/-! ## What is remembered after a resolution -/

theorem cached?_remember_self (resolver : Resolver) (reflection : Reflection) (handle : Handle)
    (available : Available) :
    (resolver.remember reflection handle available).cached? available.scope handle.cls =
      some (resolver.compute reflection handle available) :=
  Table.get?_put_self ..

theorem cached?_learning_self (resolver : Resolver) (reflection : Reflection) (handle : Handle)
    (available : Available) :
    (resolver.learning reflection handle available).cached? available.scope handle.cls =
      some (resolver.resolution reflection handle available) := by
  unfold learning Resolver.resolution
  cases known : resolver.cached? available.scope handle.cls with
  | none => exact cached?_remember_self resolver reflection handle available
  | some resolution => exact known

/-- Nothing is forgotten. -/
theorem cached?_learning_of_some (known : resolver.cached? scope cls = some resolution)
    (reflection : Reflection) (handle : Handle) (available : Available) :
    (resolver.learning reflection handle available).cached? scope cls = some resolution := by
  unfold learning
  cases here : resolver.cached? available.scope handle.cls with
  | some _ => exact known
  | none =>
    -- What is remembered now is remembered elsewhere: here nothing was known.
    have elsewhere : (scope, cls) ≠ (available.scope, handle.cls) := by
      intro same
      obtain ⟨rfl, rfl⟩ := Prod.mk.inj same
      exact absurd (known.symm.trans here) nofun
    exact (Table.get?_put_of_ne _ _ elsewhere).trans known

/-- What is remembered was remembered before or has just been worked out. -/
theorem eq_of_cached?_learning
    (known : (resolver.learning reflection handle available).cached? scope cls = some resolution) :
    resolver.cached? scope cls = some resolution ∨
      scope = available.scope ∧ cls = handle.cls ∧
        resolution = resolver.compute reflection handle available := by
  unfold learning at known
  cases here : resolver.cached? available.scope handle.cls with
  | some _ =>
    rw [here] at known
    exact .inl known
  | none =>
    rw [here] at known
    rcases Table.get?_put_eq_some known with ⟨key, rfl⟩ | before
    · obtain ⟨rfl, rfl⟩ := Prod.mk.inj key
      exact .inr ⟨rfl, rfl, rfl⟩
    · exact .inl before

/-- Parameters that are remembered were remembered before or have just been parsed. -/
theorem eq_of_signatures_learning
    (known : (resolver.learning reflection handle available).signatures.get? cls = some params) :
    resolver.signatures.get? cls = some params ∨
      cls = handle.cls ∧ params = Signature.params handle.signature := by
  unfold learning at known
  cases here : resolver.cached? available.scope handle.cls with
  | some _ =>
    rw [here] at known
    exact .inl known
  | none =>
    simp only [here, remember] at known
    split at known
    · exact .inl known
    · exact (Table.get?_put_eq_some known).symm

end Resolver

/-! ## What a resolution is worked out from -/

namespace Available

variable {available : Available} {classes : List Class} {name : String} {cls : Class}

theorem scope_insertAll (available : Available) (classes : List Class) :
    (available.insertAll classes).scope = available.scope := by
  induction classes generalizing available with
  | nil => rfl
  | cons cls rest ih =>
    have kept : (available.insert cls).scope = available.scope := by
      unfold insert
      split <;> rfl
    exact (ih (available.insert cls)).trans kept

/-- Which classes are available is not a matter of the scope. -/
theorem byName_insertAll_congr {other : Available} (same : available.byName = other.byName)
    (classes : List Class) :
    (available.insertAll classes).byName = (other.insertAll classes).byName := by
  induction classes generalizing available other with
  | nil => exact same
  | cons cls rest ih =>
    have next : (available.insert cls).byName = (other.insert cls).byName := by
      unfold insert
      rw [same]
      split
      · exact same
      · rfl
    exact ih next

/-- The classes come after those that are available already, and the first of a name counts. -/
theorem get?_insertAll (available : Available) (classes : List Class) (name : String) :
    (available.insertAll classes).get? name =
      (available.get? name).or (classes.find? (·.name = name)) := by
  induction classes generalizing available with
  | nil => simp [insertAll]
  | cons cls rest ih =>
    have next : (available.insert cls).get? name =
        (available.get? name).or (if cls.name = name then some cls else none) := by
      unfold insert get?
      by_cases here : cls.name = name
      · subst here
        cases known : Table.get? available.byName cls.name <;>
          simp [Table.has, known, Table.get?_put_self]
      · have other : name ≠ cls.name := Ne.symm here
        rw [if_neg here, Option.or_none]
        split
        · rfl
        · exact Table.get?_put_of_ne _ _ other
    show ((available.insert cls).insertAll rest).get? name = _
    rw [ih, next, Option.or_assoc]
    by_cases here : cls.name = name <;> simp [here]

/-- An available class was available before or has just been inserted. -/
theorem eq_of_get?_insertAll (found : (available.insertAll classes).get? name = some cls) :
    available.get? name = some cls ∨ cls ∈ classes := by
  rw [get?_insertAll] at found
  rcases Option.or_eq_some_iff.mp found with before | ⟨-, later⟩
  · exact .inl before
  · exact .inr (List.mem_of_find?_eq_some later)

end Available

section Determined

variable {reflection again : Reflection} {handle other : Handle} {available : Available}
  {params : List Signature.Param}

/-- The same types, the same parameters and the same classes give the same resolution. -/
theorem resolve_congr {reserve : Available}
    (types : reflection.constructorTypes? handle = again.constructorTypes? other)
    (classes : available.byName = reserve.byName) :
    resolve reflection handle params available = resolve again other params reserve := by
  have found : ∀ param : Signature.Param, param.resolve? available = param.resolve? reserve := by
    intro param
    simp only [Signature.Param.resolve?, Available.get?, classes]
  unfold resolve
  rw [types]
  cases again.constructorTypes? other with
  | some answer => rfl
  | none => simp only [resolveParams, found]

/-- A class that a signature led to is available. -/
theorem mem_of_resolve_signature {cls : Class}
    (read : (resolve reflection handle params available).source = .signature)
    (member : cls ∈ (resolve reflection handle params available).dependencies) :
    ∃ name, available.get? name = some cls := by
  unfold resolve at read member
  cases types : reflection.constructorTypes? handle with
  | some answer =>
    -- A tier of reflection is no signature.
    obtain ⟨tier, found⟩ := answer
    rw [types] at read
    cases tier <;> cases read
  | none =>
    rw [types, dependencies_resolveParams] at member
    obtain ⟨param, -, found⟩ := List.mem_filterMap.mp member
    unfold Signature.Param.resolve? at found
    split at found
    · cases found
    · exact ⟨param.candidate, found⟩

end Determined

/-! ## Reflection on classes -/

namespace Reflection

variable {reflection again : Reflection} {handle other : Handle}

/-- The types of a constructor are those that the host and the store name. -/
theorem constructorTypes?_congr
    (host : reflection.host.injectableTypes handle = again.host.injectableTypes other)
    (store : (MetadataSource.ofRegistry reflection.store).injectableTypes handle =
      (MetadataSource.ofRegistry again.store).injectableTypes other) :
    reflection.constructorTypes? handle = again.constructorTypes? other := by
  unfold constructorTypes?
  simp only [List.findSome?_cons, List.findSome?_nil, source, host, store]

end Reflection

/-! ## Asking again -/

namespace Resolver

variable {reflection again : Reflection} {handle : Handle} {available : Available}
  {resolver ended later began : Resolver}

/-- Whatever the resolver remembers, the later one remembers alike. -/
def RecalledBy (resolver later : Resolver) : Prop :=
  ∀ scope cls resolution, resolver.cached? scope cls = some resolution →
    later.cached? scope cls = some resolution

theorem RecalledBy.refl (resolver : Resolver) : resolver.RecalledBy resolver :=
  fun _ _ _ known => known

theorem RecalledBy.learning (recalled : ended.RecalledBy later) (reflection : Reflection)
    (handle : Handle) (available : Available) :
    ended.RecalledBy (later.learning reflection handle available) :=
  fun scope cls resolution known =>
    cached?_learning_of_some (recalled scope cls resolution known) reflection handle available

/-- A resolver that repeats what another one has answered on its way from `began` to `ended`: it is
what that one was when it began, or it remembers whatever that one did when it ended. -/
def Replays (resolver began ended : Resolver) : Prop :=
  resolver = began ∨ ended.RecalledBy resolver

/-- One that begins like the other one. -/
theorem Replays.own (began ended : Resolver) : began.Replays began ended :=
  .inl rfl

/-- One that goes on where the other one ended. -/
theorem Replays.shared (began ended : Resolver) : ended.Replays began ended :=
  .inr (.refl ended)

/-- Of reflection, a resolver needs the types of the constructor alone. -/
theorem resolution_congr (resolver : Resolver) (available : Available)
    (types : reflection.constructorTypes? handle = again.constructorTypes? handle) :
    resolver.resolution reflection handle available = resolver.resolution again handle available := by
  rw [resolution, resolution, compute, compute, resolve_congr types rfl]

theorem learning_congr (resolver : Resolver) (available : Available)
    (types : reflection.constructorTypes? handle = again.constructorTypes? handle) :
    resolver.learning reflection handle available = resolver.learning again handle available := by
  have computed : resolver.compute reflection handle available =
      resolver.compute again handle available := resolve_congr types rfl
  simp only [learning, remember, types, computed]

/-- Asked the same, the resolver gives the same answer, and it repeats what comes after as well. -/
theorem Replays.learning (replays : later.Replays resolver ended)
    (types : reflection.constructorTypes? handle = again.constructorTypes? handle)
    (recalled : (resolver.learning reflection handle available).RecalledBy ended) :
    later.resolution again handle available = resolver.resolution reflection handle available ∧
      (later.learning again handle available).Replays
        (resolver.learning reflection handle available) ended := by
  rcases replays with rfl | remembers
  · exact ⟨(later.resolution_congr available types).symm,
      .inl (later.learning_congr available types).symm⟩
  · -- The answer was remembered in the end, so it need not be worked out.
    have known := remembers _ _ _
      (recalled _ _ _ (cached?_learning_self resolver reflection handle available))
    refine ⟨?_, .inr (remembers.learning again handle available)⟩
    show (later.cached? available.scope handle.cls).getD _ = _
    rw [known]
    rfl

end Resolver

end Trellis
