import Trellis.Proofs.Resolution.Memory
/-!
# Matching parameters with services

Without reflection every parameter of a signature is settled by itself, in the order of the signature:
it is supplied by the framework, it is found among the available classes, or it is missing. It is
found under one name at most, and that name stands for the class that was the first to have it.

* `Signature.Settles` are the rules by which the parameters of a signature are settled.
* `settles_iff_resolveParams` says that resolving settles them, and that there is no other way to.
* `resolution_of_signature` and `resolution_of_more_classes` say so of a resolver without a memory.
-/

namespace Trellis

/-! ## Classes by name -/

namespace Available

/-- Among classes that were made available in order, a name stands for the first that has it. -/
theorem get?_addAll (scope : Scope) (classes : List Class) (ledger : Ledger) (name : String) :
    (Available.addAll { scope } classes ledger).1.get? name =
      classes.find? (·.name = name) := by
  rw [addAll_fst, get?_insertAll]
  rfl

end Available

/-! ## The rules -/

namespace Signature

/-- The name that a parameter is looked up under: that of its type or, if it has none, the one that is
guessed from its own. Nothing is looked up for a pattern. -/
inductive Param.LookedUp (param : Param) : String → Prop
  | typed {name : String} (plain : param.destructured = false) (typed : param.typeName = some name) :
      LookedUp param name
  | guessed (plain : param.destructured = false) (untyped : param.typeName = none) :
      LookedUp param (guessServiceName param.name)

/-- How the parameters of a signature are settled among classes: which are found for them and which
parameters are missing, both in the order of the signature. -/
inductive Settles (classes : List Class) :
    List Param → List Class → List UnresolvedParam → Prop
  | nil : Settles classes [] [] []
  /-- The framework supplies the parameter itself. -/
  | supplied {param : Param} {params : List Param} {found : List Class}
      {missing : List UnresolvedParam} (reserved : param.isReserved = true)
      (rest : Settles classes params found missing) :
      Settles classes (param :: params) found missing
  /-- The first class of the name that the parameter is looked up under. -/
  | found {param : Param} {params : List Param} {name : String} {cls : Class} {found : List Class}
      {missing : List UnresolvedParam} (wanted : param.isReserved = false)
      (lookedUp : param.LookedUp name) (first : classes.find? (·.name = name) = some cls)
      (rest : Settles classes params found missing) :
      Settles classes (param :: params) (cls :: found) missing
  /-- There is no class of such a name, or no such name. -/
  | missing {param : Param} {params : List Param} {found : List Class}
      {missing : List UnresolvedParam} (wanted : param.isReserved = false)
      (absent : ∀ name, param.LookedUp name → ∀ cls ∈ classes, cls.name ≠ name)
      (rest : Settles classes params found missing) :
      Settles classes (param :: params) found (param.asUnresolved :: missing)

variable {classes : List Class} {params : List Param} {param : Param} {found again : List Class}
  {missing rest : List UnresolvedParam} {name other : String} {cls : Class} {available : Available}

theorem Param.LookedUp.unique (lookedUp : param.LookedUp name) (relooked : param.LookedUp other) :
    name = other := by
  cases lookedUp with
  | typed _ typed =>
    cases relooked with
    | typed _ retyped => exact Option.some.inj (typed.symm.trans retyped)
    | guessed _ untyped => exact absurd (typed.symm.trans untyped) nofun
  | guessed _ untyped =>
    cases relooked with
    | typed _ typed => exact absurd (typed.symm.trans untyped) nofun
    | guessed => rfl

theorem Param.resolve?_eq_some_iff :
    param.resolve? available = some cls ↔
      ∃ name, param.LookedUp name ∧ available.get? name = some cls := by
  unfold resolve? candidate
  constructor
  · intro found
    cases plain : param.destructured with
    | true => simp [plain] at found
    | false =>
      cases typed : param.typeName with
      | some name => exact ⟨name, .typed plain typed, by simpa [plain, typed] using found⟩
      | none => exact ⟨_, .guessed plain typed, by simpa [plain, typed] using found⟩
  · rintro ⟨name, ⟨plain, typed⟩ | ⟨plain, untyped⟩, known⟩
    · simpa [plain, typed] using known
    · simpa [plain, untyped] using known

/-- A parameter that is found is not missing. -/
theorem Param.LookedUp.not_absent (lookedUp : param.LookedUp name)
    (first : classes.find? (·.name = name) = some cls) :
    ¬ ∀ name, param.LookedUp name → ∀ cls ∈ classes, cls.name ≠ name := by
  intro absent
  have named := List.find?_some first
  exact absent name lookedUp cls (List.mem_of_find?_eq_some first) (by simpa using named)

/-- A parameter is found or missing. -/
theorem Param.found_or_absent (param : Param) (classes : List Class) :
    (∃ name cls, param.LookedUp name ∧ classes.find? (·.name = name) = some cls) ∨
      ∀ name, param.LookedUp name → ∀ cls ∈ classes, cls.name ≠ name := by
  by_cases some : ∃ name cls, param.LookedUp name ∧ classes.find? (·.name = name) = some cls
  · exact .inl some
  · refine .inr fun name lookedUp cls member same => some ?_
    have there : (classes.find? (·.name = name)).isSome := by
      rw [List.find?_isSome]
      exact ⟨cls, member, by simpa using same⟩
    obtain ⟨first, hit⟩ := Option.isSome_iff_exists.mp there
    exact ⟨name, first, lookedUp, hit⟩

/-! ## What the rules come to -/

/-- There is one way to settle parameters. -/
theorem Settles.unique (settles : Settles classes params found missing)
    (resettles : Settles classes params again rest) : again = found ∧ rest = missing := by
  induction settles generalizing again rest with
  | nil =>
    cases resettles
    exact ⟨rfl, rfl⟩
  | supplied reserved _ ih =>
    cases resettles with
    | supplied _ later => exact ih later
    | found wanted | missing wanted => exact absurd (reserved.symm.trans wanted) nofun
  | found wanted lookedUp first _ ih =>
    cases resettles with
    | supplied reserved => exact absurd (reserved.symm.trans wanted) nofun
    | found _ relooked refirst later =>
      obtain rfl := lookedUp.unique relooked
      obtain rfl := Option.some.inj (first.symm.trans refirst)
      obtain ⟨rfl, rfl⟩ := ih later
      exact ⟨rfl, rfl⟩
    | missing _ absent => exact absurd absent (lookedUp.not_absent first)
  | missing wanted absent _ ih =>
    cases resettles with
    | supplied reserved => exact absurd (reserved.symm.trans wanted) nofun
    | found _ lookedUp first => exact absurd absent (lookedUp.not_absent first)
    | missing _ _ later =>
      obtain ⟨rfl, rfl⟩ := ih later
      exact ⟨rfl, rfl⟩

/-- Every parameter that the framework does not supply has one entry. -/
theorem Settles.length_add_length (settles : Settles classes params found missing) :
    found.length + missing.length = (params.filter fun param => !param.isReserved).length := by
  induction settles with
  | nil => rfl
  | supplied reserved _ ih => simpa [reserved] using ih
  | found wanted _ _ _ ih =>
    simp only [wanted, List.filter_cons, Bool.not_false, if_true, List.length_cons]
    omega
  | missing wanted _ _ ih =>
    simp only [wanted, List.filter_cons, Bool.not_false, if_true, List.length_cons]
    omega

/-- Whatever is found is the first class of its name. -/
theorem Settles.find?_of_mem (settles : Settles classes params found missing) (member : cls ∈ found) :
    classes.find? (·.name = cls.name) = some cls := by
  induction settles with
  | nil => cases member
  | supplied _ _ ih | missing _ _ _ ih => exact ih member
  | found _ _ first _ ih =>
    rcases List.mem_cons.mp member with rfl | later
    · have named := List.find?_some first
      rwa [show cls.name = _ from by simpa using named]
    · exact ih later

/-- What a pattern binds is no single service. -/
theorem Settles.mem_missing_of_destructured (settles : Settles classes params found missing)
    (member : param ∈ params) (wanted : param.isReserved = false)
    (pattern : param.destructured = true) : param.asUnresolved ∈ missing := by
  induction settles with
  | nil => cases member
  | supplied reserved _ ih =>
    rcases List.mem_cons.mp member with rfl | later
    · exact absurd (reserved.symm.trans wanted) nofun
    · exact ih later
  | found _ lookedUp _ _ ih =>
    rcases List.mem_cons.mp member with rfl | later
    · cases lookedUp with
      | typed plain | guessed plain => exact absurd (pattern.symm.trans plain) nofun
    · exact ih later
  | missing _ _ _ ih =>
    rcases List.mem_cons.mp member with rfl | later
    · exact List.mem_cons_self
    · exact List.mem_cons_of_mem _ (ih later)

/-- With more classes behind the others, what was found is found again, and something more may be. -/
theorem Settles.exists_append (settles : Settles classes params found missing) (more : List Class) :
    ∃ again rest, Settles (classes ++ more) params again rest ∧ found.Sublist again ∧
      rest.Sublist missing := by
  induction settles with
  | nil => exact ⟨[], [], .nil, .slnil, .slnil⟩
  | supplied reserved _ ih =>
    obtain ⟨again, rest, later, finds, misses⟩ := ih
    exact ⟨again, rest, .supplied reserved later, finds, misses⟩
  | @found param params name cls _ _ wanted lookedUp first _ ih =>
    obtain ⟨again, rest, later, finds, misses⟩ := ih
    have still : (classes ++ more).find? (·.name = name) = some cls := by
      rw [List.find?_append, first, Option.some_or]
    exact ⟨cls :: again, rest, .found wanted lookedUp still later, finds.cons_cons cls, misses⟩
  | @missing param params _ _ wanted absent _ ih =>
    obtain ⟨again, rest, later, finds, misses⟩ := ih
    rcases param.found_or_absent (classes ++ more) with ⟨name, cls, lookedUp, first⟩ | still
    · exact ⟨cls :: again, rest, .found wanted lookedUp first later, finds.cons cls, misses.cons _⟩
    · exact ⟨again, _, .missing wanted still later, finds, misses.cons_cons _⟩

/-! ## Resolving settles the parameters -/

/-- Resolving parameters settles them, and nothing else does. -/
theorem settles_iff_resolveParams
    (stands : ∀ name, available.get? name = classes.find? (·.name = name)) (params : List Param)
    (found : List Class) (missing : List UnresolvedParam) :
    Settles classes params found missing ↔
      found = (resolveParams params available).dependencies ∧
        missing = (resolveParams params available).unresolved := by
  have settled : Settles classes params (resolveParams params available).dependencies
      (resolveParams params available).unresolved := by
    rw [dependencies_resolveParams, unresolved_resolveParams]
    induction params with
    | nil => exact .nil
    | cons param params ih =>
      cases reserved : param.isReserved with
      | true => simpa [reserved] using Settles.supplied reserved ih
      | false =>
        rcases param.found_or_absent classes with ⟨name, cls, lookedUp, first⟩ | absent
        · have hit : param.resolve? available = some cls :=
            Param.resolve?_eq_some_iff.mpr ⟨name, lookedUp, (stands name).trans first⟩
          simpa [reserved, hit] using Settles.found reserved lookedUp first ih
        · have miss : param.resolve? available = none := by
            refine Option.eq_none_iff_forall_ne_some.mpr fun cls hit => ?_
            obtain ⟨name, lookedUp, known⟩ := Param.resolve?_eq_some_iff.mp hit
            exact lookedUp.not_absent ((stands name).symm.trans known) absent
          simpa [reserved, miss] using Settles.missing reserved absent ih
  constructor
  · exact settled.unique
  · rintro ⟨rfl, rfl⟩
    exact settled

end Signature

/-! ## Resolvers without a memory -/

/-- What a resolver without a memory answers when classes have been made available in order. -/
def resolveAmong (reflection : Reflection) (handle : Handle) (scope : Scope)
    (classes : List Class) : Logged Resolution := do
  let available ← Available.addAll { scope } classes
  let (resolution, _) ← ({} : Resolver).resolve reflection handle available
  return resolution

theorem resolveAmong_fst (reflection : Reflection) (handle : Handle) (scope : Scope)
    (classes : List Class) (ledger : Ledger) :
    (resolveAmong reflection handle scope classes ledger).1 =
      resolve reflection handle (Signature.params handle.signature)
        (Available.addAll { scope } classes ledger).1 := by
  show (({} : Resolver).resolve reflection handle (Available.addAll { scope } classes ledger).1
    (Available.addAll { scope } classes ledger).2).1.1 = _
  rw [Resolver.resolve_fst]
  rfl

/-- Where reflection has no types for a constructor, its signature is read, and the parameters in it
are settled in the only way in which they can be: each that the framework does not supply is found or
missing, once and in order, a pattern always missing. The classes that were made available can be
looked up by their names, the first of each name, and so can all that were found. There is nothing to
read exactly if there are no parameters. -/
theorem resolution_of_signature {reflection : Reflection} {handle : Handle}
    (unknown : reflection.constructorTypes? handle = none) (scope : Scope) (classes : List Class)
    (ledger : Ledger) :
    let params := Signature.params handle.signature
    let wanted := params.filter fun param => !param.isReserved
    let available := (Available.addAll { scope } classes ledger).1
    let resolution := (resolveAmong reflection handle scope classes ledger).1
    (∀ found missing, Signature.Settles classes params found missing ↔
        found = resolution.dependencies ∧ missing = resolution.unresolved) ∧
      resolution.dependencies.length + resolution.unresolved.length = wanted.length ∧
      (∀ param ∈ wanted, param.destructured = true →
        param.asUnresolved ∈ resolution.unresolved) ∧
      (∀ name, available.get? name = classes.find? (·.name = name)) ∧
      (∀ cls ∈ resolution.dependencies, available.get? cls.name = some cls) ∧
      (resolution.source = .empty ↔ params = []) := by
  intro params wanted available resolution
  have stands := Available.get?_addAll scope classes ledger
  have read : resolution = resolveParams params available := by
    show (resolveAmong reflection handle scope classes ledger).1 = _
    rw [resolveAmong_fst, resolve, unknown]
  have settles := Signature.settles_iff_resolveParams stands params
  rw [read]
  have settled := (settles _ _).mpr ⟨rfl, rfl⟩
  refine ⟨settles, settled.length_add_length, ?_, stands, ?_, ?_⟩
  · intro param member pattern
    obtain ⟨member, wanted⟩ := List.mem_filter.mp member
    exact settled.mem_missing_of_destructured member (by simpa using wanted) pattern
  · intro cls member
    exact (stands cls.name).trans (settled.find?_of_mem member)
  · rw [source_resolveParams]
    by_cases none : params = [] <;> simp [none]

/-! ## A page at a desk -/

namespace Desk

def page : Handle where
  cls := .named "Page"
  signature :=
    "constructor(private users: Arc<UserService>, cache, \x7b a \x7d, logger: Logger, clock: Clock)"

/-- Two of the classes have one name. -/
def services : List Class :=
  [⟨"first", "UserService"⟩, ⟨"second", "UserService"⟩, .named "CacheService"]

/-- Nothing is written in the registry, and the page carries no types. -/
def reflection : Reflection where
  store := { name := "desk" }

/-- The users are found under their type, the first of two, and the cache under the name guessed for
it; the pattern and the clock are missing, and the logger is supplied. -/
theorem resolution_of_signature_desk :
    let resolution := (resolveAmong reflection page (.anonymous 0) services {}).1
    reflection.constructorTypes? page = none ∧
      Signature.Settles services (Signature.params page.signature)
        [⟨"first", "UserService"⟩, .named "CacheService"] resolution.unresolved ∧
      resolution.unresolved.map (·.text) = ["\x7b a \x7d", "clock: Clock"] ∧
      resolution.source ≠ .empty := by
  intro resolution
  have unknown : reflection.constructorTypes? page = none := rfl
  have read : resolution.dependencies = [⟨"first", "UserService"⟩, .named "CacheService"] ∧
      resolution.unresolved.map (·.text) = ["\x7b a \x7d", "clock: Clock"] ∧
      Signature.params page.signature ≠ [] := by
    decide +kernel
  obtain ⟨found, missing, some⟩ := read
  obtain ⟨settles, -, -, -, -, empty⟩ := resolution_of_signature unknown (.anonymous 0) services {}
  exact ⟨unknown, (settles _ _).mpr ⟨found.symm, rfl⟩, missing, mt empty.mp some⟩

end Desk

/-- With more classes made available behind the others, a parameter that was resolved is resolved to
the same class. So the dependencies are those from before, perhaps with others in between, what is
unresolved was unresolved before, and it is read from the same source. -/
theorem resolution_of_more_classes (reflection : Reflection) (handle : Handle) (scope other : Scope)
    (classes more : List Class) (ledger again : Ledger) :
    let fewer := (Available.addAll { scope } classes ledger).1
    let available := (Available.addAll { scope := other } (classes ++ more) again).1
    let before := (resolveAmong reflection handle scope classes ledger).1
    let after := (resolveAmong reflection handle other (classes ++ more) again).1
    (∀ param ∈ Signature.params handle.signature, ∀ cls, param.resolve? fewer = some cls →
        param.resolve? available = some cls) ∧
      before.dependencies.Sublist after.dependencies ∧
      after.unresolved.Sublist before.unresolved ∧ after.source = before.source := by
  intro fewer available before after
  have stands := Available.get?_addAll scope classes ledger
  have restands := Available.get?_addAll other (classes ++ more) again
  refine ⟨fun param _ cls hit => ?_, ?_⟩
  · obtain ⟨name, lookedUp, known⟩ := Signature.Param.resolve?_eq_some_iff.mp hit
    refine Signature.Param.resolve?_eq_some_iff.mpr ⟨name, lookedUp, ?_⟩
    rw [restands, List.find?_append, ← stands, known, Option.some_or]
  show before.dependencies.Sublist after.dependencies ∧ _
  rw [show before = _ from resolveAmong_fst .., show after = _ from resolveAmong_fst .., resolve,
    resolve]
  cases reflection.constructorTypes? handle with
  | some answer => exact ⟨.refl _, .refl _, rfl⟩
  | none =>
    -- Both runs settle the same parameters.
    have settled := (Signature.settles_iff_resolveParams stands
      (Signature.params handle.signature) _ _).mpr ⟨rfl, rfl⟩
    obtain ⟨found, missing, resettled, finds, misses⟩ := settled.exists_append more
    obtain ⟨rfl, rfl⟩ := (Signature.settles_iff_resolveParams restands _ _ _).mp resettled
    refine ⟨finds, misses, ?_⟩
    rw [source_resolveParams, source_resolveParams]

end Trellis
