import Trellis.Proofs.Signature.Brackets
/-!
# Types as written

The types that parameters are annotated with: a path with generic arguments, behind references,
lifetimes and the words `mut`, `dyn`, `impl`, inside wrappers, nested in any order.

A name can be read from more texts than can stand in a parameter list. `Spells` has any text between the
brackets of a path and blanks wherever they are skipped; `TypeExpr` are those whose brackets are nested.
-/

namespace Trellis.Signature

open Trellis.Text

/-- The wrappers that stand for the type inside them. -/
inductive Wrapper
  | arc
  | rc
  | box
  | option
  | weak
  | mutex
  deriving DecidableEq

def Wrapper.word : Wrapper → Word
  | .arc => ⟨"Arc".toList, by decide, by decide⟩
  | .rc => ⟨"Rc".toList, by decide, by decide⟩
  | .box => ⟨"Box".toList, by decide, by decide⟩
  | .option => ⟨"Option".toList, by decide, by decide⟩
  | .weak => ⟨"Weak".toList, by decide, by decide⟩
  | .mutex => ⟨"Mutex".toList, by decide, by decide⟩

/-- The words that stand before a type without being part of its name. -/
inductive Marker
  | mutable
  | dynamic
  | implementing
  deriving DecidableEq

def Marker.word : Marker → Word
  | .mutable => ⟨"mut".toList, by decide, by decide⟩
  | .dynamic => ⟨"dyn".toList, by decide, by decide⟩
  | .implementing => ⟨"impl".toList, by decide, by decide⟩

theorem Marker.eq_of_word {marker other : Marker} (same : marker.word.chars = other.word.chars) :
    marker = other := by
  cases marker <;> cases other <;> first | rfl | exact absurd same (by decide)

/-- Generic arguments: any text whose brackets are balanced, between `<` and `>`. -/
structure Arguments where
  inner : List Char
  balanced : Balanced true inner
  /-- Otherwise the closing bracket would be read as an arrow. -/
  noArrow : inner.getLast? ≠ some '-'

def Arguments.chars (arguments : Arguments) : List Char :=
  '<' :: (arguments.inner ++ ['>'])

/-- The name behind the modules that lead to it. -/
def pathChars (modules : List Word) (name : Word) : List Char :=
  modules.flatMap (fun module => module.chars ++ [':', ':']) ++ name.chars

/-- A named type that is no wrapper. -/
structure Leaf where
  modules : List Word
  name : Word
  arguments : Option Arguments
  noWrapper : ∀ wrapper : Wrapper, name.chars ≠ wrapper.word.chars

def Leaf.argumentChars (leaf : Leaf) : List Char :=
  match leaf.arguments with
  | none => []
  | some arguments => arguments.chars

def Leaf.chars (leaf : Leaf) : List Char :=
  pathChars leaf.modules leaf.name ++ leaf.argumentChars

/-- A type as it is written. -/
inductive TypeExpr
  | named (leaf : Leaf)
  | reference (referent : TypeExpr)
  | borrowed (lifetime : Word) (referent : TypeExpr)
  | marked (marker : Marker) (inner : TypeExpr)
  | wrapped (modules : List Word) (wrapper : Wrapper) (inner : TypeExpr)

namespace TypeExpr

def chars : TypeExpr → List Char
  | named leaf => leaf.chars
  | reference referent => '&' :: referent.chars
  | borrowed lifetime referent => '&' :: '\'' :: (lifetime.chars ++ ' ' :: referent.chars)
  | marked marker inner => marker.word.chars ++ ' ' :: inner.chars
  | wrapped modules wrapper inner =>
    pathChars modules wrapper.word ++ '<' :: (inner.chars ++ ['>'])

/-- The name at the core of the type. -/
def name : TypeExpr → Word
  | named leaf => leaf.name
  | reference referent => referent.name
  | borrowed _ referent => referent.name
  | marked _ inner => inner.name
  | wrapped _ _ inner => inner.name

end TypeExpr

/-! ## Paths -/

variable {modules : List Word} {name : Word} {c : Char} {rest : List Char}

theorem pathChars_cons {module : Word} :
    pathChars (module :: modules) name = module.chars ++ ':' :: ':' :: pathChars modules name := by
  simp [pathChars]

/-- A path starts with a word that ends where the path does or at a colon. -/
theorem exists_word_of_path (modules : List Word) (name : Word) :
    ∃ (word : Word) (others : List Char),
      pathChars modules name = word.chars ++ others ∧ ∀ c ∈ others.head?, c = ':' := by
  cases modules with
  | nil => exact ⟨name, [], by simp [pathChars], by simp⟩
  | cons module others => exact ⟨module, _, pathChars_cons, by simp⟩

/-- A path is made of identifier characters and colons. -/
theorem mem_pathChars (member : c ∈ pathChars modules name) :
    isIdentifierChar c = true ∨ c = ':' := by
  induction modules with
  | nil => exact .inl (name.identifier c (by simpa [pathChars] using member))
  | cons module others ih =>
    rw [pathChars_cons] at member
    simp only [List.mem_append, List.mem_cons] at member
    rcases member with member | rfl | rfl | member
    · exact .inl (module.identifier c member)
    · exact .inr rfl
    · exact .inr rfl
    · exact ih member

theorem pathChars_notMem (outside : isIdentifierChar c = false) (other : c ≠ ':') :
    c ∉ pathChars modules name := by
  intro member
  rcases mem_pathChars member with identifier | colon
  · rw [identifier] at outside
    cases outside
  · exact other colon

theorem balanced_pathChars {commas : Bool} (modules : List Word) (name : Word) :
    Balanced commas (pathChars modules name) := by
  induction modules with
  | nil => simpa [pathChars] using Balanced.word name
  | cons module others ih =>
    rw [pathChars_cons]
    exact (Balanced.word module).append
      (.plain (by decide) nofun (.plain (by decide) nofun ih))

theorem pathChars_ne_nil : pathChars modules name ≠ [] := by
  rw [pathChars]
  exact List.append_ne_nil_of_right_ne_nil _ name.nonempty

/-- The text starts with an identifier character. -/
theorem isIdentifierChar_of_head_path :
    ∀ c ∈ (pathChars modules name ++ rest).head?, isIdentifierChar c = true := by
  obtain ⟨word, others, split, -⟩ := exists_word_of_path modules name
  rw [split, List.append_assoc]
  exact word.identifier_of_head

/-! ## Spellings -/

/-- Generic arguments as they may be written: any text between angle brackets. -/
def genericChars : Option (List Char) → List Char
  | none => []
  | some inner => '<' :: (inner ++ ['>'])

theorem head_genericChars (arguments : Option (List Char)) :
    ∀ c ∈ (genericChars arguments).head?, c = '<' := by
  cases arguments with
  | none => nofun
  | some inner => simp [genericChars]

/-- The beginning of a text that is dropped for a marker. -/
def Marker.chars (marker : Marker) : List Char :=
  marker.word.chars ++ [' ']

theorem Marker.identifier_of_head (marker : Marker) :
    ∀ c ∈ (marker.chars ++ rest).head?, isIdentifierChar c = true := by
  rw [Marker.chars, List.append_assoc]
  exact marker.word.identifier_of_head

/-- The texts that spell a type with the name at its core. -/
inductive Spells (name : Word) : List Char → Prop
  | path (modules : List Word) (arguments : Option (List Char))
    (noWrapper : ∀ wrapper : Wrapper, name.chars ≠ wrapper.word.chars) :
    Spells name (pathChars modules name ++ genericChars arguments)
  | reference (gap : Blanks) {text : List Char} (referent : Spells name text) :
    Spells name ('&' :: (gap.chars ++ text))
  | borrowed (lifetime : Word) (gap : Blanks) (spaced : gap.chars ≠ []) {text : List Char}
    (referent : Spells name text) :
    Spells name ('&' :: '\'' :: (lifetime.chars ++ (gap.chars ++ text)))
  | marked (marker : Marker) (gap : Blanks) {text : List Char} (inner : Spells name text) :
    Spells name (marker.chars ++ (gap.chars ++ text))
  | wrapped (modules : List Word) (wrapper : Wrapper) (before after : Blanks) {text : List Char}
    (inner : Spells name text) :
    Spells name (pathChars modules wrapper.word ++
      '<' :: (before.chars ++ text ++ after.chars ++ ['>']))

namespace Spells

variable {text : List Char}

theorem ne_nil (spells : Spells name text) : text ≠ [] := by
  cases spells with
  | path | wrapped => exact List.append_ne_nil_of_left_ne_nil pathChars_ne_nil _
  | reference | borrowed => exact List.cons_ne_nil _ _
  | marked marker => exact List.append_ne_nil_of_left_ne_nil (by simp [Marker.chars]) _

/-- A type starts with a word or with a reference mark. -/
theorem head (spells : Spells name text) :
    ∀ c ∈ text.head?, isIdentifierChar c = true ∨ c = '&' := by
  intro c first
  cases spells with
  | path | wrapped => exact .inl (isIdentifierChar_of_head_path c first)
  | reference | borrowed =>
    cases first
    exact .inr rfl
  | marked marker =>
    exact .inl (marker.identifier_of_head c first)

/-- A type ends in a word or in the bracket that closes its arguments. -/
theorem last (spells : Spells name text) :
    ∀ c ∈ text.getLast?, isIdentifierChar c = true ∨ c = '>' := by
  induction spells with
  | path modules arguments =>
    intro c final
    cases arguments with
    | none =>
      rw [genericChars, List.append_nil, pathChars,
        List.getLast?_append_of_ne_nil _ name.nonempty] at final
      exact .inl (name.identifier c (List.mem_of_getLast? final))
    | some inner =>
      rw [genericChars, ← List.cons_append, ← List.append_assoc, List.getLast?_concat] at final
      exact .inr (Option.some.inj final).symm
  | @reference gap text referent ih =>
    intro c final
    rw [← List.cons_append, List.getLast?_append_of_ne_nil _ referent.ne_nil] at final
    exact ih c final
  | @borrowed lifetime gap spaced text referent ih =>
    intro c final
    rw [← List.append_assoc, ← List.cons_append, ← List.cons_append,
      List.getLast?_append_of_ne_nil _ referent.ne_nil] at final
    exact ih c final
  | @marked marker gap text inner ih =>
    intro c final
    rw [← List.append_assoc, List.getLast?_append_of_ne_nil _ inner.ne_nil] at final
    exact ih c final
  | wrapped =>
    intro c final
    rw [← List.cons_append, ← List.append_assoc, List.getLast?_concat] at final
    exact .inr (Option.some.inj final).symm

theorem tight (spells : Spells name text) : Tight text where
  head := by
    intro c first
    rcases spells.head c first with identifier | rfl
    · exact isBlank_of_isIdentifierChar identifier
    · decide
  last := by
    intro c final
    rcases spells.last c final with identifier | rfl
    · exact isBlank_of_isIdentifierChar identifier
    · decide

end Spells

/-! ## Both ends of a type -/

namespace TypeExpr

theorem spells (type : TypeExpr) : Spells type.name type.chars := by
  induction type with
  | named leaf =>
    have shape : leaf.argumentChars = genericChars (leaf.arguments.map Arguments.inner) := by
      unfold Leaf.argumentChars
      cases leaf.arguments <;> rfl
    rw [chars, Leaf.chars, shape]
    exact .path leaf.modules _ leaf.noWrapper
  | reference referent ih => exact .reference ⟨[], rfl⟩ ih
  | borrowed lifetime referent ih => exact .borrowed lifetime ⟨[' '], rfl⟩ (by simp) ih
  | marked marker inner ih =>
    have spelled := Spells.marked marker ⟨[], rfl⟩ ih
    rwa [Marker.chars, List.append_assoc] at spelled
  | wrapped modules wrapper inner ih =>
    have spelled := Spells.wrapped modules wrapper ⟨[], rfl⟩ ⟨[], rfl⟩ ih
    rwa [List.nil_append, List.append_nil] at spelled

theorem chars_ne_nil (type : TypeExpr) : type.chars ≠ [] :=
  type.spells.ne_nil

theorem tight_chars (type : TypeExpr) : Tight type.chars :=
  type.spells.tight

/-- All commas of a type are inside brackets, and its brackets are nested. -/
theorem balanced_chars (type : TypeExpr) : Balanced false type.chars := by
  induction type with
  | named leaf =>
    refine (balanced_pathChars leaf.modules leaf.name).append ?_
    unfold Leaf.argumentChars
    cases leaf.arguments with
    | none => exact .nil
    | some arguments => exact .angle arguments.balanced arguments.noArrow .nil
  | reference referent ih => exact .plain (by decide) nofun ih
  | borrowed lifetime referent ih =>
    exact .plain (by decide) nofun (.plain (by decide) nofun
      ((Balanced.word lifetime).append (.plain (by decide) nofun ih)))
  | marked marker inner ih =>
    exact (Balanced.word marker.word).append (.plain (by decide) nofun ih)
  | wrapped modules wrapper inner ih =>
    have noArrow : inner.chars.getLast? ≠ some '-' := by
      intro arrow
      rcases inner.spells.last '-' arrow with identifier | bracket
      · exact absurd identifier (by decide)
      · exact absurd bracket (by decide)
    exact (balanced_pathChars modules wrapper.word).append (.angle ih.listed noArrow .nil)

end TypeExpr

end Trellis.Signature
