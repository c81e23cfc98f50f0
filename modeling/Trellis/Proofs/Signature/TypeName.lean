import Trellis.Proofs.Signature.Rounds
import Trellis.Proofs.Signature.Types
/-!
# The name of a type

A type is spelled by a path behind references, lifetimes and markers, inside wrappers, nested in any
order; whatever stands between the angle brackets of the path does not matter. What a round leaves of
such a spelling is a spelling of the same name, and the rounds end at a path, which ends in that name.
-/

namespace Trellis.Signature

open Trellis.Text

variable {text front rest path : List Char} {modules : List Word} {name : Word}

/-! ## The last segment of a path -/

/-- The modules in front of a name. -/
def modulesChars (modules : List Word) : List Char :=
  modules.flatMap fun module => module.chars ++ [':', ':']

/-- The modules in front are no part of the last segment. -/
theorem lastSegment_modulesChars (modules : List Word) (plain : ':' ∉ text) :
    lastSegment (modulesChars modules ++ text) = text := by
  rcases modules.eq_nil_or_concat with rfl | ⟨outer, module, rfl⟩
  · show (afterLastColons text).getD text = text
    rw [afterLastColons_eq_none plain, Option.getD_none]
  · have split : modulesChars (outer.concat module) ++ text =
        (modulesChars outer ++ module.chars) ++ ':' :: ':' :: text := by
      simp [modulesChars]
    rw [split, lastSegment, afterLastColons_colons plain, Option.getD_some]

theorem lastSegment_pathChars (modules : List Word) (name : Word) :
    lastSegment (pathChars modules name) = name.chars :=
  lastSegment_modulesChars modules (name.notMem (by decide))

/-- A path goes up to the bracket that opens its arguments. -/
theorem beforeAngle_append (plain : '<' ∉ path) (opened : ∀ c ∈ rest.head?, c = '<') :
    beforeAngle (path ++ rest) = path := by
  cases rest with
  | nil =>
    rw [List.append_nil, beforeAngle, List.takeWhile_eq_self_iff]
    intro c member
    simpa using ne_of_mem_of_not_mem member plain
  | cons c tail =>
    rw [opened c rfl]
    exact takeWhile_append_cons plain

theorem beforeAngle_pathChars (opened : ∀ c ∈ rest.head?, c = '<') :
    beforeAngle (pathChars modules name ++ rest) = pathChars modules name :=
  beforeAngle_append (pathChars_notMem (by decide) (by decide)) opened

theorem pathName_pathChars (arguments : Option (List Char)) :
    pathName (pathChars modules name ++ genericChars arguments) = name.chars := by
  rw [pathName, beforeAngle_pathChars (head_genericChars arguments), lastSegment_pathChars,
    List.filter_eq_self]
  intro c member
  simp [name.isBlank_eq_false c member]

/-! ## Opening wrappers -/

theorem mem_transparentWrappers_iff {text : List Char} :
    transparentWrappers.any (·.toList == text) = true ↔
      ∃ wrapper : Wrapper, text = wrapper.word.chars := by
  rw [List.any_eq_true]
  constructor
  · rintro ⟨word, listed, same⟩
    rw [← eq_of_beq same]
    simp only [transparentWrappers, List.mem_cons, List.not_mem_nil, or_false] at listed
    rcases listed with rfl | rfl | rfl | rfl | rfl | rfl
    · exact ⟨.arc, rfl⟩
    · exact ⟨.rc, rfl⟩
    · exact ⟨.box, rfl⟩
    · exact ⟨.option, rfl⟩
    · exact ⟨.weak, rfl⟩
    · exact ⟨.mutex, rfl⟩
  · rintro ⟨wrapper, rfl⟩
    cases wrapper with
    | arc => exact ⟨"Arc", by decide, beq_self_eq_true _⟩
    | rc => exact ⟨"Rc", by decide, beq_self_eq_true _⟩
    | box => exact ⟨"Box", by decide, beq_self_eq_true _⟩
    | option => exact ⟨"Option", by decide, beq_self_eq_true _⟩
    | weak => exact ⟨"Weak", by decide, beq_self_eq_true _⟩
    | mutex => exact ⟨"Mutex", by decide, beq_self_eq_true _⟩

/-- A wrapper is opened whatever is inside it: the first `<` and the last `>` are its own. -/
theorem unwrap?_of_segment {wrapper : Wrapper} (plain : '<' ∉ path)
    (segment : trim (lastSegment path) = wrapper.word.chars) (inner : List Char) :
    unwrap? (path ++ '<' :: (inner ++ ['>'])) = some (trim inner) := by
  have transparent : transparentWrappers.any (·.toList == wrapper.word.chars) = true :=
    mem_transparentWrappers_iff.mpr ⟨wrapper, rfl⟩
  have closed : beforeLastClosing (inner ++ ['>']) = some inner := by simp [beforeLastClosing]
  rw [unwrap?, beforeAngle_append plain (by simp), segment, if_pos transparent,
    dropWhile_append_cons plain, List.tail_cons, closed, Option.map_some]

theorem unwrap?_wrapper (modules : List Word) (wrapper : Wrapper) (inner : List Char) :
    unwrap? (pathChars modules wrapper.word ++ '<' :: (inner ++ ['>'])) = some (trim inner) := by
  have segment : trim (lastSegment (pathChars modules wrapper.word)) = wrapper.word.chars := by
    rw [lastSegment_pathChars, wrapper.word.tight.trim]
  exact unwrap?_of_segment (pathChars_notMem (by decide) (by decide)) segment inner

theorem unwrap?_pathChars (arguments : Option (List Char))
    (noWrapper : ∀ wrapper : Wrapper, name.chars ≠ wrapper.word.chars) :
    unwrap? (pathChars modules name ++ genericChars arguments) = none := by
  rw [unwrap?, beforeAngle_pathChars (head_genericChars arguments), lastSegment_pathChars,
    name.tight.trim]
  refine if_neg fun transparent => ?_
  obtain ⟨wrapper, same⟩ := mem_transparentWrappers_iff.mp transparent
  exact noWrapper wrapper same

/-- Marks in front of a type either do not matter to its last segment or are read as a part of it,
which then is no wrapper. -/
theorem unwrap?_append (text : List Char) (colon : ':' ∉ front) (angle : '<' ∉ front)
    (head : ∃ c ∈ front.head?, isBlank c = false)
    (letter : ∀ wrapper : Wrapper, front.head? ≠ wrapper.word.chars.head?) :
    unwrap? (front ++ text) = unwrap? text ∨ unwrap? (front ++ text) = none := by
  have passed : ∀ d ∈ front, (d != '<') = true := by
    intro d member
    simpa using ne_of_mem_of_not_mem member angle
  have before : beforeAngle (front ++ text) = front ++ beforeAngle text :=
    List.takeWhile_append_of_pos passed
  have behind : (front ++ text).dropWhile (· != '<') = text.dropWhile (· != '<') :=
    List.dropWhile_append_of_pos passed
  unfold unwrap?
  rw [before, behind]
  rcases lastSegment_append (beforeAngle text) colon with same | whole
  · rw [same]
    exact .inl rfl
  · -- The whole text is one segment, which starts like no wrapper does.
    right
    rw [whole]
    refine if_neg fun transparent => ?_
    obtain ⟨wrapper, same⟩ := mem_transparentWrappers_iff.mp transparent
    obtain ⟨c, first, blank⟩ := head
    obtain ⟨tail, rfl⟩ := List.head?_eq_some_iff.mp first
    rw [List.cons_append, trim, trimStart_cons blank, trimEnd_cons blank] at same
    exact letter wrapper (by rw [← same]; rfl)

/-! ## Dropping marks -/

/-- Without a reference in front nothing is dropped. -/
theorem dropReferences_eq_self (head : ∀ c ∈ text.head?, isIdentifierChar c = true) :
    dropLifetime (trimStart (text.dropWhile (· == '&'))) = text := by
  cases text with
  | nil => rfl
  | cons c rest =>
    have identifier := head c rfl
    have ampersand : c ≠ '&' := by
      rintro rfl
      exact absurd identifier (by decide)
    have quote : c ≠ '\'' := by
      rintro rfl
      exact absurd identifier (by decide)
    rw [List.dropWhile_cons_of_neg (by simpa using ampersand),
      trimStart_cons (isBlank_of_isIdentifierChar identifier), dropLifetime,
      if_neg (by simpa using quote)]

/-- A word with no space behind it is not read as a marker. -/
theorem dropModifier_word (marker : Marker) (word : Word)
    (next : ∀ c ∈ rest.head?, isIdentifierChar c = false ∧ c ≠ ' ') :
    dropModifier (word.chars ++ rest) marker.chars = word.chars ++ rest := by
  refine dropModifier_eq_self fun others same => ?_
  rw [Marker.chars, List.append_assoc, List.singleton_append] at same
  have space : ∀ c ∈ (' ' :: others).head?, isIdentifierChar c = false := by
    intro c first
    cases first
    decide
  have behind := (Word.append_inj (fun c first => (next c first).1) space same).2
  exact (next ' ' (by rw [behind]; rfl)).2 rfl

theorem dropModifier_ampersand (marker : Marker) (rest : List Char) :
    dropModifier ('&' :: rest) marker.chars = '&' :: rest := by
  refine dropModifier_eq_self fun others same => ?_
  have identifier := marker.identifier_of_head '&' (congrArg List.head? same).symm
  exact absurd identifier (by decide)

theorem peel_eq (text : List Char) :
    peel text = dropModifier (dropModifier (dropModifier
      (dropLifetime (trimStart (text.dropWhile (· == '&')))) Marker.mutable.chars)
      Marker.dynamic.chars) Marker.implementing.chars := by
  have modifiers : typeModifiers.map String.toList =
      [Marker.mutable.chars, Marker.dynamic.chars, Marker.implementing.chars] := by decide
  rw [peel, ← List.foldl_map, modifiers]
  rfl

/-- A round that peels nothing drops neither references nor a marker. -/
theorem dropped_eq_self_of_peel (unchanged : peel text = text) :
    dropLifetime (trimStart (text.dropWhile (· == '&'))) = text ∧
      ∀ marker : Marker, dropModifier text marker.chars = text := by
  rw [peel_eq] at unchanged
  -- What is left after each step is an end of what was left before, and in the end all is left.
  have first := dropReferences_suffix text
  generalize dropLifetime (trimStart (text.dropWhile (· == '&'))) = left at unchanged first
  have second := dropModifier_suffix left Marker.mutable.chars
  generalize mutable : dropModifier left Marker.mutable.chars = left' at unchanged second
  have third := dropModifier_suffix left' Marker.dynamic.chars
  generalize dynamic : dropModifier left' Marker.dynamic.chars = left'' at unchanged third
  have last : text <:+ left'' := unchanged ▸ dropModifier_suffix left'' Marker.implementing.chars
  obtain rfl := first.eq_of_length_le (last.trans (third.trans second)).length_le
  obtain rfl := second.eq_of_length_le (last.trans third).length_le
  obtain rfl := third.eq_of_length_le last.length_le
  refine ⟨rfl, fun marker => ?_⟩
  cases marker with
  | mutable => exact mutable
  | dynamic => exact dynamic
  | implementing => exact unchanged

/-- A word that ends with a mark is left as it is. -/
theorem peel_word (word : Word) (next : ∀ c ∈ rest.head?, isIdentifierChar c = false ∧ c ≠ ' ') :
    peel (word.chars ++ rest) = word.chars ++ rest := by
  rw [peel_eq, dropReferences_eq_self word.identifier_of_head, dropModifier_word _ word next,
    dropModifier_word _ word next, dropModifier_word _ word next]

/-! ## Opening a spelling -/

/-- What is opened at the front of the text, if anything, spells the name. -/
def OpensTo (name : Word) (text : List Char) : Prop :=
  unwrap? text = none ∨ ∃ inner, unwrap? text = some inner ∧ Spells name inner

theorem OpensTo.append (opens : OpensTo name text) (colon : ':' ∉ front) (angle : '<' ∉ front)
    (head : ∃ c ∈ front.head?, isBlank c = false)
    (letter : ∀ wrapper : Wrapper, front.head? ≠ wrapper.word.chars.head?) :
    OpensTo name (front ++ text) := by
  unfold OpensTo
  rcases unwrap?_append text colon angle head letter with same | none
  · rwa [same]
  · exact .inl none

namespace Spells

/-! ## What a round leaves of a spelling -/

theorem dropLifetime_eq_self (spells : Spells name text) : dropLifetime text = text := by
  refine if_neg fun quote => ?_
  rcases spells.head '\'' quote with identifier | ampersand
  · exact absurd identifier (by decide)
  · exact absurd ampersand (by decide)

theorem dropReferences (spells : Spells name text) :
    Spells name (dropLifetime (trimStart (text.dropWhile (· == '&')))) := by
  induction spells with
  | path modules arguments noWrapper =>
    rw [dropReferences_eq_self isIdentifierChar_of_head_path]
    exact .path modules arguments noWrapper
  | @reference gap text referent ih =>
    show Spells name (dropLifetime (trimStart ((gap.chars ++ text).dropWhile (· == '&'))))
    cases shape : gap.chars with
    | nil => exact ih
    | cons blank others =>
      -- The blanks behind the mark end the run of marks.
      have other : blank ≠ '&' := by
        rintro rfl
        exact gap.notMem (by decide) (shape ▸ List.mem_cons_self)
      rw [List.cons_append, List.dropWhile_cons_of_neg (by simpa using other), ← List.cons_append,
        ← shape, trimStart_append_of_blank, trimStart_eq_self referent.tight.head,
        referent.dropLifetime_eq_self]
      exact referent
  | @borrowed lifetime gap spaced text referent _ =>
    have quoted : ('&' :: '\'' :: (lifetime.chars ++ (gap.chars ++ text))).dropWhile (· == '&') =
        '\'' :: lifetime.chars ++ (gap.chars ++ text) := rfl
    have solid : ∀ c ∈ '\'' :: lifetime.chars, (!isBlank c) = true := by
      intro c member
      rcases List.mem_cons.mp member with rfl | member
      · decide
      · simp [lifetime.isBlank_eq_false c member]
    have stop : (gap.chars ++ text).dropWhile (fun c => !isBlank c) = gap.chars ++ text := by
      obtain ⟨blank, others, shape⟩ := List.exists_cons_of_ne_nil spaced
      have first : isBlank blank = true := gap.blank blank (shape ▸ List.mem_cons_self)
      rw [shape, List.cons_append, List.dropWhile_cons_of_neg (by simp [first])]
    rw [quoted, List.cons_append, trimStart_cons (by decide), dropLifetime, List.head?_cons,
      if_pos rfl, ← List.cons_append, List.dropWhile_append_of_pos solid, stop,
      trimStart_append_of_blank, trimStart_eq_self referent.tight.head]
    exact referent
  | @marked marker gap text inner _ =>
    rw [dropReferences_eq_self marker.identifier_of_head]
    exact .marked marker gap inner
  | wrapped modules wrapper before after inner _ =>
    rw [dropReferences_eq_self isIdentifierChar_of_head_path]
    exact .wrapped modules wrapper before after inner

/-- A path is no marker: behind its first word stands a colon, a bracket or nothing. -/
theorem dropModifier_path (marker : Marker) (opened : ∀ c ∈ rest.head?, c = '<') :
    dropModifier (pathChars modules name ++ rest) marker.chars = pathChars modules name ++ rest := by
  obtain ⟨word, segments, split, colon⟩ := exists_word_of_path modules name
  rw [split, List.append_assoc]
  refine dropModifier_word marker word fun c first => ?_
  have mark : c = ':' ∨ c = '<' := by
    cases segments with
    | nil => exact .inr (opened c first)
    | cons d tail => exact .inl (colon c first)
  rcases mark with rfl | rfl <;> decide

theorem dropModifier (spells : Spells name text) (marker : Marker) :
    Spells name (Signature.dropModifier text marker.chars) := by
  cases spells with
  | path modules arguments noWrapper =>
    rw [dropModifier_path marker (head_genericChars arguments)]
    exact .path modules arguments noWrapper
  | reference gap referent =>
    rw [dropModifier_ampersand]
    exact .reference gap referent
  | borrowed lifetime gap spaced referent =>
    rw [dropModifier_ampersand]
    exact .borrowed lifetime gap spaced referent
  | marked other gap inner =>
    by_cases same : other = marker
    · subst same
      rw [dropModifier_append, trimStart_append_of_blank, trimStart_eq_self inner.tight.head]
      exact inner
    · rw [dropModifier_eq_self]
      · exact .marked other gap inner
      · intro rest prefixed
        refine same (Marker.eq_of_word ?_)
        simp only [Marker.chars, List.append_assoc, List.singleton_append] at prefixed
        exact (append_cons_inj (other.word.notMem (by decide)) (marker.word.notMem (by decide))
          prefixed).1
  | wrapped modules wrapper before after inner =>
    rw [dropModifier_path marker (by simp)]
    exact .wrapped modules wrapper before after inner

theorem peel (spells : Spells name text) : Spells name (Signature.peel text) := by
  rw [peel_eq]
  exact ((spells.dropReferences.dropModifier _).dropModifier _).dropModifier _

theorem opensTo (spells : Spells name text) : OpensTo name text := by
  have ampersand : ∀ wrapper : Wrapper, some '&' ≠ wrapper.word.chars.head? := by
    intro wrapper
    cases wrapper <;> decide
  induction spells with
  | path modules arguments noWrapper => exact .inl (unwrap?_pathChars arguments noWrapper)
  | @reference gap text referent ih =>
    have absent : ∀ c, isBlank c = false → c ≠ '&' → c ∉ '&' :: gap.chars := by
      intro c outside other
      rw [List.mem_cons, not_or]
      exact ⟨other, gap.notMem outside⟩
    rw [← List.cons_append]
    exact ih.append (absent ':' (by decide) (by decide)) (absent '<' (by decide) (by decide))
      ⟨'&', rfl, by decide⟩ ampersand
  | @borrowed lifetime gap spaced text referent ih =>
    have absent : ∀ c, isIdentifierChar c = false → isBlank c = false → c ∉ ['&', '\''] →
        c ∉ '&' :: '\'' :: (lifetime.chars ++ gap.chars) := by
      intro c outside solid other
      simp only [List.mem_cons, List.mem_append, List.not_mem_nil, or_false, not_or] at other ⊢
      exact ⟨other.1, other.2, lifetime.notMem outside, gap.notMem solid⟩
    rw [← List.append_assoc, ← List.cons_append, ← List.cons_append]
    exact ih.append (absent ':' (by decide) (by decide) (by decide))
      (absent '<' (by decide) (by decide) (by decide)) ⟨'&', rfl, by decide⟩ ampersand
  | @marked marker gap text inner ih =>
    have absent : ∀ c, isIdentifierChar c = false → isBlank c = false →
        c ∉ marker.chars ++ gap.chars := by
      intro c outside solid
      have space : c ≠ ' ' := by
        rintro rfl
        exact absurd solid (by decide)
      simp only [Marker.chars, List.mem_append, List.mem_singleton, not_or]
      exact ⟨⟨marker.word.notMem outside, space⟩, gap.notMem solid⟩
    rw [← List.append_assoc]
    refine ih.append (absent ':' (by decide) (by decide)) (absent '<' (by decide) (by decide)) ?_ ?_
    · cases marker <;> exact ⟨_, rfl, by decide⟩
    · intro wrapper
      rw [Marker.chars, List.append_assoc, List.head?_append_of_ne_nil _ marker.word.nonempty]
      cases marker <;> cases wrapper <;> decide
  | @wrapped modules wrapper before after text inner ih =>
    refine .inr ⟨text, ?_, inner⟩
    rw [unwrap?_wrapper, List.append_assoc, trim_append_of_blank,
      inner.tight.trim_append after inner.ne_nil]

/-! ## The rounds -/

/-- A text is shorter without the references in front of it. -/
theorem dropReferences_ampersand_ne :
    dropLifetime (trimStart (('&' :: rest).dropWhile (· == '&'))) ≠ '&' :: rest := by
  intro same
  have shorter := (dropReferences_suffix rest).length_le
  have whole := congrArg List.length same
  simp only [List.length_cons] at whole
  have dropped : ('&' :: rest).dropWhile (· == '&') = rest.dropWhile (· == '&') := rfl
  rw [dropped] at whole
  omega

/-- A spelling that is neither peeled nor opened is a path. -/
theorem pathName_of_done (spells : Spells name text) (unchanged : Signature.peel text = text)
    (closed : unwrap? text = none) : pathName text = name.chars := by
  obtain ⟨references, markers⟩ := dropped_eq_self_of_peel unchanged
  cases spells with
  | path modules arguments => exact pathName_pathChars arguments
  | reference | borrowed => exact absurd references dropReferences_ampersand_ne
  | @marked marker gap text inner =>
    have whole := congrArg List.length (markers marker)
    rw [dropModifier_append, List.length_append] at whole
    have shorter := length_trimStart_le (gap.chars ++ text)
    have positive : 0 < marker.chars.length := by cases marker <;> decide
    omega
  | wrapped modules wrapper before after inner =>
    rw [unwrap?_wrapper] at closed
    cases closed

/-- Every round but the last goes on with a spelling of the same name. -/
theorem pathName_reduceType (text : List Char) :
    Spells name text → pathName (reduceType text) = name.chars := by
  fun_induction reduceType text with
  | case1 text inner found _ ih =>
    intro spells
    rcases spells.peel.opensTo with none | ⟨opened, found', again⟩
    · rw [none] at found
      cases found
    · cases Option.some.inj (found'.symm.trans found)
      exact ih again
  | case2 text closed shorter ih => exact fun spells => ih spells.peel
  | case3 text closed unchanged =>
    intro spells
    have same := peel_eq_self_of_length unchanged
    exact spells.pathName_of_done same (same ▸ closed)

theorem bareTypeChars_eq (spells : Spells name text) : bareTypeChars text = name.chars := by
  rw [bareTypeChars, spells.tight.trim, pathName_reduceType text spells]

end Spells

namespace TypeExpr

/-- The name that is read from a written type is the one at its core. -/
theorem bareTypeChars_chars (type : TypeExpr) : bareTypeChars type.chars = type.name.chars :=
  type.spells.bareTypeChars_eq

end TypeExpr

end Trellis.Signature
