import Mathlib.Data.List.TakeWhile
import Trellis.Proofs.Text.Cutting
import Trellis.Proofs.Text.Words
import Trellis.Signature.Opening
/-!
# Constructor openings

A parenthesis opens a constructor when a keyword that stands on its own precedes it, with nothing
but blanks between. The reader scans for keywords, not for parentheses, so what it finds is compared
here with the parentheses of the text.
-/

namespace Trellis.Signature

open Trellis.Text

variable {text body front start : List Char}

/-! ## Openings of a text -/

/-- The words that open a constructor. -/
inductive Keyword
  | new
  | constructor
  deriving DecidableEq

def Keyword.word : Keyword → Word
  | .new => ⟨"new".toList, by decide, by decide⟩
  | .constructor => ⟨"constructor".toList, by decide, by decide⟩

def Keyword.chars (keyword : Keyword) : List Char :=
  keyword.word.chars

/-- A word behind `front` stands on its own: `front` is empty or ends in no identifier character. -/
def Standalone (front : List Char) : Prop :=
  ∀ c ∈ front.getLast?, isIdentifierChar c = false

/-- A `(` behind the text opens a constructor. -/
def Opens (text : List Char) : Prop :=
  ∃ (front : List Char) (keyword : Keyword) (gap : Blanks),
    text = front ++ keyword.chars ++ gap.chars ∧ Standalone front

/-- No parenthesis of the text opens a constructor. -/
def Unopened (text : List Char) : Prop :=
  ∀ upTo rest, text = upTo ++ '(' :: rest → ¬ Opens upTo

/-! ## Reading an opening -/

theorem afterKeyword_eq_some_iff {keyword : List Char} :
    afterKeyword keyword text = some body ↔
      ∃ gap : Blanks, text = keyword ++ gap.chars ++ '(' :: body := by
  constructor
  · intro found
    unfold afterKeyword at found
    split at found
    · cases found
    · rename_i rest start
      split at found
      · rename_i list opened
        cases found
        refine ⟨⟨rest.takeWhile isBlank, List.all_takeWhile⟩, ?_⟩
        rw [eq_append_of_isPrefixOf? start, List.append_assoc, ← opened,
          List.takeWhile_append_dropWhile]
      · cases found
  · rintro ⟨gap, rfl⟩
    have opened : (gap.chars ++ '(' :: body).dropWhile isBlank = '(' :: body := by
      rw [List.dropWhile_append_of_pos gap.blank, List.dropWhile_cons_of_neg (by decide)]
    rw [afterKeyword, List.append_assoc, isPrefixOf?_append]
    simp only [opened]

/-- What precedes the parenthesis of an opening has no parenthesis. -/
theorem Keyword.notMem (keyword : Keyword) (gap : Blanks) : '(' ∉ keyword.chars ++ gap.chars := by
  rw [List.mem_append, not_or]
  exact ⟨keyword.word.notMem (by decide), gap.notMem (by decide)⟩

theorem exists_mem_constructorKeywords_iff {chars : List Char} :
    (∃ word ∈ constructorKeywords, word.toList = chars) ↔
      ∃ keyword : Keyword, keyword.chars = chars := by
  constructor
  · rintro ⟨word, listed, rfl⟩
    simp only [constructorKeywords, List.mem_cons, List.not_mem_nil, or_false] at listed
    rcases listed with rfl | rfl
    · exact ⟨.new, rfl⟩
    · exact ⟨.constructor, rfl⟩
  · rintro ⟨keyword, rfl⟩
    cases keyword with
    | new => exact ⟨"new", by decide, rfl⟩
    | constructor => exact ⟨"constructor", by decide, rfl⟩

theorem exists_keyword_of_openingHere (found : openingHere text = some body) :
    ∃ (keyword : Keyword) (gap : Blanks), text = keyword.chars ++ gap.chars ++ '(' :: body := by
  obtain ⟨word, listed, after⟩ := List.exists_of_findSome?_eq_some found
  obtain ⟨keyword, spelled⟩ := exists_mem_constructorKeywords_iff.mp ⟨word, listed, rfl⟩
  obtain ⟨gap, whole⟩ := afterKeyword_eq_some_iff.mp after
  exact ⟨keyword, gap, by rw [whole, spelled]⟩

theorem openingHere_eq_some_iff :
    openingHere text = some body ↔
      ∃ (keyword : Keyword) (gap : Blanks), text = keyword.chars ++ gap.chars ++ '(' :: body := by
  refine ⟨exists_keyword_of_openingHere, ?_⟩
  rintro ⟨keyword, gap, whole⟩
  obtain ⟨word, listed, spelled⟩ := exists_mem_constructorKeywords_iff.mpr ⟨keyword, rfl⟩
  have after : afterKeyword word.toList text = some body :=
    afterKeyword_eq_some_iff.mpr ⟨gap, by rw [spelled, whole]⟩
  have hit : (openingHere text).isSome := by
    rw [openingHere, List.findSome?_isSome_iff]
    exact ⟨word, listed, by rw [after]; rfl⟩
  -- Whichever keyword is tried first, the text has only one first parenthesis.
  obtain ⟨other, found⟩ := Option.isSome_iff_exists.mp hit
  obtain ⟨keyword', gap', whole'⟩ := exists_keyword_of_openingHere found
  rw [whole] at whole'
  rw [found, (append_cons_inj (keyword.notMem gap) (keyword'.notMem gap') whole').2]

/-! ## The leftmost opening -/

/-- Whether the character before what follows `front` belongs to an identifier, where `before` tells
it of the character before `front`. -/
def endsInIdentifier (before : Bool) (front : List Char) : Bool :=
  (front.getLast?.map isIdentifierChar).getD before

theorem endsInIdentifier_cons (before : Bool) (c : Char) (front : List Char) :
    endsInIdentifier before (c :: front) = endsInIdentifier (isIdentifierChar c) front := by
  rw [endsInIdentifier, endsInIdentifier, List.getLast?_cons]
  cases front.getLast? <;> rfl

theorem endsInIdentifier_eq_false (standalone : Standalone front) :
    endsInIdentifier false front = false := by
  unfold endsInIdentifier
  cases ending : front.getLast? with
  | none => rfl
  | some c => exact standalone c ending

theorem standalone_of_endsInIdentifier (ends : endsInIdentifier false front = false) :
    Standalone front := by
  intro c ending
  rw [Option.mem_def] at ending
  simpa [endsInIdentifier, ending] using ends

/-- An opening behind `front` is found when none starts inside `front`. -/
theorem afterOpening_append {before : Bool} (here : openingHere start = some body)
    (standalone : endsInIdentifier before front = false)
    (first : ∀ shorter other, front = shorter ++ other → other ≠ [] →
      endsInIdentifier before shorter = false → openingHere (other ++ start) = none) :
    afterOpening before (front ++ start) = some body := by
  induction front generalizing before with
  | nil =>
    have apart : before = false := standalone
    cases start with
    | nil => cases here
    | cons c rest => simp [afterOpening, apart, here]
  | cons c rest ih =>
    have none : (if before then none else openingHere (c :: rest ++ start)) = none := by
      cases before with
      | true => rfl
      | false => exact first [] (c :: rest) rfl (List.cons_ne_nil _ _) rfl
    rw [List.cons_append] at none ⊢
    rw [afterOpening, none]
    rw [endsInIdentifier_cons] at standalone
    refine ih standalone ?_
    intro shorter other split nonempty apart
    exact first (c :: shorter) other (by rw [split]; rfl) nonempty
      (by rw [endsInIdentifier_cons]; exact apart)

/-- Neither keyword ends in the other. -/
theorem Keyword.eq_nil_of_append_eq {keyword other : Keyword} {before : List Char}
    (ending : before ++ keyword.chars = other.chars) : before = [] := by
  have suffix : keyword.chars <:+ other.chars := ⟨before, ending⟩
  have same : keyword = other := by
    cases keyword <;> cases other <;> first | rfl | exact absurd suffix (by decide)
  subst same
  simpa using ending

/-- The opening behind a text that none of its own parentheses opens is the leftmost. -/
theorem afterOpening_of_unopened (keyword : Keyword) (gap : Blanks) (standalone : Standalone front)
    (unopened : Unopened front) :
    afterOpening false (front ++ (keyword.chars ++ gap.chars ++ '(' :: body)) = some body := by
  refine afterOpening_append (openingHere_eq_some_iff.mpr ⟨keyword, gap, rfl⟩)
    (endsInIdentifier_eq_false standalone) ?_
  intro shorter other split nonempty apart
  rw [Option.eq_none_iff_forall_ne_some]
  intro early found
  obtain ⟨keyword', gap', whole⟩ := openingHere_eq_some_iff.mp found
  by_cases inside : '(' ∈ other
  · -- The parenthesis of the earlier opening is inside `front`.
    obtain ⟨upTo, rest, shape, absent⟩ := List.eq_append_cons_of_mem inside
    rw [shape, List.append_assoc, List.cons_append] at whole
    have same := (append_cons_inj absent (keyword'.notMem gap') whole).1
    refine unopened (shorter ++ upTo) rest (by rw [split, shape]; simp) ?_
    exact ⟨shorter, keyword', gap', by rw [same, List.append_assoc],
      standalone_of_endsInIdentifier apart⟩
  · -- Both have the same parenthesis, so the earlier keyword ends in the later.
    have absent : '(' ∉ other ++ (keyword.chars ++ gap.chars) := by
      rw [List.mem_append, not_or]
      exact ⟨inside, keyword.notMem gap⟩
    rw [← List.append_assoc] at whole
    have same := (append_cons_inj absent (keyword'.notMem gap') whole).1
    have ending : other ++ keyword.chars = keyword'.chars := by
      have trimmed := congrArg trimEnd same
      rw [← List.append_assoc, ← List.nil_append keyword'.chars] at trimmed
      rwa [Keyword.chars, Keyword.chars, trimEnd_append_word, trimEnd_append_word] at trimmed
    exact nonempty (Keyword.eq_nil_of_append_eq ending)

end Trellis.Signature
