import Mathlib.Data.List.Basic
import Trellis.Text.Alphanumeric
import Trellis.Text.Blank
/-!
# Words and blanks

Words are runs of identifier characters, blanks are runs of white space. No character is both, so a
text that starts and ends with a character of a word, or with any other mark, is what is left when
the blanks around it are trimmed.
-/

namespace Trellis.Text

variable {c : Char} {text start : List Char}

/-! ## Identifier characters are no blanks -/

/-- The ranges of the blank code points. -/
def blankRanges : List (Nat × Nat) :=
  [(9, 13), (0x20, 0x20), (0x85, 0x85), (0xA0, 0xA0), (0x1680, 0x1680), (0x2000, 0x200A),
    (0x2028, 0x2029), (0x202F, 0x202F), (0x205F, 0x205F), (0x3000, 0x3000)]

theorem exists_range_of_isBlank (blank : isBlank c = true) :
    ∃ range ∈ blankRanges, range.1 ≤ c.toNat ∧ c.toNat ≤ range.2 := by
  simp only [isBlank, Bool.or_eq_true, Bool.and_eq_true, decide_eq_true_eq, beq_iff_eq] at blank
  simp only [blankRanges, List.mem_cons, List.not_mem_nil, or_false, exists_eq_or_imp,
    exists_eq_left]
  omega

/-- The table of letters and digits beyond ASCII leaves all blanks out. -/
theorem alphanumericRanges_disjoint :
    ∀ letters ∈ alphanumericRanges, ∀ blanks ∈ blankRanges,
      letters.2 < blanks.1 ∨ blanks.2 < letters.1 := by
  decide +kernel

/-- The few blanks of ASCII are neither letters nor digits. -/
theorem isBlank_of_isAlphanum (ascii : c.toNat < 128) (alphanumeric : c.isAlphanum = true) :
    isBlank c = false := by
  rw [Bool.eq_false_iff]
  intro blank
  have code : c.toNat = 9 ∨ c.toNat = 10 ∨ c.toNat = 11 ∨ c.toNat = 12 ∨ c.toNat = 13 ∨
      c.toNat = 32 := by
    simp only [isBlank, Bool.or_eq_true, Bool.and_eq_true, decide_eq_true_eq, beq_iff_eq] at blank
    omega
  rw [← Char.ofNat_toNat c] at alphanumeric
  rcases code with code | code | code | code | code | code <;>
    exact absurd (code ▸ alphanumeric) (by decide)

theorem isBlank_of_isIdentifierChar (identifier : isIdentifierChar c = true) :
    isBlank c = false := by
  simp only [isIdentifierChar, isAlphanumeric, Bool.or_eq_true, beq_iff_eq] at identifier
  rcases identifier with alphanumeric | rfl
  · split at alphanumeric
    · rename_i ascii
      exact isBlank_of_isAlphanum ascii alphanumeric
    · rw [Bool.eq_false_iff]
      intro blank
      obtain ⟨blanks, listed, first, last⟩ := exists_range_of_isBlank blank
      obtain ⟨letters, member, inside⟩ := List.any_eq_true.mp alphanumeric
      simp only [Bool.and_eq_true, decide_eq_true_eq] at inside
      have apart := alphanumericRanges_disjoint letters member blanks listed
      omega
  · decide

/-! ## Words and blanks -/

/-- An identifier, or one segment of a path. -/
structure Word where
  chars : List Char
  nonempty : chars ≠ []
  allIdentifier : chars.all isIdentifierChar = true

/-- A run of white space, possibly empty. -/
structure Blanks where
  chars : List Char
  allBlank : chars.all isBlank = true

theorem Word.identifier (word : Word) : ∀ c ∈ word.chars, isIdentifierChar c = true :=
  List.all_eq_true.mp word.allIdentifier

theorem Blanks.blank (blanks : Blanks) : ∀ c ∈ blanks.chars, isBlank c = true :=
  List.all_eq_true.mp blanks.allBlank

theorem Word.notMem (word : Word) (outside : isIdentifierChar c = false) : c ∉ word.chars := by
  intro member
  rw [word.identifier c member] at outside
  cases outside

/-- A text that starts with a word starts with an identifier character. -/
theorem Word.identifier_of_head (word : Word) {rest : List Char} :
    ∀ c ∈ (word.chars ++ rest).head?, isIdentifierChar c = true := by
  intro c first
  rw [List.head?_append_of_ne_nil _ word.nonempty] at first
  exact word.identifier c (List.mem_of_head? first)

/-- A word ends where identifier characters do. -/
theorem Word.takeWhile_append (word : Word) {rest : List Char}
    (boundary : ∀ c ∈ rest.head?, isIdentifierChar c = false) :
    (word.chars ++ rest).takeWhile isIdentifierChar = word.chars := by
  rw [List.takeWhile_append_of_pos word.identifier]
  cases rest with
  | nil => exact List.append_nil _
  | cons c tail => rw [List.takeWhile_cons_of_neg (by simp [boundary c rfl]), List.append_nil]

theorem Word.append_inj {word other : Word} {rest rest' : List Char}
    (boundary : ∀ c ∈ rest.head?, isIdentifierChar c = false)
    (boundary' : ∀ c ∈ rest'.head?, isIdentifierChar c = false)
    (same : word.chars ++ rest = other.chars ++ rest') :
    word.chars = other.chars ∧ rest = rest' := by
  have words : word.chars = other.chars := by
    rw [← word.takeWhile_append boundary, same, other.takeWhile_append boundary']
  rw [words] at same
  exact ⟨words, List.append_cancel_left same⟩

theorem Word.isBlank_eq_false (word : Word) : ∀ c ∈ word.chars, isBlank c = false :=
  fun c member => isBlank_of_isIdentifierChar (word.identifier c member)

theorem Blanks.notMem (blanks : Blanks) (outside : isBlank c = false) : c ∉ blanks.chars := by
  intro member
  rw [blanks.blank c member] at outside
  cases outside

/-! ## Trimming -/

/-- A text with no blank at either end. -/
structure Tight (text : List Char) : Prop where
  head : ∀ c ∈ text.head?, isBlank c = false
  last : ∀ c ∈ text.getLast?, isBlank c = false

theorem tight_of_forall (solid : ∀ c ∈ text, isBlank c = false) : Tight text where
  head _ first := solid _ (List.mem_of_head? first)
  last _ final := solid _ (List.mem_of_getLast? final)

theorem Word.tight (word : Word) : Tight word.chars :=
  tight_of_forall word.isBlank_eq_false

/-- What stands before a tight text may end in blanks but not start with one. -/
theorem Tight.append (head : ∀ c ∈ start.head?, isBlank c = false) (tight : Tight text)
    (nonempty : text ≠ []) : Tight (start ++ text) where
  head := by
    intro c first
    rw [List.head?_append] at first
    cases start with
    | nil => exact tight.head c first
    | cons d rest => exact head c first
  last := by
    intro c final
    rw [List.getLast?_append_of_ne_nil _ nonempty] at final
    exact tight.last c final

theorem trimStart_append_of_blank (blanks : Blanks) (text : List Char) :
    trimStart (blanks.chars ++ text) = trimStart text :=
  List.dropWhile_append_of_pos blanks.blank

theorem trimStart_cons (head : isBlank c = false) : trimStart (c :: text) = c :: text :=
  List.dropWhile_cons_of_neg (by simp [head])

theorem trimStart_eq_self (head : ∀ c ∈ text.head?, isBlank c = false) :
    trimStart text = text := by
  cases text with
  | nil => rfl
  | cons c rest => exact trimStart_cons (head c rfl)

theorem trimEnd_append_of_blank (text : List Char) (blanks : Blanks) :
    trimEnd (text ++ blanks.chars) = trimEnd text := by
  unfold trimEnd dropTail
  rw [List.reverse_append, List.dropWhile_append_of_pos]
  intro c member
  exact blanks.blank c (List.mem_reverse.mp member)

theorem trimEnd_eq_self (last : ∀ c ∈ text.getLast?, isBlank c = false) :
    trimEnd text = text := by
  have turned : trimStart text.reverse = text.reverse :=
    trimStart_eq_self fun c final => last c (by rwa [List.head?_reverse] at final)
  show (trimStart text.reverse).reverse = text
  rw [turned, List.reverse_reverse]

theorem trimEnd_cons (head : isBlank c = false) : trimEnd (c :: text) = c :: trimEnd text := by
  unfold trimEnd dropTail
  rw [List.reverse_cons, List.dropWhile_append]
  split
  · rename_i empty
    rw [List.isEmpty_iff.mp empty, List.dropWhile_cons_of_neg (by simp [head])]
    rfl
  · simp

/-- A word is what a text ends in once the blanks behind it are trimmed. -/
theorem trimEnd_append_word (before : List Char) (word : Word) (after : Blanks) :
    trimEnd (before ++ word.chars ++ after.chars) = before ++ word.chars := by
  rw [trimEnd_append_of_blank]
  refine trimEnd_eq_self fun c final => ?_
  rw [List.getLast?_append_of_ne_nil _ word.nonempty] at final
  exact word.tight.last c final

theorem Tight.trim (tight : Tight text) : trim text = text := by
  show trimEnd (trimStart text) = text
  rw [trimStart_eq_self tight.head, trimEnd_eq_self tight.last]

theorem Tight.trim_append (tight : Tight text) (after : Blanks) (nonempty : text ≠ []) :
    Text.trim (text ++ after.chars) = text := by
  have head : ∀ c ∈ (text ++ after.chars).head?, isBlank c = false := by
    intro c first
    rw [List.head?_append_of_ne_nil _ nonempty] at first
    exact tight.head c first
  show trimEnd (trimStart (text ++ after.chars)) = text
  rw [trimStart_eq_self head, trimEnd_append_of_blank, trimEnd_eq_self tight.last]

theorem trim_append_of_blank (before : Blanks) (text : List Char) :
    trim (before.chars ++ text) = trim text := by
  show trimEnd (trimStart (before.chars ++ text)) = trimEnd (trimStart text)
  rw [trimStart_append_of_blank]

end Trellis.Text
