import Trellis.Proofs.Signature.Brackets
import Trellis.Proofs.Signature.Opening
/-!
# The parameter list of a text

The parameter list is the text between the leftmost parenthesis that opens a constructor and the one
that closes it. The list is there exactly if both are (`paramListChars?_eq_some_iff` and
`paramListChars?_eq_none_iff`).
-/

namespace Trellis.Signature

open Trellis.Text

variable {text body source front rest : List Char}

/-! ## The leftmost opening -/

/-- Among the openings of a text there is a leftmost. -/
theorem exists_leftmost_opening (text : List Char) :
    (∀ before rest, text = before ++ '(' :: rest → ¬ Opens before) ∨
      ∃ before rest, text = before ++ '(' :: rest ∧ Opens before ∧ Unopened before := by
  by_cases opened : ∃ before rest, text = before ++ '(' :: rest ∧ Opens before
  · right
    obtain ⟨before, rest, split, opens⟩ := opened
    induction size : before.length using Nat.strong_induction_on generalizing before rest with
    | _ size ih =>
      by_cases unopened : Unopened before
      · exact ⟨before, rest, split, opens, unopened⟩
      · unfold Unopened at unopened
        push Not at unopened
        obtain ⟨earlier, later, shape, sooner⟩ := unopened
        refine ih earlier.length ?_ earlier (later ++ '(' :: rest) ?_ sooner rfl
        · rw [← size, shape]
          simp
        · rw [split, shape]
          simp
  · left
    intro before rest split opens
    exact opened ⟨before, rest, split, opens⟩

/-- What is read as an opening is one. -/
theorem exists_opening_of_afterOpening {before : Bool} (found : afterOpening before text = some body) :
    ∃ (front : List Char) (keyword : Keyword) (gap : Blanks),
      text = front ++ (keyword.chars ++ gap.chars ++ '(' :: body) ∧
        endsInIdentifier before front = false := by
  induction text generalizing before with
  | nil => cases found
  | cons c rest ih =>
    rw [afterOpening] at found
    split at found
    · rename_i list here
      cases found
      cases before with
      | true => cases here
      | false =>
        obtain ⟨keyword, gap, whole⟩ := openingHere_eq_some_iff.mp here
        exact ⟨[], keyword, gap, whole, rfl⟩
    · obtain ⟨front, keyword, gap, whole, apart⟩ := ih found
      exact ⟨c :: front, keyword, gap, by rw [whole]; rfl, by rw [endsInIdentifier_cons]; exact apart⟩

theorem afterOpening_of_leftmost (opens : Opens front) (unopened : Unopened front) :
    afterOpening false (front ++ '(' :: rest) = some rest := by
  obtain ⟨start, keyword, gap, rfl, standalone⟩ := opens
  have unopenedStart : Unopened start := by
    intro earlier later split
    exact unopened earlier (later ++ (keyword.chars ++ gap.chars)) (by rw [split]; simp)
  have leftmost : afterOpening false (start ++ (keyword.chars ++ gap.chars ++ '(' :: rest)) =
      some rest := afterOpening_of_unopened keyword gap standalone unopenedStart
  simpa using leftmost

theorem afterOpening_eq_none_iff : afterOpening false text = none ↔
    ∀ before rest, text = before ++ '(' :: rest → ¬ Opens before := by
  constructor
  · intro absent before rest split opens
    rcases exists_leftmost_opening text with unopened | ⟨before', rest', split', opens', unopened'⟩
    · exact unopened before rest split opens
    · rw [split', afterOpening_of_leftmost opens' unopened'] at absent
      cases absent
  · intro unopened
    rw [Option.eq_none_iff_forall_ne_some]
    intro body found
    obtain ⟨front, keyword, gap, whole, apart⟩ := exists_opening_of_afterOpening found
    refine unopened (front ++ keyword.chars ++ gap.chars) body (by rw [whole]; simp) ?_
    exact ⟨front, keyword, gap, rfl, standalone_of_endsInIdentifier apart⟩

/-! ## The closing parenthesis -/

/-- The text closes `depth` parentheses that were opened before it, at marks between texts whose own
parentheses are nested properly. -/
inductive Closes : Nat → List Char → Prop
  | inside {text : List Char} (enclosed : Enclosed text) : Closes 0 text
  | closing {depth : Nat} {text rest : List Char} (enclosed : Enclosed text)
      (later : Closes depth rest) : Closes (depth + 1) (text ++ ')' :: rest)

theorem Closes.append {depth : Nat} (enclosed : Enclosed front) (closes : Closes depth rest) :
    Closes depth (front ++ rest) := by
  cases closes with
  | inside enclosed' => exact .inside (enclosed.append enclosed')
  | closing enclosed' later =>
    rw [← List.append_assoc]
    exact .closing (enclosed.append enclosed') later

/-- A parenthesis that is opened takes the first one that closes. -/
theorem Closes.opening {depth : Nat} (closes : Closes (depth + 1) rest) :
    Closes depth ('(' :: rest) := by
  cases closes with
  | closing enclosed later =>
    have pair := Closes.append (.round enclosed .nil) later
    simpa using pair

theorem closes_of_upToClosing {depth : Nat} (found : upToClosing depth text = some body) :
    Closes depth body ∧ ∃ rest, text = body ++ ')' :: rest := by
  induction text generalizing depth body with
  | nil => cases depth <;> cases found
  | cons c tail ih =>
    by_cases opening : c = '('
    · subst opening
      rw [upToClosing_opening] at found
      obtain ⟨inner, hit, rfl⟩ := Option.map_eq_some_iff.mp found
      obtain ⟨closes, rest, rfl⟩ := ih hit
      exact ⟨closes.opening, rest, rfl⟩
    · by_cases closing : c = ')'
      · subst closing
        cases depth with
        | zero =>
          cases found
          exact ⟨.inside .nil, tail, rfl⟩
        | succ outer =>
          rw [upToClosing_closing] at found
          obtain ⟨inner, hit, rfl⟩ := Option.map_eq_some_iff.mp found
          obtain ⟨closes, rest, rfl⟩ := ih hit
          exact ⟨.closing .nil closes, rest, rfl⟩
      · rw [upToClosing_cons_of_ne opening closing] at found
        obtain ⟨inner, hit, rfl⟩ := Option.map_eq_some_iff.mp found
        obtain ⟨closes, rest, rfl⟩ := ih hit
        exact ⟨.append (.other opening closing .nil) closes, rest, rfl⟩

theorem upToClosing_eq_some_iff : upToClosing 0 text = some body ↔
    Enclosed body ∧ ∃ rest, text = body ++ ')' :: rest := by
  constructor
  · intro found
    obtain ⟨closes, rest⟩ := closes_of_upToClosing found
    cases closes with
    | inside enclosed => exact ⟨enclosed, rest⟩
  · rintro ⟨enclosed, rest, rfl⟩
    exact enclosed.upToClosing_eq

/-! ## The list of a text -/

/-- The list between the leftmost opening and the parenthesis that closes it. -/
theorem paramListChars?_eq_some_iff : paramListChars? source = some body ↔
    ∃ before behind, source = before ++ '(' :: (body ++ ')' :: behind) ∧
      Opens before ∧ Unopened before ∧ Enclosed body := by
  rw [paramListChars?, Option.bind_eq_some_iff]
  constructor
  · rintro ⟨list, opened, closed⟩
    obtain ⟨enclosed, behind, rfl⟩ := upToClosing_eq_some_iff.mp closed
    rcases exists_leftmost_opening source with unopened | ⟨before, rest, rfl, opens, unopened⟩
    · rw [afterOpening_eq_none_iff.mpr unopened] at opened
      cases opened
    · rw [afterOpening_of_leftmost opens unopened] at opened
      cases opened
      exact ⟨before, behind, rfl, opens, unopened, enclosed⟩
  · rintro ⟨before, behind, rfl, opens, unopened, enclosed⟩
    exact ⟨_, afterOpening_of_leftmost opens unopened, enclosed.upToClosing_eq⟩

/-- There is no list if nothing opens or the leftmost opening is never closed. -/
theorem paramListChars?_eq_none_iff : paramListChars? source = none ↔
    (∀ before rest, source = before ++ '(' :: rest → ¬ Opens before) ∨
      ∃ before rest, source = before ++ '(' :: rest ∧ Opens before ∧ Unopened before ∧
        ∀ body behind, rest = body ++ ')' :: behind → ¬ Enclosed body := by
  constructor
  · intro absent
    refine (exists_leftmost_opening source).imp_right ?_
    rintro ⟨before, rest, rfl, opens, unopened⟩
    refine ⟨before, rest, rfl, opens, unopened, ?_⟩
    rintro body behind rfl enclosed
    rw [paramListChars?_eq_some_iff.mpr ⟨before, behind, rfl, opens, unopened, enclosed⟩] at absent
    cases absent
  · rintro (unopened | ⟨before, rest, rfl, opens, unopened, unclosed⟩)
    · rw [paramListChars?, afterOpening_eq_none_iff.mpr unopened]
      rfl
    · rw [paramListChars?, afterOpening_of_leftmost opens unopened, Option.bind_some,
        Option.eq_none_iff_forall_ne_some]
      intro body closed
      obtain ⟨enclosed, behind, split⟩ := upToClosing_eq_some_iff.mp closed
      exact unclosed body behind split enclosed

end Trellis.Signature
