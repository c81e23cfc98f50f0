import Trellis.Proofs.Signature.Brackets
/-!
# Braces and double arrows

To a reader of a signature braces are brackets like the others, and the `>` of `=>` is none, like that
of `->`. The slots of a list are cut by a depth that is blind to braces and that takes the `>` of `=>`
for a closing bracket. Across a text that is nested as a reader sees it, this depth never rises, and it
falls with every `=>`; where it comes out as it went in, the text is balanced as the depth sees it.
-/

namespace Trellis.Signature

variable {depth mid behind : Int} {before c : Char} {text inner rest : List Char}

/-! ## Nested texts -/

inductive Bracket
  | round
  | square
  | angle
  | brace
  deriving DecidableEq

namespace Bracket

def opening : Bracket → Char
  | round => '('
  | square => '['
  | angle => '<'
  | brace => '{'

def closing : Bracket → Char
  | round => ')'
  | square => ']'
  | angle => '>'
  | brace => '}'

/-- How many levels the depth counts for the bracket. -/
def levels : Bracket → Int
  | brace => 0
  | round | square | angle => 1

theorem depthStep_opening (bracket : Bracket) : depthStep before bracket.opening = bracket.levels := by
  cases bracket <;> rfl

theorem depthStep_closing {bracket : Bracket} (noArrow : bracket = .angle → before ≠ '-') :
    depthStep before bracket.closing = -bracket.levels := by
  cases bracket with
  | angle => simp [closing, levels, depthStep, noArrow rfl]
  | round | square | brace => rfl

theorem opening_ne_comma (bracket : Bracket) : bracket.opening ≠ ',' := by
  cases bracket <;> decide

theorem closing_ne_comma (bracket : Bracket) : bracket.closing ≠ ',' := by
  cases bracket <;> decide

end Bracket

/-- The texts whose brackets of all four kinds are nested properly; the `>` of an arrow of either kind
is no bracket. Outside all brackets a comma stands only where `commas` allows it. -/
inductive Nested : Bool → List Char → Prop
  | nil {commas : Bool} : Nested commas []
  | plain {commas : Bool} {c : Char} {rest : List Char} (bracket : c ∉ '{' :: '}' :: brackets)
      (comma : c = ',' → commas = true) (later : Nested commas rest) : Nested commas (c :: rest)
  | arrow {commas : Bool} {rest : List Char} (later : Nested commas rest) :
      Nested commas ('-' :: '>' :: rest)
  | doubleArrow {commas : Bool} {rest : List Char} (later : Nested commas rest) :
      Nested commas ('=' :: '>' :: rest)
  | group {commas : Bool} {inner rest : List Char} (bracket : Bracket) (inside : Nested true inner)
      (noArrow : bracket = .angle → ∀ c ∈ inner.getLast?, c ≠ '-' ∧ c ≠ '=')
      (later : Nested commas rest) :
      Nested commas (bracket.opening :: (inner ++ bracket.closing :: rest))

namespace Nested

variable {commas : Bool} {first second : List Char}

theorem append (left : Nested commas first) (right : Nested commas second) :
    Nested commas (first ++ second) := by
  induction left with
  | nil => exact right
  | plain bracket comma _ ih => exact plain bracket comma (ih right)
  | arrow _ ih => exact arrow (ih right)
  | doubleArrow _ ih => exact doubleArrow (ih right)
  | group bracket inside noArrow _ _ ih => simpa using group bracket inside noArrow (ih right)

theorem enclosed (nested : Nested commas text) : Enclosed text := by
  induction nested with
  | nil => exact .nil
  | plain bracket _ _ ih =>
    simp only [brackets, List.mem_cons, List.not_mem_nil, or_false, not_or] at bracket
    exact .other bracket.2.2.1 bracket.2.2.2.1 ih
  | arrow _ ih | doubleArrow _ ih =>
    exact .other (by decide) (by decide) (.other (by decide) (by decide) ih)
  | group bracket _ _ _ inner ih =>
    cases bracket with
    | round => exact .round inner ih
    | square | angle | brace => exact .group (by decide) (by decide) inner ih

/-- A text without brackets is nested, with commas where they are allowed. -/
theorem of_plain (plain : text.all
      (fun c => c ∉ '{' :: '}' :: brackets ∧ (c = ',' → commas = true)) = true) :
    Nested commas text := by
  induction text with
  | nil => exact nil
  | cons c rest ih =>
    rw [List.all_cons, Bool.and_eq_true, decide_eq_true_iff] at plain
    obtain ⟨⟨bracket, comma⟩, later⟩ := plain
    exact .plain bracket comma (ih later)

end Nested

/-! ## The depth behind nested texts -/

theorem depthBehind?_cons_eq_some (run : depthBehind? depth before (c :: rest) = some behind) :
    ¬ (c = ',' ∧ depth = 0) ∧ depthBehind? (depth + depthStep before c) c rest = some behind := by
  by_cases cut : c = ',' ∧ depth = 0
  · rw [depthBehind?, if_pos cut] at run
    cases run
  · rw [depthBehind?_cons_of_not_cut cut] at run
    exact ⟨cut, run⟩

/-- Behind an opened bracket come its inside, the closing bracket and the rest, each at the depth that
the one before leads to. -/
theorem exists_of_depthBehind?_group {bracket : Bracket}
    (noArrow : bracket = .angle → ∀ c ∈ inner.getLast?, c ≠ '-' ∧ c ≠ '=')
    (run : depthBehind? depth before (bracket.opening :: (inner ++ bracket.closing :: rest)) =
      some behind) :
    ∃ mid, depthBehind? (depth + bracket.levels) bracket.opening inner = some mid ∧
      depthBehind? (mid - bracket.levels) bracket.closing rest = some behind := by
  obtain ⟨-, opened⟩ := depthBehind?_cons_eq_some run
  rw [bracket.depthStep_opening, depthBehind?_append, Option.bind_eq_some_iff] at opened
  obtain ⟨mid, within, closed⟩ := opened
  have closes : depthStep (lastRead bracket.opening inner) bracket.closing = -bracket.levels := by
    apply Bracket.depthStep_closing
    rintro rfl
    unfold lastRead
    cases ending : inner.getLast? with
    | none => decide
    | some last => exact (noArrow rfl last ending).1
  obtain ⟨-, further⟩ := depthBehind?_cons_eq_some closed
  rw [closes, ← Int.sub_eq_add_neg] at further
  exact ⟨mid, within, further⟩

namespace Nested

variable {commas allowed : Bool}

/-- The depth never rises across a nested text. -/
theorem behind_le (nested : Nested commas text) :
    ∀ {depth : Int} {before : Char} {behind : Int},
      depthBehind? depth before text = some behind → behind ≤ depth := by
  induction nested with
  | nil =>
    intro depth before behind run
    cases run
    exact Int.le_refl depth
  | plain bracket _ _ ih =>
    intro depth before behind run
    obtain ⟨-, further⟩ := depthBehind?_cons_eq_some run
    rw [depthStep_eq_zero (by simp_all), Int.add_zero] at further
    exact ih further
  | arrow _ ih =>
    intro depth before behind run
    obtain ⟨-, shaft⟩ := depthBehind?_cons_eq_some run
    obtain ⟨-, further⟩ := depthBehind?_cons_eq_some shaft
    have lower := ih further
    simp only [depthStep] at lower
    simpa using lower
  | doubleArrow _ ih =>
    intro depth before behind run
    obtain ⟨-, shaft⟩ := depthBehind?_cons_eq_some run
    obtain ⟨-, further⟩ := depthBehind?_cons_eq_some shaft
    have lower := ih further
    have shaftLevel : depthStep before '=' = 0 := rfl
    have headLevel : depthStep '=' '>' = -1 := rfl
    rw [shaftLevel, headLevel] at lower
    omega
  | group bracket _ noArrow _ inner ih =>
    intro depth before behind run
    obtain ⟨mid, within, further⟩ := exists_of_depthBehind?_group noArrow run
    have deeper := inner within
    have later := ih further
    omega

/-- A nested text that the depth comes out of as it went in is balanced as the depth sees it: no `=>`
is in it, and no comma stands in braces alone unless the depth is not zero there. -/
theorem balanced_of_level (nested : Nested commas text) :
    ∀ {depth : Int} {before : Char} {allowed : Bool}, 0 ≤ depth → (depth ≠ 0 → allowed = true) →
      depthBehind? depth before text = some depth → Balanced allowed text := by
  induction nested with
  | nil =>
    intros
    exact .nil
  | plain bracket _ _ ih =>
    intro depth before allowed nonneg deep run
    obtain ⟨uncut, further⟩ := depthBehind?_cons_eq_some run
    have unseen : _ ∉ brackets := fun seen =>
      bracket (List.mem_cons_of_mem _ (List.mem_cons_of_mem _ seen))
    rw [depthStep_eq_zero unseen, Int.add_zero] at further
    refine .plain unseen (fun comma => deep fun zero => uncut ⟨comma, zero⟩) ?_
    exact ih nonneg deep further
  | arrow _ ih =>
    intro depth before allowed nonneg deep run
    obtain ⟨-, shaft⟩ := depthBehind?_cons_eq_some run
    obtain ⟨-, further⟩ := depthBehind?_cons_eq_some shaft
    apply Balanced.arrow
    apply ih nonneg deep
    simpa [depthStep] using further
  | doubleArrow later ih =>
    -- The depth has fallen by one, and what follows does not raise it again.
    intro depth before allowed nonneg deep run
    obtain ⟨-, shaft⟩ := depthBehind?_cons_eq_some run
    obtain ⟨-, further⟩ := depthBehind?_cons_eq_some shaft
    have lower := later.behind_le further
    have shaftLevel : depthStep before '=' = 0 := rfl
    have headLevel : depthStep '=' '>' = -1 := rfl
    rw [shaftLevel, headLevel] at lower
    omega
  | group bracket inside noArrow later inner ih =>
    intro depth before allowed nonneg deep run
    obtain ⟨mid, within, further⟩ := exists_of_depthBehind?_group noArrow run
    have lower := inside.behind_le within
    have lowest := later.behind_le further
    obtain rfl : mid = depth + bracket.levels := by omega
    rw [Int.add_sub_cancel] at further
    have behind := ih nonneg deep further
    cases bracket with
    | round => exact .round (inner (Int.le_add_one nonneg) (fun _ => rfl) within) behind
    | square => exact .square (inner (Int.le_add_one nonneg) (fun _ => rfl) within) behind
    | angle =>
      refine .angle (inner (Int.le_add_one nonneg) (fun _ => rfl) within) ?_ behind
      intro arrow
      exact (noArrow rfl '-' arrow).1 rfl
    | brace =>
      have level := inner (by simpa [Bracket.levels] using nonneg)
        (by simpa [Bracket.levels] using deep) within
      have closed : Balanced allowed (Bracket.brace.closing :: _) :=
        .plain (by decide) (fun comma => absurd comma Bracket.brace.closing_ne_comma) behind
      exact .plain (by decide) (fun comma => absurd comma Bracket.brace.opening_ne_comma)
        (level.append closed)

/-- A nested text is level exactly if it is balanced as the depth sees it. -/
theorem level_iff_balanced (nested : Nested commas text) :
    depthBehind? 0 before text = some 0 ↔ Balanced false text := by
  constructor
  · intro level
    exact nested.balanced_of_level (Int.le_refl 0) (fun deep => absurd rfl deep) level
  · intro balanced
    exact balanced.level

end Nested

end Trellis.Signature
