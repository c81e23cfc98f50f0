import Mathlib.Data.List.Basic
import Trellis.Proofs.Text.Words
import Trellis.Signature.Opening
import Trellis.Signature.Slots
/-!
# Brackets

Two readers count brackets: the parameter list ends at the parenthesis that closes it, and its slots
are cut at the commas outside all brackets. One counts parentheses, the other three kinds of bracket
with one depth. Across a text whose brackets are nested properly both come out where they went in,
so neither ends nor cuts inside it.
-/

namespace Trellis.Signature

open Trellis.Text

variable {depth behind : Int} {before other c : Char} {text first second rest : List Char}

/-! ## The depth behind a text -/

/-- The bracket depth behind a text that is read at `depth` after the character `before`; none when
the text is cut, which is at a comma at depth zero. -/
def depthBehind? (depth : Int) (before : Char) : List Char → Option Int
  | [] => some depth
  | c :: rest =>
    if c = ',' ∧ depth = 0 then none
    else depthBehind? (depth + depthStep before c) c rest

/-- The character read last, which was `before` when the text is empty. -/
def lastRead (before : Char) (text : List Char) : Char :=
  text.getLast?.getD before

theorem lastRead_cons : lastRead before (c :: rest) = lastRead c rest := by
  simp [lastRead, List.getLast?_cons]

theorem depthBehind?_cons_of_not_cut (uncut : ¬ (c = ',' ∧ depth = 0)) :
    depthBehind? depth before (c :: rest) = depthBehind? (depth + depthStep before c) c rest :=
  if_neg uncut

theorem depthBehind?_append :
    depthBehind? depth before (first ++ second) =
      (depthBehind? depth before first).bind fun behind =>
        depthBehind? behind (lastRead before first) second := by
  induction first generalizing depth before with
  | nil => rfl
  | cons c rest ih =>
    by_cases cut : c = ',' ∧ depth = 0
    · simp [depthBehind?, cut]
    · rw [List.cons_append, depthBehind?_cons_of_not_cut cut, depthBehind?_cons_of_not_cut cut, ih,
        lastRead_cons]

/-- Of the character before a text only matters whether it starts an arrow. -/
theorem depthStep_congr (same : before = '-' ↔ other = '-') :
    depthStep before c = depthStep other c := by
  unfold depthStep
  simp only [ne_eq, same]

theorem depthBehind?_congr (same : before = '-' ↔ other = '-') :
    depthBehind? depth before text = depthBehind? depth other text := by
  cases text with
  | nil => rfl
  | cons c rest => rw [depthBehind?, depthBehind?, depthStep_congr same]

/-! ## Slots of joined parts -/

theorem slotsFrom_ne_nil : slotsFrom depth before text ≠ [] := by
  cases text with
  | nil => exact List.cons_ne_nil _ _
  | cons c rest =>
    unfold slotsFrom
    split
    · exact List.cons_ne_nil _ _
    · split <;> exact List.cons_ne_nil _ _

theorem slotsFrom_cons_of_not_cut (uncut : ¬ (c = ',' ∧ depth = 0)) :
    slotsFrom depth before (c :: rest) =
      (slotsFrom (depth + depthStep before c) c rest).modifyHead (c :: ·) := by
  rw [slotsFrom, if_neg uncut]
  split
  · rename_i none
    exact absurd none slotsFrom_ne_nil
  · rename_i slot slots shape
    rw [shape, List.modifyHead_cons]

/-- A text that is not cut is the beginning of one slot. -/
theorem slotsFrom_append (whole : depthBehind? depth before first = some behind) :
    slotsFrom depth before (first ++ rest) =
      (slotsFrom behind (lastRead before first) rest).modifyHead (first ++ ·) := by
  induction first generalizing depth before with
  | nil =>
    cases whole
    exact (congrFun List.modifyHead_id _).symm
  | cons c tail ih =>
    have uncut : ¬ (c = ',' ∧ depth = 0) := by
      intro cut
      simp [depthBehind?, cut] at whole
    rw [depthBehind?_cons_of_not_cut uncut] at whole
    rw [List.cons_append, slotsFrom_cons_of_not_cut uncut, ih whole, lastRead_cons,
      List.modifyHead_modifyHead]
    rfl

/-- A text that is cut is so at a first comma at depth zero. -/
theorem exists_cut (cut : depthBehind? depth before text = none) :
    ∃ first rest, text = first ++ ',' :: rest ∧ depthBehind? depth before first = some 0 := by
  induction text generalizing depth before with
  | nil => cases cut
  | cons c tail ih =>
    by_cases here : c = ',' ∧ depth = 0
    · obtain ⟨rfl, rfl⟩ := here
      exact ⟨[], tail, rfl, rfl⟩
    · rw [depthBehind?_cons_of_not_cut here] at cut
      obtain ⟨first, rest, rfl, level⟩ := ih cut
      exact ⟨c :: first, rest, rfl, (depthBehind?_cons_of_not_cut here).trans level⟩

/-- If the first of the slots is the part of a text before a comma, the depth behind that part is
zero, and the other slots are those of what stands behind the comma. -/
theorem slotsFrom_cut_iff {first : List Char} {others : List (List Char)} :
    slotsFrom depth before (first ++ ',' :: rest) = first :: others ↔
      depthBehind? depth before first = some 0 ∧ slotsFrom 0 ',' rest = others := by
  constructor
  · intro cut
    cases run : depthBehind? depth before first with
    | none =>
      -- The first slot ends before `first` does.
      obtain ⟨start, tail, rfl, level⟩ := exists_cut run
      rw [List.append_assoc, slotsFrom_append level, List.cons_append, slotsFrom,
        if_pos ⟨rfl, rfl⟩, List.modifyHead_cons] at cut
      have shorter := congrArg List.length (List.cons.inj cut).1
      simp at shorter
    | some behind =>
      rw [slotsFrom_append run] at cut
      by_cases zero : behind = 0
      · subst zero
        rw [slotsFrom, if_pos ⟨rfl, rfl⟩, List.modifyHead_cons] at cut
        exact ⟨rfl, (List.cons.inj cut).2⟩
      · -- The first slot goes on with the comma.
        rw [slotsFrom_cons_of_not_cut fun here => zero here.2, List.modifyHead_modifyHead] at cut
        cases shape : slotsFrom (behind + depthStep (lastRead before first) ',') ',' rest with
        | nil => exact absurd shape slotsFrom_ne_nil
        | cons slot slots =>
          rw [shape, List.modifyHead_cons] at cut
          have longer := congrArg List.length (List.cons.inj cut).1
          simp at longer
  · rintro ⟨level, rfl⟩
    rw [slotsFrom_append level, slotsFrom, if_pos ⟨rfl, rfl⟩, List.modifyHead_cons, List.append_nil]

theorem slotsFrom_eq_singleton_iff :
    slotsFrom depth before text = [text] ↔ (depthBehind? depth before text).isSome := by
  cases run : depthBehind? depth before text with
  | none =>
    obtain ⟨start, tail, rfl, level⟩ := exists_cut run
    rw [slotsFrom_append level, slotsFrom, if_pos ⟨rfl, rfl⟩, List.modifyHead_cons]
    simp [slotsFrom_ne_nil]
  | some behind =>
    have whole : slotsFrom depth before (text ++ []) = [text] := by
      rw [slotsFrom_append run]
      simp [slotsFrom]
    simpa using whole

/-- A list is cut into the parts it was joined from exactly if each part but the last is level and
the last one is not cut. -/
theorem slotChars_intercalate_iff (parts : List (List Char)) (last : List Char) :
    slotChars (List.intercalate [','] (parts ++ [last])) = parts ++ [last] ↔
      (∀ part ∈ parts, depthBehind? 0 '\x00' part = some 0) ∧
        (depthBehind? 0 '\x00' last).isSome := by
  -- The character before a part is the comma, which like the initial one starts no arrow.
  suffices joined : ∀ before, before ≠ '-' →
      (slotsFrom 0 before (List.intercalate [','] (parts ++ [last])) = parts ++ [last] ↔
        (∀ part ∈ parts, depthBehind? 0 '\x00' part = some 0) ∧
          (depthBehind? 0 '\x00' last).isSome) from joined '\x00' (by decide)
  induction parts with
  | nil =>
    intro before noArrow
    have same : depthBehind? 0 before last = depthBehind? 0 '\x00' last :=
      depthBehind?_congr (iff_of_false noArrow (by decide))
    rw [← same, ← slotsFrom_eq_singleton_iff]
    simp
  | cons part others ih =>
    intro before noArrow
    have same : depthBehind? 0 before part = depthBehind? 0 '\x00' part :=
      depthBehind?_congr (iff_of_false noArrow (by decide))
    have joined : List.intercalate [','] (part :: others ++ [last]) =
        part ++ ',' :: List.intercalate [','] (others ++ [last]) := by
      cases others <;> simp [List.intercalate_cons_cons]
    rw [joined, List.cons_append, slotsFrom_cut_iff, ih ',' (by decide), same,
      List.forall_mem_cons, and_assoc]

/-! ## Properly nested brackets -/

def brackets : List Char := ['(', ')', '[', ']', '<', '>']

/-- The readers look at no character of a class that has neither the comma nor a bracket. -/
theorem unread_of_class {inClass : Char → Bool}
    (plain : (',' :: brackets).all (fun c => !inClass c) = true) (inside : inClass c = true) :
    c ∉ ',' :: brackets := by
  intro mark
  have outside := List.all_eq_true.mp plain c mark
  simp [inside] at outside

/-- The texts whose brackets are nested properly; the `>` of an arrow is no bracket. Outside all
brackets a comma stands only where `commas` allows it. -/
inductive Balanced : Bool → List Char → Prop
  | nil {commas : Bool} : Balanced commas []
  | plain {commas : Bool} {c : Char} {rest : List Char} :
    c ∉ brackets → (c = ',' → commas = true) → Balanced commas rest → Balanced commas (c :: rest)
  | arrow {commas : Bool} {rest : List Char} :
    Balanced commas rest → Balanced commas ('-' :: '>' :: rest)
  | round {commas : Bool} {inner rest : List Char} :
    Balanced true inner → Balanced commas rest → Balanced commas ('(' :: (inner ++ ')' :: rest))
  | square {commas : Bool} {inner rest : List Char} :
    Balanced true inner → Balanced commas rest → Balanced commas ('[' :: (inner ++ ']' :: rest))
  | angle {commas : Bool} {inner rest : List Char} :
    Balanced true inner → inner.getLast? ≠ some '-' → Balanced commas rest →
      Balanced commas ('<' :: (inner ++ '>' :: rest))

namespace Balanced

variable {commas : Bool} {text first second : List Char}

theorem append (left : Balanced commas first) (right : Balanced commas second) :
    Balanced commas (first ++ second) := by
  induction left with
  | nil => exact right
  | plain bracket comma _ ih => exact plain bracket comma (ih right)
  | arrow _ ih => exact arrow (ih right)
  | round inner _ _ ih => simpa using round inner (ih right)
  | square inner _ _ ih => simpa using square inner (ih right)
  | angle inner tail _ _ ih => simpa using angle inner tail (ih right)

/-- A text of characters that the readers do not look at is balanced. -/
theorem of_class {inClass : Char → Bool}
    (plain : (',' :: brackets).all (fun c => !inClass c) = true)
    (inside : ∀ c ∈ text, inClass c = true) : Balanced commas text := by
  induction text with
  | nil => exact nil
  | cons c rest ih =>
    have here := unread_of_class plain (inside c List.mem_cons_self)
    rw [List.mem_cons, not_or] at here
    refine .plain here.2 (fun comma => absurd comma here.1) ?_
    exact ih fun d member => inside d (List.mem_cons_of_mem _ member)

theorem of_text (plain : (',' :: brackets).all (fun c => !text.contains c) = true) :
    Balanced commas text :=
  of_class plain fun _ member => List.contains_iff_mem.mpr member

theorem word (word : Word) : Balanced commas word.chars :=
  of_class (by decide) word.identifier

theorem blanks (blanks : Blanks) : Balanced commas blanks.chars :=
  of_class (by decide) blanks.blank

theorem listed (balanced : Balanced commas text) : Balanced true text := by
  induction balanced with
  | nil => exact nil
  | plain bracket _ _ ih => exact plain bracket (fun _ => rfl) ih
  | arrow _ ih => exact arrow ih
  | round inner _ _ ih => exact round inner ih
  | square inner _ _ ih => exact square inner ih
  | angle inner tail _ _ ih => exact angle inner tail ih

end Balanced

/-! ## Balanced texts and the two readers -/

/-- A pair of brackets whose inside ends at the depth it starts at is passed. -/
theorem depthBehind?_group {opening closing : Char} {inner : List Char}
    (up : depthStep before opening = 1) (down : depthStep (lastRead opening inner) closing = -1)
    (inside : depthBehind? (depth + 1) opening inner = some (depth + 1)) :
    depthBehind? depth before (opening :: (inner ++ closing :: rest)) =
      depthBehind? depth closing rest := by
  have noComma : ∀ {before : Char}, depthStep before ',' = 0 := rfl
  have opened : opening ≠ ',' := fun comma => by simp [comma, noComma] at up
  have closed : closing ≠ ',' := fun comma => by simp [comma, noComma] at down
  rw [depthBehind?_cons_of_not_cut (absurd ·.1 opened), up, depthBehind?_append, inside,
    Option.bind_some, depthBehind?_cons_of_not_cut (absurd ·.1 closed), down]
  congr 1
  omega

theorem depthStep_eq_zero (plain : c ∉ brackets) : depthStep before c = 0 := by
  simp only [brackets, List.mem_cons, List.not_mem_nil, or_false, not_or] at plain
  simp [depthStep, plain]

namespace Balanced

variable {commas : Bool} {text : List Char}

/-- The depth behind a balanced text is the depth before it. Inside its brackets the depth is
positive, so only a comma outside of them could cut. -/
theorem depthBehind? (balanced : Balanced commas text) :
    ∀ {depth : Int} {before : Char}, 0 ≤ depth → (commas = true → depth ≠ 0) →
      depthBehind? depth before text = some depth := by
  induction balanced with
  | nil => intros; rfl
  | plain bracket comma _ ih =>
    intro depth before nested listed
    rw [depthBehind?_cons_of_not_cut fun cut => listed (comma cut.1) cut.2,
      depthStep_eq_zero bracket, Int.add_zero]
    exact ih nested listed
  | arrow _ ih =>
    intro depth before nested listed
    rw [depthBehind?_cons_of_not_cut (by simp), depthStep_eq_zero (by decide),
      depthBehind?_cons_of_not_cut (by simp)]
    simpa [depthStep] using ih nested listed
  | round _ _ inner ih =>
    intro depth before nested listed
    rw [depthBehind?_group rfl rfl (inner (by omega) (by omega))]
    exact ih nested listed
  | square _ _ inner ih =>
    intro depth before nested listed
    rw [depthBehind?_group rfl rfl (inner (by omega) (by omega))]
    exact ih nested listed
  | @angle _ text _ _ noArrow _ inner ih =>
    intro depth before nested listed
    -- Behind a `-` the bracket would be an arrow and close nothing.
    have closes : depthStep (lastRead '<' text) '>' = -1 := by
      have last : lastRead '<' text ≠ '-' := by
        unfold lastRead
        cases ending : text.getLast? with
        | none => decide
        | some c => exact fun arrow => noArrow (by rw [ending]; exact congrArg some arrow)
      simp [depthStep, last]
    rw [depthBehind?_group rfl closes (inner (by omega) (by omega))]
    exact ih nested listed

/-- A list is cut behind a balanced text without commas of its own, and not inside it. -/
theorem level (balanced : Balanced false text) : Signature.depthBehind? 0 before text = some 0 :=
  balanced.depthBehind? (Int.le_refl 0) nofun

end Balanced

theorem upToClosing_cons_of_ne {depth : Nat} (opening : c ≠ '(') (closing : c ≠ ')') :
    upToClosing depth (c :: rest) = (upToClosing depth rest).map (c :: ·) := by
  cases depth <;> rw [upToClosing, if_neg opening, if_neg closing]

theorem upToClosing_opening {depth : Nat} :
    upToClosing depth ('(' :: rest) = (upToClosing (depth + 1) rest).map ('(' :: ·) := by
  cases depth <;> rfl

theorem upToClosing_closing {depth : Nat} :
    upToClosing (depth + 1) (')' :: rest) = (upToClosing depth rest).map (')' :: ·) := rfl

/-- The texts whose parentheses are nested properly, whatever else is in them. -/
inductive Enclosed : List Char → Prop
  | nil : Enclosed []
  | other {c : Char} {rest : List Char} (opening : c ≠ '(') (closing : c ≠ ')')
      (later : Enclosed rest) : Enclosed (c :: rest)
  | round {inner rest : List Char} (inside : Enclosed inner) (later : Enclosed rest) :
      Enclosed ('(' :: (inner ++ ')' :: rest))

namespace Enclosed

variable {text first second inner : List Char} {opening closing : Char}

theorem append (left : Enclosed first) (right : Enclosed second) : Enclosed (first ++ second) := by
  induction left with
  | nil => exact right
  | other opening closing _ ih => exact other opening closing ih
  | round inside _ _ ih => simpa using round inside ih

/-- A pair of other brackets around a text does not matter. -/
theorem group (opens : opening ∉ ['(', ')']) (closes : closing ∉ ['(', ')'])
    (inside : Enclosed inner) (later : Enclosed rest) :
    Enclosed (opening :: (inner ++ closing :: rest)) := by
  simp only [List.mem_cons, List.not_mem_nil, or_false, not_or] at opens closes
  exact other opens.1 opens.2 (inside.append (other closes.1 closes.2 later))

theorem intercalate {parts : List (List Char)} (each : ∀ part ∈ parts, Enclosed part) :
    Enclosed (List.intercalate [','] parts) := by
  induction parts with
  | nil => exact .nil
  | cons part others ih =>
    have here := each part List.mem_cons_self
    have there := ih fun part member => each part (List.mem_cons_of_mem _ member)
    cases others with
    | nil => simpa using here
    | cons next others =>
      rw [List.intercalate_cons_cons, List.append_assoc]
      exact here.append (.other (by decide) (by decide) there)

/-- Whatever is open before such a text, its end is not inside it. -/
theorem upToClosing_append (enclosed : Enclosed text) :
    ∀ {depth : Nat} {rest : List Char},
      upToClosing depth (text ++ rest) = (upToClosing depth rest).map (text ++ ·) := by
  induction enclosed with
  | nil => simp
  | other opening closing _ ih =>
    intro depth rest
    rw [List.cons_append, upToClosing_cons_of_ne opening closing, ih, Option.map_map]
    rfl
  | round _ _ inner ih =>
    intro depth rest
    simp only [List.cons_append, List.append_assoc]
    rw [upToClosing_opening, inner, upToClosing_closing, ih]
    simp [Function.comp_def]

/-- A list between parentheses is read up to its end. -/
theorem upToClosing_eq (enclosed : Enclosed text) : upToClosing 0 (text ++ ')' :: rest) = some text := by
  have closed : upToClosing 0 (')' :: rest) = some [] := rfl
  rw [enclosed.upToClosing_append, closed, Option.map_some, List.append_nil]

end Enclosed

theorem Balanced.enclosed {commas : Bool} (balanced : Balanced commas text) : Enclosed text := by
  induction balanced with
  | nil => exact .nil
  | plain bracket _ _ ih =>
    simp only [brackets, List.mem_cons, List.not_mem_nil, or_false, not_or] at bracket
    exact .other bracket.1 bracket.2.1 ih
  | arrow _ ih => exact .other (by decide) (by decide) (.other (by decide) (by decide) ih)
  | round _ _ inner ih => exact .round inner ih
  | square _ _ inner ih => exact .group (by decide) (by decide) inner ih
  | angle _ _ _ inner ih => exact .group (by decide) (by decide) inner ih

/-- Parts that the depth passes unchanged are the slots of the list they are joined to. -/
theorem slotChars_of_level {parts : List (List Char)} (nonempty : parts ≠ [])
    (level : ∀ part ∈ parts, depthBehind? 0 '\x00' part = some 0) :
    slotChars (List.intercalate [','] parts) = parts := by
  obtain ⟨front, last, rfl⟩ := (List.eq_nil_or_concat parts).resolve_left nonempty
  rw [List.concat_eq_append] at level ⊢
  refine (slotChars_intercalate_iff front last).mpr ⟨fun part member => ?_, ?_⟩
  · exact level part (List.mem_append_left _ member)
  · rw [level last (List.mem_append_right _ (List.mem_singleton.mpr rfl))]
    rfl

/-- Parts without a comma outside of brackets are the slots of the list they are joined to. -/
theorem slotChars_of_balanced {parts : List (List Char)} (nonempty : parts ≠ [])
    (balanced : ∀ part ∈ parts, Balanced false part) :
    slotChars (List.intercalate [','] parts) = parts :=
  slotChars_of_level nonempty fun part member => (balanced part member).level

end Trellis.Signature
