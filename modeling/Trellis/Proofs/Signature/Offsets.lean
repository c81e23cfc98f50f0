import Mathlib.Data.List.ReduceOption
import Trellis.Proofs.Signature.ParamList
import Trellis.Proofs.Text.Offsets
/-!
# A parameter list read by offsets

A reader that keeps its place in byte offsets searches the text for one keyword after the other, takes
the parenthesis that stands first of those that they open, and counts open parentheses from there on.
It finds the list of the text, and none of its steps is a fault: it never cuts inside a character and
never counts below zero. A hit that opens nothing is skipped as a whole, and no opening is missed by
it, for neither keyword overlaps itself.
-/

namespace Trellis.Signature

open Trellis.Text

variable {source passed skipped behind rest text : List Char} {keyword : Keyword} {rounds : Nat}

/-! ## The reader -/

/-- The offset of the first parenthesis that the keyword opens, searched from the offset `start` on.
Behind a hit that opens nothing the search is taken up again. -/
def openingOffset (keyword : Keyword) (source : List Char) :
    Nat → Nat → Except OffsetFault (Option Nat)
  | 0, _ => .error .unfinished
  | rounds + 1, start => do
    let (_, rest) ← cutAtByte source start
    match findOffset? keyword.chars rest with
    | none => return none
    | some found =>
      let stop := start + found + byteSize keyword.chars
      let (front, _) ← cutAtByte source (start + found)
      let (_, behind) ← cutAtByte source stop
      let gap ← difference (byteSize behind) (byteSize (trimStart behind))
      let (_, list) ← cutAtByte behind gap
      if !endsInIdentifier false front && list.head? == some '(' then return some (stop + gap)
      else openingOffset keyword source rounds stop

/-- The offset of the parenthesis that closes the list, where `depth` parentheses are open at
`offset`. -/
def closingOffset (depth offset : Nat) : List Char → Except OffsetFault (Option Nat)
  | [] => .ok none
  | c :: rest =>
    if c = '(' then closingOffset (depth + 1) (offset + c.utf8Size) rest
    else if c = ')' then do
      let outer ← difference depth 1
      if outer = 0 then return some offset
      else closingOffset outer (offset + c.utf8Size) rest
    else closingOffset depth (offset + c.utf8Size) rest

/-- The list of a text. Each search is given one round more than the text has characters. -/
def paramListByOffsets (source : List Char) : Except OffsetFault (Option (List Char)) := do
  let new ← openingOffset .new source (source.length + 1) 0
  let constructor ← openingOffset .constructor source (source.length + 1) 0
  match [new, constructor].reduceOption.min? with
  | none => return none
  | some opening =>
    let (_, list) ← cutAtByte source opening
    match ← closingOffset 0 0 list with
    | none => return none
    | some closing =>
      let body ← textBetween source (opening + 1) (opening + closing)
      return some body

/-! ## Searching for a keyword -/

/-- A `(` behind the text is opened by the keyword. -/
def OpensWith (keyword : Keyword) (text : List Char) : Prop :=
  ∃ (front : List Char) (gap : Blanks),
    text = front ++ keyword.chars ++ gap.chars ∧ Standalone front

theorem opens_iff_exists_opensWith : Opens text ↔ ∃ keyword, OpensWith keyword text := by
  constructor
  · rintro ⟨front, keyword, gap, split, standalone⟩
    exact ⟨keyword, front, gap, split, standalone⟩
  · rintro ⟨keyword, front, gap, split, standalone⟩
    exact ⟨front, keyword, gap, split, standalone⟩

/-- The offset of the first parenthesis that the keyword opens; none when it opens none. -/
def FirstOpening (keyword : Keyword) (source : List Char) : Option Nat → Prop
  | none => ∀ before rest, source = before ++ '(' :: rest → ¬ OpensWith keyword before
  | some offset =>
    (∃ before rest, source = before ++ '(' :: rest ∧ OpensWith keyword before ∧
      byteSize before = offset) ∧
    ∀ before rest, source = before ++ '(' :: rest → OpensWith keyword before →
      offset ≤ byteSize before

/-- Two occurrences of a keyword do not overlap. -/
theorem Keyword.length_le_of_overlap {between later : List Char} (apart : between ≠ [])
    (overlap : keyword.chars ++ behind = between ++ (keyword.chars ++ later)) :
    keyword.chars.length ≤ between.length := by
  by_contra shorter
  rw [Nat.not_le] at shorter
  -- The end of the keyword behind `between` would be the beginning of the keyword.
  have ending : keyword.chars.drop between.length <+: keyword.chars := by
    have dropped := congrArg (List.drop between.length) overlap
    rw [List.drop_append_of_le_length (Nat.le_of_lt shorter), List.drop_left] at dropped
    have start : keyword.chars.drop between.length <+: keyword.chars ++ later :=
      dropped ▸ List.prefix_append _ _
    refine List.prefix_of_prefix_length_le start (List.prefix_append _ _) ?_
    simp
  have noBorder : ∀ keyword : Keyword, ∀ size < keyword.chars.length, 0 < size →
      ¬ keyword.chars.drop size <+: keyword.chars := by
    intro keyword
    cases keyword <;> decide
  exact noBorder keyword between.length shorter (List.length_pos_iff.mpr apart) ending

/-- Every opening of the keyword starts behind `passed`, which is a beginning of the text. -/
def StartsBehind (keyword : Keyword) (source passed : List Char) : Prop :=
  ∀ (front : List Char) (gap : Blanks) (list : List Char),
    source = front ++ keyword.chars ++ gap.chars ++ '(' :: list → Standalone front →
      passed <+: front

namespace StartsBehind

/-- An opening starts at an occurrence of the keyword, so at the first one or later. -/
theorem hit (starts : StartsBehind keyword (passed ++ (skipped ++ (keyword.chars ++ behind))) passed)
    (first : ∀ front more, skipped ++ (keyword.chars ++ behind) = front ++ (keyword.chars ++ more) →
      skipped <+: front) :
    StartsBehind keyword (passed ++ (skipped ++ (keyword.chars ++ behind))) (passed ++ skipped) := by
  intro front gap list whole standalone
  obtain ⟨between, rfl⟩ := starts front gap list whole standalone
  apply (List.prefix_append_right_inj passed).mpr
  apply first between (gap.chars ++ '(' :: list)
  simpa using whole

/-- If the keyword opens nothing here, every opening starts behind it: none overlaps it. -/
theorem skip {front : List Char}
    (starts : StartsBehind keyword (front ++ (keyword.chars ++ behind)) front)
    (unopened : Standalone front → ∀ (gap : Blanks) list, behind ≠ gap.chars ++ '(' :: list) :
    StartsBehind keyword (front ++ (keyword.chars ++ behind)) (front ++ keyword.chars) := by
  intro later gap list whole standalone
  obtain ⟨between, rfl⟩ := starts later gap list whole standalone
  have overlap : keyword.chars ++ behind =
      between ++ (keyword.chars ++ (gap.chars ++ '(' :: list)) := by simpa using whole
  by_cases here : between = []
  · subst here
    rw [List.append_nil] at standalone
    exact absurd (List.append_cancel_left overlap) (unopened standalone gap list)
  · have apart := keyword.length_le_of_overlap here overlap
    have start : keyword.chars <+: between ++ (keyword.chars ++ (gap.chars ++ '(' :: list)) :=
      overlap ▸ List.prefix_append _ _
    apply (List.prefix_append_right_inj front).mpr
    exact List.prefix_of_prefix_length_le start (List.prefix_append _ _) apart

theorem firstOpening_none (starts : StartsBehind keyword (passed ++ rest) passed)
    (absent : ¬ keyword.chars <:+: rest) : FirstOpening keyword (passed ++ rest) none := by
  rintro before list whole ⟨front, gap, rfl, standalone⟩
  obtain ⟨between, rfl⟩ := starts front gap list whole standalone
  have same : rest = between ++ keyword.chars ++ (gap.chars ++ '(' :: list) := by
    simpa using whole
  exact absent ⟨between, gap.chars ++ '(' :: list, same.symm⟩

/-- Openings of one keyword have their parentheses in the order in which they start. -/
theorem firstOpening_some {front list : List Char} {gap : Blanks}
    (starts : StartsBehind keyword source front)
    (split : source = front ++ keyword.chars ++ gap.chars ++ '(' :: list)
    (standalone : Standalone front) :
    FirstOpening keyword source (some (byteSize (front ++ keyword.chars ++ gap.chars))) := by
  refine ⟨⟨_, list, split, ⟨front, gap, rfl, standalone⟩, rfl⟩, ?_⟩
  rintro before rest whole ⟨later, gap', rfl, standalone'⟩
  obtain ⟨between, rfl⟩ := starts later gap' rest whole standalone'
  rcases List.append_eq_append_iff.mp (split.symm.trans whole) with
    ⟨more, longer, -⟩ | ⟨more, shorter, shape⟩
  · rw [longer, byteSize_append _ more]
    exact Nat.le_add_right _ _
  · cases more with
    | nil => rw [shorter, List.append_nil]
    | cons c more =>
      -- The later parenthesis would stand between the keyword and the earlier one.
      obtain ⟨rfl, -⟩ := List.cons.inj shape
      simp only [List.append_assoc, List.append_cancel_left_eq] at shorter
      have inside : '(' ∈ keyword.chars ++ gap.chars := by
        rw [shorter]
        simp
      exact absurd inside (keyword.notMem gap)

end StartsBehind

/-- Without a hit the search is over. -/
theorem openingOffset_of_absent (absent : findOffset? keyword.chars rest = none) :
    openingOffset keyword (passed ++ rest) (rounds + 1) (byteSize passed) = .ok none := by
  rw [openingOffset, cutAtByte_append]
  show (match findOffset? keyword.chars rest with | none => _ | some found => _) = _
  rw [absent]
  rfl

/-- What one round of the search does at a hit. -/
theorem openingOffset_of_hit
    (found : findOffset? keyword.chars (skipped ++ (keyword.chars ++ behind)) =
      some (byteSize skipped)) :
    let hit := passed ++ skipped
    let source := passed ++ (skipped ++ (keyword.chars ++ behind))
    openingOffset keyword source (rounds + 1) (byteSize passed) =
      if !endsInIdentifier false hit && (trimStart behind).head? == some '(' then
        .ok (some (byteSize (hit ++ keyword.chars ++ behind.takeWhile isBlank)))
      else openingOffset keyword source rounds (byteSize (hit ++ keyword.chars)) := by
  intro hit source
  have rest : cutAtByte source (byteSize passed) =
      .ok (passed, skipped ++ (keyword.chars ++ behind)) := cutAtByte_append _ _
  have front : cutAtByte source (byteSize passed + byteSize skipped) =
      .ok (hit, keyword.chars ++ behind) := by
    rw [← byteSize_append, ← cutAtByte_append]
    simp [source, hit]
  have stop : cutAtByte source (byteSize passed + byteSize skipped + byteSize keyword.chars) =
      .ok (hit ++ keyword.chars, behind) := by
    rw [← byteSize_append, ← byteSize_append, ← cutAtByte_append]
    simp [source, hit]
  -- The gap is as long as the blanks that are trimmed.
  have blanks : behind.takeWhile isBlank ++ trimStart behind = behind :=
    List.takeWhile_append_dropWhile
  have size : byteSize behind = byteSize (behind.takeWhile isBlank) + byteSize (trimStart behind) := by
    rw [← byteSize_append, blanks]
  have gap : difference (byteSize behind) (byteSize (trimStart behind)) =
      .ok (byteSize (behind.takeWhile isBlank)) := by
    rw [difference, if_pos (by omega), size, Nat.add_sub_cancel]
  have list : cutAtByte behind (byteSize (behind.takeWhile isBlank)) =
      .ok (behind.takeWhile isBlank, trimStart behind) := by
    rw [← cutAtByte_append, blanks]
  rw [openingOffset, rest]
  show (match findOffset? keyword.chars (skipped ++ (keyword.chars ++ behind)) with
    | none => _ | some found => _) = _
  rw [found]
  simp only [front, stop, gap, list, bind, Except.bind, byteSize_append, hit]
  rfl

/-- A hit stands on its own and has a parenthesis behind it exactly if the keyword opens one there. -/
theorem hit_opens_iff {front : List Char} :
    (!endsInIdentifier false front && (trimStart behind).head? == some '(') = true ↔
      Standalone front ∧ ∃ (gap : Blanks) (list : List Char), behind = gap.chars ++ '(' :: list := by
  rw [Bool.and_eq_true, Bool.not_eq_true', beq_iff_eq]
  refine and_congr ⟨standalone_of_endsInIdentifier, endsInIdentifier_eq_false⟩ ⟨fun opened => ?_, ?_⟩
  · obtain ⟨list, shape⟩ := List.head?_eq_some_iff.mp opened
    refine ⟨⟨behind.takeWhile isBlank, List.all_takeWhile⟩, list, ?_⟩
    rw [← shape]
    exact List.takeWhile_append_dropWhile.symm
  · rintro ⟨gap, list, rfl⟩
    rw [trimStart_append_of_blank, trimStart_cons (by decide)]
    rfl

/-- The search finds the first opening of the keyword behind `passed`, if none starts before. -/
theorem firstOpening_of_search (enough : rest.length < rounds)
    (starts : StartsBehind keyword (passed ++ rest) passed) :
    ∃ answer, openingOffset keyword (passed ++ rest) rounds (byteSize passed) = .ok answer ∧
      FirstOpening keyword (passed ++ rest) answer := by
  induction rounds generalizing passed rest with
  | zero => exact absurd enough (Nat.not_lt_zero _)
  | succ rounds ih =>
    cases search : findOffset? keyword.chars rest with
    | none =>
      have absent := not_infix_of_findOffset? search
      exact ⟨none, openingOffset_of_absent search, starts.firstOpening_none absent⟩
    | some found =>
      obtain ⟨skipped, behind, rfl, rfl, first⟩ := exists_of_findOffset? search
      have hit := starts.hit first
      rw [openingOffset_of_hit search]
      split_ifs with opened
      · obtain ⟨standalone, gap, list, rfl⟩ := hit_opens_iff.mp opened
        have blanks : (gap.chars ++ '(' :: list).takeWhile isBlank = gap.chars := by
          rw [List.takeWhile_append_of_pos gap.blank, List.takeWhile_cons_of_neg (by decide),
            List.append_nil]
        have split : passed ++ (skipped ++ (keyword.chars ++ (gap.chars ++ '(' :: list))) =
            passed ++ skipped ++ keyword.chars ++ gap.chars ++ '(' :: list := by simp
        refine ⟨_, rfl, ?_⟩
        rw [blanks]
        exact hit.firstOpening_some split standalone
      · have shorter : behind.length < rounds := by
          have nonempty := List.length_pos_iff.mpr keyword.word.nonempty
          simp only [List.length_append, Keyword.chars] at enough
          omega
        rw [← List.append_assoc] at hit ⊢
        have skip := hit.skip fun standalone gap list split =>
          opened (hit_opens_iff.mpr ⟨standalone, gap, list, split⟩)
        rw [← List.append_assoc] at skip ⊢
        exact ih shorter skip

theorem exists_firstOpening (keyword : Keyword) (source : List Char) :
    ∃ answer, openingOffset keyword source (source.length + 1) 0 = .ok answer ∧
      FirstOpening keyword source answer :=
  firstOpening_of_search (Nat.lt_succ_self source.length) fun _ _ _ _ _ => List.nil_prefix

/-! ## Counting parentheses -/

/-- With the parenthesis that opens the list one more is open than inside the list, so there is always
one to be closed. -/
theorem closingOffset_eq (depth offset : Nat) (text : List Char) :
    closingOffset (depth + 1) offset text =
      .ok ((upToClosing depth text).map fun body => offset + byteSize body) := by
  induction text generalizing depth offset with
  | nil => cases depth <;> rfl
  | cons c rest ih =>
    have later (outer : Nat) : closingOffset (outer + 1) (offset + c.utf8Size) rest =
        .ok (((upToClosing outer rest).map (c :: ·)).map fun body => offset + byteSize body) := by
      rw [ih, Option.map_map]
      congr 2
      funext body
      rw [Function.comp_apply, byteSize_cons, Nat.add_assoc]
    by_cases opening : c = '('
    · subst opening
      rw [closingOffset, if_pos rfl, upToClosing_opening]
      exact later (depth + 1)
    · by_cases closing : c = ')'
      · subst closing
        have closed : difference (depth + 1) 1 = .ok depth := by
          rw [difference, if_pos (Nat.le_add_left 1 depth), Nat.add_sub_cancel]
        rw [closingOffset, if_neg opening, if_pos rfl, closed]
        cases depth with
        | zero => rfl
        | succ outer => exact later outer
      · rw [closingOffset, if_neg opening, if_neg closing, upToClosing_cons_of_ne opening closing]
        exact later depth

/-! ## The whole reader -/

/-- The leftmost opening is the first one of one of the keywords. -/
theorem leftmost_of_min {answer : Keyword → Option Nat} {opening : Nat}
    (first : ∀ keyword, FirstOpening keyword source (answer keyword))
    (least : [answer .new, answer .constructor].reduceOption.min? = some opening) :
    ∃ before rest, source = before ++ '(' :: rest ∧ byteSize before = opening ∧ Opens before ∧
      Unopened before := by
  rw [List.min?_eq_some_iff] at least
  obtain ⟨listed, least⟩ := least
  have among {keyword : Keyword} {offset : Nat} (found : answer keyword = some offset) :
      opening ≤ offset := by
    apply least
    rw [List.reduceOption_mem_iff, ← found]
    cases keyword <;> simp
  have hit : ∃ keyword, answer keyword = some opening := by
    rw [List.reduceOption_mem_iff, List.mem_pair] at listed
    rcases listed with found | found
    · exact ⟨.new, found.symm⟩
    · exact ⟨.constructor, found.symm⟩
  obtain ⟨keyword, found⟩ := hit
  have here := first keyword
  rw [found] at here
  obtain ⟨⟨before, rest, split, opens, size⟩, -⟩ := here
  refine ⟨before, rest, split, size, opens_iff_exists_opensWith.mpr ⟨keyword, opens⟩, ?_⟩
  rintro earlier later rfl sooner
  obtain ⟨other, opensEarlier⟩ := opens_iff_exists_opensWith.mp sooner
  have whole : source = earlier ++ '(' :: (later ++ '(' :: rest) := by rw [split]; simp
  have there := first other
  cases found' : answer other with
  | none =>
    rw [found'] at there
    exact there earlier _ whole opensEarlier
  | some offset =>
    rw [found'] at there
    have before := there.2 earlier _ whole opensEarlier
    have behind := among found'
    rw [byteSize_append, byteSize_cons] at size
    have positive := Char.utf8Size_pos '('
    omega

theorem unopened_of_min {answer : Keyword → Option Nat}
    (first : ∀ keyword, FirstOpening keyword source (answer keyword))
    (none : [answer .new, answer .constructor].reduceOption.min? = none) :
    ∀ before rest, source = before ++ '(' :: rest → ¬ Opens before := by
  rw [List.min?_eq_none_iff] at none
  intro before rest split opens
  obtain ⟨keyword, opensWith⟩ := opens_iff_exists_opensWith.mp opens
  have here := first keyword
  cases found : answer keyword with
  | none =>
    rw [found] at here
    exact here before rest split opensWith
  | some offset =>
    have listed : offset ∈ [answer .new, answer .constructor].reduceOption := by
      rw [List.reduceOption_mem_iff, ← found]
      cases keyword <;> simp
    rw [none] at listed
    cases listed

/-- The reader by offsets makes no fault and finds the parameter list of the text. -/
theorem paramListByOffsets_eq (source : List Char) :
    paramListByOffsets source = .ok (paramListChars? source) := by
  choose answer found first using fun keyword => exists_firstOpening keyword source
  rw [paramListByOffsets, found, found]
  show (match [answer .new, answer .constructor].reduceOption.min? with
    | none => _ | some opening => _) = _
  cases least : [answer .new, answer .constructor].reduceOption.min? with
  | none =>
    rw [paramListChars?, afterOpening_eq_none_iff.mpr (unopened_of_min first least)]
    rfl
  | some opening =>
    obtain ⟨before, rest, rfl, rfl, opens, unopened⟩ := leftmost_of_min first least
    have list := cutAtByte_append before ('(' :: rest)
    have closing : closingOffset 0 0 ('(' :: rest) =
        .ok ((upToClosing 0 rest).map fun body => 1 + byteSize body) := closingOffset_eq 0 1 rest
    rw [paramListChars?, afterOpening_of_leftmost opens unopened, Option.bind_some]
    simp only [list, closing, bind, Except.bind]
    cases found : upToClosing 0 rest with
    | none => rfl
    | some body =>
      obtain ⟨-, behind, rfl⟩ := upToClosing_eq_some_iff.mp found
      have between : textBetween (before ++ '(' :: (body ++ ')' :: behind)) (byteSize before + 1)
          (byteSize before + (1 + byteSize body)) = .ok body := by
        have cut := textBetween_append (before ++ ['(']) body (')' :: behind)
        have one : byteSize (before ++ ['(']) = byteSize before + 1 := by
          rw [byteSize_append]
          rfl
        rw [one, Nat.add_assoc] at cut
        simpa using cut
      rw [Option.map_some]
      simp only [between]
      rfl

/-- A text has a parameter list exactly if a parenthesis opens a constructor and the leftmost of those
is closed. The list is what stands between the two, with its own parentheses nested properly. Read by
offsets, with an unsigned count of open parentheses, it is found without a cut inside a character and
without a count below zero, whatever characters the text has. -/
theorem list_of_leftmost_opening (source : String) :
    (∀ body : String, paramList? source = some body ↔
      ∃ before behind, source.toList = before ++ '(' :: (body.toList ++ ')' :: behind) ∧
        Opens before ∧ Unopened before ∧ Enclosed body.toList) ∧
    (paramList? source = none ↔
      (∀ before rest, source.toList = before ++ '(' :: rest → ¬ Opens before) ∨
        ∃ before rest, source.toList = before ++ '(' :: rest ∧ Opens before ∧ Unopened before ∧
          ∀ body behind, rest = body ++ ')' :: behind → ¬ Enclosed body) ∧
    paramListByOffsets source.toList = .ok ((paramList? source).map String.toList) := by
  refine ⟨fun body => ?_, ?_, ?_⟩
  · rw [← paramListChars?_eq_some_iff, paramList?, Option.map_eq_some_iff]
    constructor
    · rintro ⟨chars, found, rfl⟩
      rw [found, String.toList_ofList]
    · intro found
      exact ⟨body.toList, found, String.ofList_toList⟩
  · rw [← paramListChars?_eq_none_iff, paramList?, Option.map_eq_none_iff]
  · rw [paramListByOffsets_eq, paramList?, Option.map_map]
    simp [Function.comp_def]

/-- Behind two false hits the list of a text with characters of two and three bytes. -/
example :
    let source := "renew(a) new b é\u2003constructor \u2003(ñ: (u8), b) -> Self"
    (paramListByOffsets source.toList).toOption = some (some "ñ: (u8), b".toList) := by
  decide +kernel

end Trellis.Signature
