import Mathlib.Data.List.Basic
import Trellis.Text.Search
/-!
# Cutting at marks

Where a text is cut at a mark, the piece before the cut does not contain the mark. These lemmas say
conversely what the cuts of a text are that is put together from such pieces.
-/

namespace Trellis.Text

variable {c mark : Char} {before front rest other text : List Char}

theorem isPrefixOf?_append (start rest : List Char) :
    start.isPrefixOf? (start ++ rest) = some rest := by
  induction start with
  | nil => rfl
  | cons c others ih => simp [List.isPrefixOf?, ih]

/-! ## The first mark -/

theorem takeWhile_append_cons (absent : mark ∉ front) :
    (front ++ mark :: rest).takeWhile (· != mark) = front := by
  rw [List.takeWhile_append_of_pos, List.takeWhile_cons_of_neg (by simp), List.append_nil]
  intro c member
  simpa using ne_of_mem_of_not_mem member absent

theorem dropWhile_append_cons (absent : mark ∉ front) :
    (front ++ mark :: rest).dropWhile (· != mark) = mark :: rest := by
  rw [List.dropWhile_append_of_pos, List.dropWhile_cons_of_neg (by simp)]
  intro c member
  simpa using ne_of_mem_of_not_mem member absent

/-- A text has only one first mark. -/
theorem append_cons_inj (absent : mark ∉ front) (absent' : mark ∉ before)
    (same : front ++ mark :: rest = before ++ mark :: other) : front = before ∧ rest = other := by
  have fronts := congrArg (List.takeWhile (· != mark)) same
  have rests := congrArg (List.dropWhile (· != mark)) same
  rw [takeWhile_append_cons absent, takeWhile_append_cons absent'] at fronts
  rw [dropWhile_append_cons absent, dropWhile_append_cons absent'] at rests
  exact ⟨fronts, (List.cons.inj rests).2⟩

theorem cutAt_append_cons (absent : mark ∉ front) :
    cutAt (· == mark) (front ++ mark :: rest) = some (front, rest) := by
  induction front with
  | nil => simp [cutAt]
  | cons c tail ih =>
    rw [List.mem_cons, not_or] at absent
    have other : (c == mark) = false := by simpa using Ne.symm absent.1
    rw [List.cons_append, cutAt, other, ih absent.2]
    rfl

theorem cutAt_eq_none (absent : mark ∉ text) : cutAt (· == mark) text = none := by
  induction text with
  | nil => rfl
  | cons c tail ih =>
    rw [List.mem_cons, not_or] at absent
    have other : (c == mark) = false := by simpa using Ne.symm absent.1
    rw [cutAt, other, ih absent.2]
    rfl

/-! ## All marks -/

theorem splitAt_ne_nil (mark : Char) (text : List Char) : splitAt mark text ≠ [] := by
  cases text with
  | nil => exact List.cons_ne_nil _ _
  | cons c rest =>
    rw [splitAt]
    split
    · exact List.cons_ne_nil _ _
    · split <;> exact List.cons_ne_nil _ _

/-- A character that is no mark goes on with the piece behind it. -/
theorem splitAt_cons_of_ne (other : c ≠ mark) (text : List Char) :
    ∃ piece pieces, splitAt mark text = piece :: pieces ∧
      splitAt mark (c :: text) = (c :: piece) :: pieces := by
  obtain ⟨piece, pieces, split⟩ := List.exists_cons_of_ne_nil (splitAt_ne_nil mark text)
  refine ⟨piece, pieces, split, ?_⟩
  rw [splitAt, if_neg other, split]

/-- The pieces before a mark and the pieces behind it are the pieces of the text. -/
theorem splitAt_append_cons (front rest : List Char) :
    splitAt mark (front ++ mark :: rest) = splitAt mark front ++ splitAt mark rest := by
  induction front with
  | nil => exact if_pos rfl
  | cons c tail ih =>
    by_cases same : c = mark
    · rw [List.cons_append, splitAt, if_pos same, ih, splitAt, if_pos same, List.cons_append]
    · obtain ⟨piece, pieces, split, longer⟩ := splitAt_cons_of_ne same tail
      rw [List.cons_append, splitAt, if_neg same, ih, split, longer]
      rfl

theorem splitAt_eq_singleton (absent : mark ∉ text) : splitAt mark text = [text] := by
  induction text with
  | nil => rfl
  | cons c tail ih =>
    rw [List.mem_cons, not_or] at absent
    rw [splitAt, if_neg (Ne.symm absent.1), ih absent.2]

theorem notMem_of_mem_splitAt {piece : List Char} (member : piece ∈ splitAt mark text) :
    mark ∉ piece := by
  induction text generalizing piece with
  | nil =>
    rw [splitAt, List.mem_singleton] at member
    rw [member]
    exact List.not_mem_nil
  | cons c tail ih =>
    by_cases same : c = mark
    · rw [splitAt, if_pos same, List.mem_cons] at member
      rcases member with rfl | member
      · exact List.not_mem_nil
      · exact ih member
    · obtain ⟨first, pieces, split, longer⟩ := splitAt_cons_of_ne same tail
      rw [split] at ih
      rw [longer, List.mem_cons] at member
      rcases member with rfl | member
      · rw [List.mem_cons, not_or]
        exact ⟨Ne.symm same, ih List.mem_cons_self⟩
      · exact ih (List.mem_cons_of_mem _ member)

/-! ## Paths -/

theorem afterLastColons_eq_none (absent : ':' ∉ text) : afterLastColons text = none := by
  induction text with
  | nil => rfl
  | cons c tail ih =>
    rw [List.mem_cons, not_or] at absent
    rw [afterLastColons, ih absent.2]
    simp [Ne.symm absent.1]

/-- What stands before the last segment does not matter to it. -/
theorem afterLastColons_append (found : afterLastColons text = some rest) :
    afterLastColons (front ++ text) = some rest := by
  induction front with
  | nil => exact found
  | cons c tail ih => rw [List.cons_append, afterLastColons, ih]

theorem afterLastColons_colons (absent : ':' ∉ rest) :
    afterLastColons (front ++ ':' :: ':' :: rest) = some rest := by
  refine afterLastColons_append ?_
  have none : afterLastColons (':' :: rest) = none := by
    rw [afterLastColons, afterLastColons_eq_none absent]
    cases rest with
    | nil => rfl
    | cons c tail =>
      rw [List.mem_cons, not_or] at absent
      simp [Ne.symm absent.1]
  rw [afterLastColons, none]
  rfl

/-- Putting text without colons before a path changes its last segment only when it is alone. -/
theorem lastSegment_append (text : List Char) (absent : ':' ∉ front) :
    lastSegment (front ++ text) = lastSegment text ∨
      lastSegment (front ++ text) = front ++ text := by
  unfold lastSegment
  cases found : afterLastColons text with
  | some segment =>
    rw [afterLastColons_append found]
    exact .inl rfl
  | none =>
    right
    suffices none : afterLastColons (front ++ text) = none by rw [none]; rfl
    induction front with
    | nil => exact found
    | cons c tail ih =>
      rw [List.mem_cons, not_or] at absent
      rw [List.cons_append, afterLastColons, ih absent.2]
      simp [Ne.symm absent.1]

/-! ## What occurs in a text -/

theorem occursIn_iff {needle : List Char} : occursIn needle text = true ↔ needle <:+: text := by
  induction text with
  | nil => simp [occursIn]
  | cons c rest ih =>
    rw [occursIn, Bool.or_eq_true, ih, List.isPrefixOf_iff_prefix, List.infix_cons_iff]

/-- A text mentions a needle if part of it is the needle but for the case of ASCII letters. -/
theorem mentions_iff {needles : List String} : mentions needles text = true ↔
    ∃ needle ∈ needles, ∃ part : List Char, part <:+: text ∧
      part.map Char.toLower = needle.toList := by
  rw [mentions, List.any_eq_true]
  refine exists_congr fun needle => and_congr_right fun _ => ?_
  rw [occursIn_iff]
  constructor
  · rintro ⟨before, after, whole⟩
    obtain ⟨front, rest, rfl, found, -⟩ := List.map_eq_append_iff.mp whole.symm
    obtain ⟨start, part, rfl, -, same⟩ := List.map_eq_append_iff.mp found
    exact ⟨part, ⟨start, rest, rfl⟩, same⟩
  · rintro ⟨part, ⟨start, rest, rfl⟩, same⟩
    exact ⟨start.map Char.toLower, rest.map Char.toLower, by rw [← same]; simp⟩

end Trellis.Text
