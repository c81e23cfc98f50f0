import Mathlib.Data.List.Basic
import Trellis.Text.Search
/-!
# Byte offsets

A reader may keep its place in a text as a number of bytes. It then goes wrong where it cuts the text
inside a character or behind its end, and where it takes a larger number from a smaller one. Here each
of these is a fault, so that a reader can be shown to be free of them: all it ever cuts at are the sizes
of texts that the text starts with.
-/

namespace Trellis.Text

/-- How a reader by offsets goes wrong. -/
inductive OffsetFault
  /-- It cuts a text inside a character or behind its end. -/
  | noBoundary
  /-- It takes a larger number from a smaller one. -/
  | belowZero
  /-- It needs more rounds than it was given. -/
  | unfinished

variable {before behind front middle text needle : List Char} {offset : Nat}

/-- The number of bytes of a text. -/
def byteSize : List Char → Nat
  | [] => 0
  | c :: rest => c.utf8Size + byteSize rest

@[simp]
theorem byteSize_nil : byteSize [] = 0 := rfl

@[simp]
theorem byteSize_cons (c : Char) (rest : List Char) :
    byteSize (c :: rest) = c.utf8Size + byteSize rest := rfl

@[simp]
theorem byteSize_append (front behind : List Char) :
    byteSize (front ++ behind) = byteSize front + byteSize behind := by
  induction front with
  | nil => simp
  | cons c rest ih => rw [List.cons_append, byteSize_cons, byteSize_cons, ih, Nat.add_assoc]

theorem utf8Size_toLower_of_ascii :
    ∀ n < 128, (Char.ofNat n).toLower.utf8Size = (Char.ofNat n).utf8Size := by
  decide +kernel

/-- Only letters of one byte are written in lower case, and in lower case they have one byte, too. -/
theorem utf8Size_toLower (c : Char) : c.toLower.utf8Size = c.utf8Size := by
  by_cases upper : 'A'.val ≤ c.val ∧ c.val ≤ 'Z'.val
  · have ascii : c.toNat < 128 :=
      Nat.lt_of_le_of_lt (UInt32.le_iff_toNat_le.mp upper.2) (by decide : 'Z'.toNat < 128)
    rw [← Char.ofNat_toNat c]
    exact utf8Size_toLower_of_ascii c.toNat ascii
  · have same : c.toLower = c := dif_neg upper
    rw [same]

theorem byteSize_map_toLower (text : List Char) : byteSize (text.map Char.toLower) = byteSize text := by
  induction text with
  | nil => rfl
  | cons c rest ih => rw [List.map_cons, byteSize_cons, byteSize_cons, utf8Size_toLower, ih]

/-- The text before a byte offset and the text behind it. -/
def cutAtByte : List Char → Nat → Except OffsetFault (List Char × List Char)
  | text, 0 => .ok ([], text)
  | [], _ + 1 => .error .noBoundary
  | c :: rest, offset + 1 =>
    if c.utf8Size ≤ offset + 1 then
      (cutAtByte rest (offset + 1 - c.utf8Size)).map fun (before, behind) => (c :: before, behind)
    else .error .noBoundary

/-- A text can be cut behind any text that it starts with. -/
theorem cutAtByte_append (before behind : List Char) :
    cutAtByte (before ++ behind) (byteSize before) = .ok (before, behind) := by
  induction before with
  | nil => cases behind <;> rfl
  | cons c rest ih =>
    obtain ⟨size, positive⟩ := Nat.exists_eq_add_one_of_ne_zero (Nat.ne_of_gt c.utf8Size_pos)
    have shape : byteSize (c :: rest) = size + byteSize rest + 1 := by
      rw [byteSize_cons]
      omega
    have left : size + byteSize rest + 1 - c.utf8Size = byteSize rest := by omega
    rw [shape, List.cons_append, cutAtByte, if_pos (by omega), left, ih]
    rfl

/-- The first number less the second. -/
def difference (larger smaller : Nat) : Except OffsetFault Nat :=
  if smaller ≤ larger then .ok (larger - smaller) else .error .belowZero

/-- The text from one byte offset up to another. -/
def textBetween (text : List Char) (first last : Nat) : Except OffsetFault (List Char) := do
  let (front, _) ← cutAtByte text last
  let (_, middle) ← cutAtByte front first
  return middle

theorem textBetween_append (front middle behind : List Char) :
    textBetween (front ++ (middle ++ behind)) (byteSize front) (byteSize front + byteSize middle) =
      .ok middle := by
  have outer := cutAtByte_append (front ++ middle) behind
  rw [List.append_assoc, byteSize_append] at outer
  rw [textBetween, outer]
  show (cutAtByte (front ++ middle) (byteSize front)).bind _ = _
  rw [cutAtByte_append]
  rfl

/-- The byte offset at which the needle first stands in a text. -/
def findOffset? (needle : List Char) : List Char → Option Nat
  | [] => if needle.isEmpty then some 0 else none
  | c :: rest =>
    if needle.isPrefixOf (c :: rest) then some 0
    else (findOffset? needle rest).map (c.utf8Size + ·)

theorem not_infix_of_findOffset? (absent : findOffset? needle text = none) : ¬ needle <:+: text := by
  induction text with
  | nil =>
    unfold findOffset? at absent
    simpa using absent
  | cons c rest ih =>
    unfold findOffset? at absent
    split at absent
    · cases absent
    · rename_i elsewhere
      rw [List.isPrefixOf_iff_prefix] at elsewhere
      rw [List.infix_cons_iff, not_or]
      exact ⟨elsewhere, ih (Option.map_eq_none_iff.mp absent)⟩

/-- What is found is an occurrence, and none begins earlier. -/
theorem exists_of_findOffset? (found : findOffset? needle text = some offset) :
    ∃ front behind, text = front ++ (needle ++ behind) ∧ byteSize front = offset ∧
      ∀ front' behind', text = front' ++ (needle ++ behind') → front <+: front' := by
  induction text generalizing offset with
  | nil =>
    unfold findOffset? at found
    split at found
    · rename_i empty
      rw [List.isEmpty_iff] at empty
      cases found
      exact ⟨[], [], by rw [empty]; rfl, rfl, fun _ _ _ => List.nil_prefix⟩
    · cases found
  | cons c rest ih =>
    unfold findOffset? at found
    split at found
    · rename_i here
      cases found
      obtain ⟨behind, whole⟩ := List.isPrefixOf_iff_prefix.mp here
      exact ⟨[], behind, whole.symm, rfl, fun _ _ _ => List.nil_prefix⟩
    · rename_i elsewhere
      obtain ⟨later, hit, rfl⟩ := Option.map_eq_some_iff.mp found
      obtain ⟨front, behind, rfl, size, first⟩ := ih hit
      refine ⟨c :: front, behind, rfl, by rw [byteSize_cons, size], ?_⟩
      intro front' behind' whole
      cases front' with
      | nil => exact absurd (List.isPrefixOf_iff_prefix.mpr ⟨behind', whole.symm⟩) elsewhere
      | cons d front' =>
        obtain ⟨rfl, same⟩ := List.cons.inj whole
        exact List.cons_prefix_cons.mpr ⟨rfl, first front' behind' same⟩

end Trellis.Text
