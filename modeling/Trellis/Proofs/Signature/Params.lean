import Trellis.Proofs.Signature.Opening
import Trellis.Proofs.Signature.Slots
import Trellis.Proofs.Signature.TypeName
/-!
# Constructors as written

A constructor whose slots are written as receivers and as identifiers, with or without modifiers and
types, is read back slot by slot. Nothing around it matters as long as it opens no constructor
earlier.
-/

namespace Trellis.Signature

open Trellis.Text

/-! ## Modifiers and receivers -/

variable {text rest : List Char}

theorem dropPatternModifiers_of_some (found : dropPatternModifier? text = some rest) :
    dropPatternModifiers text = dropPatternModifiers (trimStart rest) := by
  fun_cases dropPatternModifiers text with
  | case1 other found' => rw [Option.some.inj (found.symm.trans found')]
  | case2 none => exact absurd (found.symm.trans none) nofun

theorem dropPatternModifiers_of_none (found : dropPatternModifier? text = none) :
    dropPatternModifiers text = text := by
  fun_cases dropPatternModifiers text with
  | case1 other found' => exact absurd (found.symm.trans found') nofun
  | case2 none => rfl

theorem dropPatternModifier?_word (modifier : Modifier) (rest : List Char) :
    dropPatternModifier? (modifier.word.chars ++ ' ' :: rest) = some rest := by
  cases modifier <;> rfl

theorem dropPatternModifier?_identifier (identifier : Word) :
    dropPatternModifier? identifier.chars = none := by
  rw [dropPatternModifier?, List.findSome?_eq_none_iff]
  intro modifier listed
  rw [Option.eq_none_iff_forall_ne_some]
  intro rest found
  have spaced : ∀ modifier ∈ patternModifiers, ' ' ∈ modifier.toList := by decide
  have space : ' ' ∈ identifier.chars := by
    rw [eq_append_of_isPrefixOf? found]
    exact List.mem_append_left _ (spaced modifier listed)
  exact identifier.notMem (by decide) space

theorem dropPatternModifiers_pattern (modifiers : List (Modifier × Blanks)) (identifier : Word) :
    dropPatternModifiers (modifierChars modifiers ++ identifier.chars) = identifier.chars := by
  induction modifiers with
  | nil => exact dropPatternModifiers_of_none (dropPatternModifier?_identifier identifier)
  | cons first others ih =>
    obtain ⟨modifier, gap⟩ := first
    -- One space belongs to the modifier, and the blanks behind it are trimmed before the next.
    have split : modifierChars ((modifier, gap) :: others) ++ identifier.chars =
        modifier.word.chars ++ ' ' ::
          (gap.chars ++ (modifierChars others ++ identifier.chars)) := by
      simp [modifierChars]
    rw [split, dropPatternModifiers_of_some (dropPatternModifier?_word modifier _),
      trimStart_append_of_blank, trimStart_eq_self (tight_pattern others identifier).head, ih]

theorem dropPatternModifiers_receiver (receiver : Receiver) :
    dropPatternModifiers receiver.chars = receiver.chars := by
  rcases receiver.front_eq with alone | ⟨rest, referenced⟩
  · rw [Receiver.chars, alone]
    exact dropPatternModifiers_of_none (dropPatternModifier?_identifier selfWord)
  · rw [Receiver.chars, referenced]
    exact dropPatternModifiers_of_none rfl

theorem isReceiver_chars (receiver : Receiver) : isReceiver receiver.chars = true := by
  rcases receiver.front_eq with alone | ⟨rest, referenced⟩
  · rw [Receiver.chars, alone]
    rfl
  · have ending : "self".toList.isSuffixOf ('&' :: (rest ++ selfWord.chars)) = true :=
      List.isSuffixOf_iff_suffix.mpr ⟨'&' :: rest, rfl⟩
    rw [Receiver.chars, referenced, List.cons_append, isReceiver, ending]
    simp

/-! ## Reading a slot -/

/-- Blanks around a slot do not matter. -/
theorem paramOfSlot?_padded (before after : Blanks) (tight : Tight text) (nonempty : text ≠ []) :
    paramOfSlot? (before.chars ++ text ++ after.chars) = paramOfSlot? text := by
  have trimmed : trim (before.chars ++ text ++ after.chars) = trim text := by
    rw [List.append_assoc, trim_append_of_blank, tight.trim_append after nonempty, tight.trim]
  unfold paramOfSlot?
  rw [trimmed]

theorem patternAndType_receiver (receiver : Receiver) :
    patternAndType receiver.chars = (receiver.chars, none) := by
  have front : ':' ∉ receiver.front := by
    cases receiver with
    | borrowed lifetime =>
      have plain : ':' ∉ lifetime.chars := lifetime.notMem (by decide)
      simp [Receiver.front, plain]
    | _ => decide
  have plain : ':' ∉ receiver.chars := by
    rw [Receiver.chars, List.mem_append, not_or]
    exact ⟨front, selfWord.notMem (by decide)⟩
  rw [patternAndType, cutAt_eq_none plain]

theorem paramOfSlot?_receiver (receiver : Receiver) : paramOfSlot? receiver.chars = none := by
  have nonempty : receiver.chars.isEmpty = false :=
    List.isEmpty_eq_false_iff.mpr (List.append_ne_nil_of_right_ne_nil _ selfWord.nonempty)
  unfold paramOfSlot?
  simp only [receiver.tight_chars.trim, nonempty, patternAndType_receiver,
    dropPatternModifiers_receiver, isReceiver_chars]
  rfl

theorem colon_notMem_pattern (binding : Binding) : ':' ∉ binding.pattern := by
  rw [Binding.pattern, List.mem_append, not_or]
  refine ⟨fun member => ?_, binding.identifier.notMem (by decide)⟩
  obtain ⟨⟨modifier, gap⟩, -, inside⟩ := List.mem_flatMap.mp member
  rcases List.mem_append.mp inside with word | behind
  · exact modifier.word.notMem (by decide) word
  · rcases List.mem_cons.mp behind with space | blank
    · exact absurd space (by decide)
    · exact gap.notMem (by decide) blank

theorem patternAndType_binding (binding : Binding) :
    patternAndType binding.chars =
      (binding.pattern, binding.ascription.map fun ascription => ascription.type.chars) := by
  have plain := colon_notMem_pattern binding
  have pattern : Tight binding.pattern := tight_pattern binding.modifiers binding.identifier
  have nonempty : binding.pattern ≠ [] :=
    List.append_ne_nil_of_right_ne_nil _ binding.identifier.nonempty
  unfold Binding.chars
  cases binding.ascription with
  | none => simp only [patternAndType, cutAt_eq_none plain, Option.map_none]
  | some ascription =>
    have before : ':' ∉ binding.pattern ++ ascription.before.chars := by
      rw [List.mem_append, not_or]
      exact ⟨plain, ascription.before.notMem (by decide)⟩
    simp only [patternAndType, Ascription.chars]
    rw [← List.append_assoc, cutAt_append_cons before]
    simp only [pattern.trim_append ascription.before nonempty, trim_append_of_blank,
      ascription.type.tight_chars.trim, Option.map_some]

theorem slotTypeName_ascription (ascription : Option Ascription) :
    slotTypeName (ascription.map fun ascription => ascription.type.chars) =
      ascription.map fun ascription => String.ofList ascription.type.name.chars := by
  cases ascription with
  | none => rfl
  | some ascription =>
    have nonempty := ascription.type.name.nonempty
    rw [slotTypeName, Option.map_some, Option.map_some, ascription.type.bareTypeChars_chars]
    split
    · contradiction
    · rename_i none
      exact absurd (Option.some.inj none) nonempty
    · rename_i name _ found
      cases Option.some.inj found
      rfl

theorem isReceiver_identifier {identifier : Word} (noSelf : identifier.chars ≠ "self".toList)
    (noThis : identifier.chars ≠ "this".toList) : isReceiver identifier.chars = false := by
  have head : identifier.chars.head? ≠ some '&' := fun first =>
    identifier.notMem (by decide) (List.mem_of_head? first)
  rw [isReceiver, beq_false_of_ne noSelf, beq_false_of_ne noThis]
  simp [head]

/-- A slot whose pattern is an identifier, without the modifiers, stands for a parameter of that name,
unless the identifier is a receiver or nothing but underscores. -/
theorem paramOfSlot?_of_identifier {pattern : List Char} {typeText : Option (List Char)}
    {identifier : Word} (named : identifier.chars.any (· != '_') = true)
    (noSelf : identifier.chars ≠ "self".toList) (noThis : identifier.chars ≠ "this".toList)
    (tight : Tight text) (nonempty : text ≠ []) (read : patternAndType text = (pattern, typeText))
    (dropped : dropPatternModifiers pattern = identifier.chars) :
    paramOfSlot? text = some
      { name := String.ofList (identifier.chars.dropWhile (· == '_'))
        typeName := slotTypeName typeText
        destructured := false } := by
  have isEmpty : text.isEmpty = false := List.isEmpty_eq_false_iff.mpr nonempty
  have allIdentifier := identifier.allIdentifier
  have kept : identifier.chars.dropWhile (· == '_') ≠ [] := by
    obtain ⟨c, member, other⟩ := List.any_eq_true.mp named
    intro all
    rw [List.dropWhile_eq_nil_iff] at all
    have underscore := all c member
    simp_all
  unfold paramOfSlot?
  simp only [tight.trim, isEmpty, read, dropped, isReceiver_identifier noSelf noThis, allIdentifier]
  cases shape : identifier.chars.dropWhile (· == '_') with
  | nil => exact absurd shape kept
  | cons c rest => rfl

theorem paramOfSlot?_binding (binding : Binding) :
    paramOfSlot? binding.chars = some binding.param := by
  rw [paramOfSlot?_of_identifier binding.named binding.noSelf binding.noThis binding.tight_chars
    binding.chars_ne_nil (patternAndType_binding binding)
    (dropPatternModifiers_pattern binding.modifiers binding.identifier), slotTypeName_ascription]
  rfl

theorem paramOfSlot?_chars (slot : Slot) : paramOfSlot? slot.chars = slot.param? := by
  cases slot with
  | object receiver => exact paramOfSlot?_receiver receiver
  | bound binding => exact paramOfSlot?_binding binding

/-! ## Reading a constructor -/

theorem Padded.balanced_chars (padded : Padded) : Balanced false padded.chars :=
  ((Balanced.blanks padded.before).append padded.slot.balanced_chars).append (.blanks padded.after)

theorem balanced_parts (slots : List Padded) :
    ∀ part ∈ slots.map Padded.chars, Balanced false part := by
  intro part member
  obtain ⟨padded, -, rfl⟩ := List.mem_map.mp member
  exact padded.balanced_chars

/-- A list of slots is cut into its slots; an empty list is cut into one slot without a name. -/
theorem filterMap_slotChars (slots : List Padded) :
    (slotChars (listChars slots)).filterMap paramOfSlot? =
      slots.filterMap fun padded => padded.slot.param? := by
  have read : ∀ padded : Padded, paramOfSlot? padded.chars = padded.slot.param? := fun padded =>
    (paramOfSlot?_padded padded.before padded.after padded.slot.tight_chars
      padded.slot.chars_ne_nil).trans (paramOfSlot?_chars padded.slot)
  by_cases empty : slots = []
  · subst empty
    rfl
  · have parts : slotChars (listChars slots) = slots.map Padded.chars :=
      slotChars_of_balanced (by simpa using empty) (balanced_parts slots)
    rw [parts, List.filterMap_map]
    exact List.filterMap_congr fun padded _ => read padded

/-- The parameters of a constructor are those of its slots, in order. -/
theorem params_of_written {front : List Char} (standalone : Standalone front)
    (unopened : Unopened front) (keyword : Keyword) (gap : Blanks) (slots : List Padded)
    (suffix : List Char) :
    params (String.ofList (front ++
        (keyword.chars ++ gap.chars ++ '(' :: (listChars slots ++ ')' :: suffix)))) =
      slots.filterMap fun padded => padded.slot.param? := by
  have enclosed : Enclosed (listChars slots) :=
    .intercalate fun part member => (balanced_parts slots part member).enclosed
  have list : paramListChars? (front ++
      (keyword.chars ++ gap.chars ++ '(' :: (listChars slots ++ ')' :: suffix))) =
      some (listChars slots) := by
    rw [paramListChars?, afterOpening_of_unopened keyword gap standalone unopened,
      Option.bind_some, enclosed.upToClosing_eq]
  rw [params, String.toList_ofList, list]
  exact filterMap_slotChars slots

/-! ## A constructor with a wrapper, a lifetime and an arrow -/

namespace Orders

def noBlanks : Blanks :=
  ⟨[], by decide⟩

def space : Blanks :=
  ⟨[' '], by decide⟩

/-- `users: Arc<users::UserService>`, bound mutably. -/
def users : Binding where
  modifiers := [(.isMutable, noBlanks)]
  identifier := ⟨"users".toList, by decide, by decide⟩
  named := by decide
  noSelf := by decide
  noThis := by decide
  ascription := some
    { before := noBlanks
      after := space
      type := .wrapped [] .arc (.named
        { modules := [⟨"users".toList, by decide, by decide⟩]
          name := ⟨"UserService".toList, by decide, by decide⟩
          arguments := none
          noWrapper := by intro wrapper; cases wrapper <;> decide }) }

def handler : Arguments where
  inner := "fn(A) -> B".toList
  balanced := by
    have domain : Balanced true ['A'] := .of_text (by decide)
    have range : Balanced true [' ', 'B'] := .of_text (by decide)
    exact .plain (by decide) nofun (.plain (by decide) nofun
      (.round domain (.plain (by decide) nofun (.arrow range))))
  noArrow := by decide

/-- `_cache: &'a dyn Cache<fn(A) -> B>`. -/
def cache : Binding where
  modifiers := []
  identifier := ⟨"_cache".toList, by decide, by decide⟩
  named := by decide
  noSelf := by decide
  noThis := by decide
  ascription := some
    { before := noBlanks
      after := space
      type := .borrowed ⟨"a".toList, by decide, by decide⟩ (.marked .dynamic (.named
        { modules := []
          name := ⟨"Cache".toList, by decide, by decide⟩
          arguments := some handler
          noWrapper := by intro wrapper; cases wrapper <;> decide })) }

def slots : List Padded :=
  [⟨noBlanks, .object .reference, noBlanks⟩, ⟨space, .bound users, noBlanks⟩,
    ⟨space, .bound cache, noBlanks⟩]

/-- The constructor of the slots above. -/
def source : String :=
  "fn new(&self, mut users: Arc<users::UserService>, _cache: &'a dyn Cache<fn(A) -> B>) -> Self"

theorem params_of_written_orders :
    Standalone "fn ".toList ∧ Unopened "fn ".toList ∧
      params source = [⟨"users", some "UserService", false⟩, ⟨"cache", some "Cache", false⟩] := by
  have standalone : Standalone "fn ".toList := by
    intro c final
    cases final
    decide
  have unopened : Unopened "fn ".toList := by
    intro upTo rest split
    have parenthesis : '(' ∈ "fn ".toList := by simp [split]
    exact absurd parenthesis (by decide)
  have read := params_of_written standalone unopened .new noBlanks slots " -> Self".toList
  have spelled : "fn ".toList ++ (Keyword.new.chars ++ noBlanks.chars ++
      '(' :: (listChars slots ++ ')' :: " -> Self".toList)) = source.toList := by
    decide +kernel
  have named : (slots.filterMap fun padded => padded.slot.param?) =
      [⟨"users", some "UserService", false⟩, ⟨"cache", some "Cache", false⟩] := by
    decide +kernel
  rw [spelled, String.ofList_toList, named] at read
  exact ⟨standalone, unopened, read⟩

end Orders

end Trellis.Signature
