import Trellis.Proofs.Signature.Types
import Trellis.Signature.Param
/-!
# Slots as written

A slot of a parameter list is a receiver, or an identifier with modifiers before it and a type
behind it. Whatever the slot, no blank is at either end of it, and all its commas are in brackets.
-/

namespace Trellis.Signature

open Trellis.Text

/-- The object that a method is called on. -/
inductive Receiver
  | value
  | reference
  | mutableReference
  | borrowed (lifetime : Word)

/-- What stands before `self`. -/
def Receiver.front : Receiver → List Char
  | value => []
  | reference => ['&']
  | mutableReference => ['&', 'm', 'u', 't', ' ']
  | borrowed lifetime => '&' :: '\'' :: (lifetime.chars ++ [' '])

/-- The object itself. -/
def selfWord : Word :=
  ⟨"self".toList, by decide, by decide⟩

def Receiver.chars (receiver : Receiver) : List Char :=
  receiver.front ++ selfWord.chars

/-- The words that stand before an identifier. -/
inductive Modifier
  | isMutable
  | isPrivate
  | isPublic
  | isProtected
  | isReadonly

def Modifier.word : Modifier → Word
  | isMutable => Marker.mutable.word
  | isPrivate => ⟨"private".toList, by decide, by decide⟩
  | isPublic => ⟨"public".toList, by decide, by decide⟩
  | isProtected => ⟨"protected".toList, by decide, by decide⟩
  | isReadonly => ⟨"readonly".toList, by decide, by decide⟩

/-- Modifiers in a row, each with a space and any more blanks behind it. -/
def modifierChars (modifiers : List (Modifier × Blanks)) : List Char :=
  modifiers.flatMap fun (modifier, gap) => modifier.word.chars ++ ' ' :: gap.chars

/-- The type of a slot, behind a colon with any blanks around it. -/
structure Ascription where
  before : Blanks
  after : Blanks
  type : TypeExpr

def Ascription.chars (ascription : Ascription) : List Char :=
  ascription.before.chars ++ ':' :: (ascription.after.chars ++ ascription.type.chars)

/-- A slot that binds an identifier. -/
structure Binding where
  modifiers : List (Modifier × Blanks)
  identifier : Word
  /-- Something is left without the underscores. -/
  named : identifier.chars.any (· != '_') = true
  noSelf : identifier.chars ≠ "self".toList
  noThis : identifier.chars ≠ "this".toList
  ascription : Option Ascription

def Binding.pattern (binding : Binding) : List Char :=
  modifierChars binding.modifiers ++ binding.identifier.chars

def Binding.chars (binding : Binding) : List Char :=
  match binding.ascription with
  | none => binding.pattern
  | some ascription => binding.pattern ++ ascription.chars

/-- The parameter a binding stands for: the identifier without the underscores in front of it, and
the name at the core of its type. -/
def Binding.param (binding : Binding) : Param where
  name := String.ofList (binding.identifier.chars.dropWhile (· == '_'))
  typeName := binding.ascription.map fun ascription => String.ofList ascription.type.name.chars
  destructured := false

inductive Slot
  | object (receiver : Receiver)
  | bound (binding : Binding)

def Slot.chars : Slot → List Char
  | object receiver => receiver.chars
  | bound binding => binding.chars

def Slot.param? : Slot → Option Param
  | object _ => none
  | bound binding => some binding.param

/-- A slot with any blanks around it. -/
structure Padded where
  before : Blanks
  slot : Slot
  after : Blanks

def Padded.chars (padded : Padded) : List Char :=
  padded.before.chars ++ padded.slot.chars ++ padded.after.chars

/-- The slots of a list with a comma between each two. -/
def listChars (slots : List Padded) : List Char :=
  List.intercalate [','] (slots.map Padded.chars)

/-! ## Both ends and the brackets of a slot -/

theorem isIdentifierChar_of_head_pattern (modifiers : List (Modifier × Blanks))
    (identifier : Word) :
    ∀ c ∈ (modifierChars modifiers ++ identifier.chars).head?, isIdentifierChar c = true := by
  intro c first
  cases modifiers with
  | nil => exact identifier.identifier c (List.mem_of_head? first)
  | cons front others =>
    obtain ⟨modifier, gap⟩ := front
    rw [modifierChars, List.flatMap_cons, List.append_assoc, List.append_assoc] at first
    exact modifier.word.identifier_of_head c first

theorem tight_pattern (modifiers : List (Modifier × Blanks)) (identifier : Word) :
    Tight (modifierChars modifiers ++ identifier.chars) where
  head c first :=
    isBlank_of_isIdentifierChar (isIdentifierChar_of_head_pattern modifiers identifier c first)
  last c final := by
    rw [List.getLast?_append_of_ne_nil _ identifier.nonempty] at final
    exact identifier.tight.last c final

theorem Receiver.front_eq (receiver : Receiver) :
    receiver.front = [] ∨ ∃ rest, receiver.front = '&' :: rest := by
  cases receiver with
  | value => exact .inl rfl
  | reference => exact .inr ⟨_, rfl⟩
  | mutableReference => exact .inr ⟨_, rfl⟩
  | borrowed lifetime => exact .inr ⟨_, rfl⟩

theorem Receiver.tight_chars (receiver : Receiver) : Tight receiver.chars := by
  refine selfWord.tight.append ?_ selfWord.nonempty
  intro c first
  rcases receiver.front_eq with alone | ⟨rest, referenced⟩
  · rw [alone] at first
    cases first
  · rw [referenced] at first
    cases first
    decide

theorem Receiver.balanced_chars (receiver : Receiver) : Balanced false receiver.chars := by
  refine Balanced.append ?_ (.word selfWord)
  cases receiver with
  | value => exact .nil
  | reference => exact .of_text (by decide)
  | mutableReference => exact .of_text (by decide)
  | borrowed lifetime =>
    exact .plain (by decide) nofun (.plain (by decide) nofun
      ((Balanced.word lifetime).append (.plain (by decide) nofun .nil)))

theorem balanced_pattern (modifiers : List (Modifier × Blanks)) (identifier : Word) :
    Balanced false (modifierChars modifiers ++ identifier.chars) := by
  refine Balanced.append ?_ (.word identifier)
  induction modifiers with
  | nil => exact .nil
  | cons first others ih =>
    obtain ⟨modifier, gap⟩ := first
    have spaced : Balanced false (' ' :: gap.chars) := .plain (by decide) nofun (.blanks gap)
    exact ((Balanced.word modifier.word).append spaced).append ih

theorem Binding.tight_chars (binding : Binding) : Tight binding.chars := by
  obtain ⟨modifiers, identifier, -, -, -, ascription⟩ := binding
  have pattern := tight_pattern modifiers identifier
  cases ascription with
  | none => exact pattern
  | some ascription =>
    have split : modifierChars modifiers ++ identifier.chars ++ ascription.chars =
        modifierChars modifiers ++ identifier.chars ++
          (ascription.before.chars ++ ':' :: ascription.after.chars) ++ ascription.type.chars := by
      simp [Ascription.chars]
    show Tight (modifierChars modifiers ++ identifier.chars ++ ascription.chars)
    rw [split]
    refine ascription.type.tight_chars.append (fun c first => ?_) ascription.type.chars_ne_nil
    rw [List.head?_append_of_ne_nil _ (List.append_ne_nil_of_right_ne_nil _ identifier.nonempty)]
      at first
    exact pattern.head c first

theorem Binding.balanced_chars (binding : Binding) : Balanced false binding.chars := by
  obtain ⟨modifiers, identifier, -, -, -, ascription⟩ := binding
  have pattern := balanced_pattern modifiers identifier
  cases ascription with
  | none => exact pattern
  | some ascription =>
    exact pattern.append ((Balanced.blanks ascription.before).append (.plain (by decide) nofun
      ((Balanced.blanks ascription.after).append ascription.type.balanced_chars)))

theorem Binding.chars_ne_nil (binding : Binding) : binding.chars ≠ [] := by
  have pattern : binding.pattern ≠ [] :=
    List.append_ne_nil_of_right_ne_nil _ binding.identifier.nonempty
  unfold chars
  split
  · exact pattern
  · exact List.append_ne_nil_of_left_ne_nil pattern _

namespace Slot

theorem tight_chars (slot : Slot) : Tight slot.chars := by
  cases slot with
  | object receiver => exact receiver.tight_chars
  | bound binding => exact binding.tight_chars

theorem balanced_chars (slot : Slot) : Balanced false slot.chars := by
  cases slot with
  | object receiver => exact receiver.balanced_chars
  | bound binding => exact binding.balanced_chars

theorem chars_ne_nil (slot : Slot) : slot.chars ≠ [] := by
  cases slot with
  | object receiver => exact List.append_ne_nil_of_right_ne_nil _ selfWord.nonempty
  | bound binding => exact binding.chars_ne_nil

end Slot

end Trellis.Signature
