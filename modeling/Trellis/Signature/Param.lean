import Trellis.Signature.Opening
import Trellis.Signature.Slots
import Trellis.Signature.TypeName
/-!
# Constructor parameters

Each slot of a parameter list gives one parameter, except receivers (`self`, `&'a self`, `this`) and
slots with no name in them. A slot bound by a pattern keeps the pattern's text as its name and is
marked, so that it can be reported but never matches a service.
-/

namespace Trellis.Signature

open Trellis.Text

/-- One parameter read from a signature. -/
structure Param where
  /-- The identifier, or the text of the pattern. -/
  name : String
  /-- The bare type name, when the slot has a type. -/
  typeName : Option String
  /-- Whether the slot is bound by a pattern. -/
  destructured : Bool
  deriving DecidableEq, Repr

/-- Texts that mark a parameter or a type as supplied by the framework. -/
def reservedFragments : List String := ["logger", "config"]

/-- Whether a name belongs to what the framework supplies itself. -/
def isReservedName (name : String) : Bool :=
  mentions reservedFragments name.toList

/-- Whether the framework supplies the parameter itself, judged by its name and its type. -/
def Param.isReserved (param : Param) : Bool :=
  isReservedName param.name || param.typeName.any isReservedName

/-- The words dropped from the front of a pattern, as often as they stand there. -/
def patternModifiers : List String := ["mut ", "private ", "public ", "protected ", "readonly "]

/-- The text after one modifier, when the pattern starts with one. -/
def dropPatternModifier? (pattern : List Char) : Option (List Char) :=
  patternModifiers.findSome? fun modifier => modifier.toList.isPrefixOf? pattern

theorem length_dropPatternModifier?_lt {pattern rest : List Char}
    (found : dropPatternModifier? pattern = some rest) : rest.length < pattern.length := by
  obtain ⟨modifier, member, hit⟩ := List.exists_of_findSome?_eq_some found
  have whole := congrArg List.length (eq_append_of_isPrefixOf? hit)
  have nonempty : ∀ modifier ∈ patternModifiers, 0 < modifier.toList.length := by decide
  have := nonempty modifier member
  simp only [List.length_append] at whole
  omega

/-- The pattern without the modifiers in front of it. -/
def dropPatternModifiers (pattern : List Char) : List Char :=
  match found : dropPatternModifier? pattern with
  | some rest =>
    have := Nat.lt_of_le_of_lt (length_trimStart_le rest) (length_dropPatternModifier?_lt found)
    dropPatternModifiers (trimStart rest)
  | none => pattern
termination_by pattern.length

/-- The object a method is called on, which is no parameter. -/
def isReceiver (pattern : List Char) : Bool :=
  pattern == "self".toList || pattern == "this".toList ||
    (pattern.head? == some '&' && "self".toList.isSuffixOf pattern)

/-- The pattern of a slot and its type, both trimmed; the first colon stands between them. -/
def patternAndType (slot : List Char) : List Char × Option (List Char) :=
  match cutAt (· == ':') slot with
  | some (pattern, typeText) => (trim pattern, some (trim typeText))
  | none => (slot, none)

/-- The bare name of a slot's type; none when nothing is left of it. -/
def slotTypeName (typeText : Option (List Char)) : Option String :=
  match typeText.map bareTypeChars with
  | none | some [] => none
  | some name => some (String.ofList name)

/-- The parameter of one slot. -/
def paramOfSlot? (slot : List Char) : Option Param :=
  let slot := trim slot
  if slot.isEmpty then none
  else
    let (pattern, typeText) := patternAndType slot
    let typeName := slotTypeName typeText
    let pattern := dropPatternModifiers pattern
    if isReceiver pattern then none
    else if pattern.all isIdentifierChar then
      match pattern.dropWhile (· == '_') with
      | [] => none
      | name => some ⟨String.ofList name, typeName, false⟩
    else some ⟨String.ofList pattern, typeName, true⟩

/-- The parameter a slot's text stands for; none for receivers and slots without a name. -/
def param? (slot : String) : Option Param :=
  paramOfSlot? slot.toList

/-- The parameters of the first constructor in a text, in order. -/
def params (source : String) : List Param :=
  match paramListChars? source.toList with
  | none => []
  | some list => (slotChars list).filterMap paramOfSlot?

end Trellis.Signature
