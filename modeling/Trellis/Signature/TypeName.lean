import Trellis.Text.Blank
import Trellis.Text.Search
/-!
# Bare type names

A parameter's type is reduced to the name a service would be found under: references, lifetimes and
the words `mut`, `dyn`, `impl` are peeled off, wrappers that only hold their argument are opened,
and of what remains the last path segment before generic arguments counts.

Each round either shortens the text or ends, so the reduction is by recursion on the length.
-/

namespace Trellis.Signature

open Trellis.Text

/-- The wrappers that stand for the type inside them. -/
def transparentWrappers : List String := ["Arc", "Rc", "Box", "Option", "Weak", "Mutex"]

/-- The words dropped from the front of a type, each once per round and in this order. -/
def typeModifiers : List String := ["mut ", "dyn ", "impl "]

/-- A lifetime at the front is dropped up to the blanks after it; without blanks nothing is left. -/
def dropLifetime (text : List Char) : List Char :=
  if text.head? = some '\'' then trimStart (text.dropWhile fun c => !isBlank c) else text

/-- The text without `modifier` and the blanks after it, when it starts with it. -/
def dropModifier (text modifier : List Char) : List Char :=
  match modifier.isPrefixOf? text with
  | some rest => trimStart rest
  | none => text

/-- One round of peeling: reference marks, one lifetime, then the modifiers. -/
def peel (text : List Char) : List Char :=
  let referent := dropLifetime (trimStart (text.dropWhile (· == '&')))
  typeModifiers.foldl (fun rest modifier => dropModifier rest modifier.toList) referent

/-- The text up to the last `>`, without it. -/
def beforeLastClosing (text : List Char) : Option (List Char) :=
  match text.reverse.dropWhile (· != '>') with
  | [] => none
  | _ :: reversed => some reversed.reverse

/-- The argument of a transparent wrapper, trimmed. -/
def unwrap? (text : List Char) : Option (List Char) :=
  let wrapper := trim (lastSegment (beforeAngle text))
  if transparentWrappers.any (·.toList == wrapper) then
    (beforeLastClosing (text.dropWhile (· != '<')).tail).map trim
  else none

theorem length_beforeLastClosing_lt {text inner : List Char}
    (found : beforeLastClosing text = some inner) : inner.length < text.length := by
  unfold beforeLastClosing at found
  have shorter := (List.dropWhile_sublist (l := text.reverse) (· != '>')).length_le
  split at found
  · cases found
  · rename_i mark reversed shape
    cases found
    rw [shape] at shorter
    simp at shorter ⊢
    omega

theorem length_unwrap?_lt {text inner : List Char} (found : unwrap? text = some inner) :
    inner.length < text.length := by
  unfold unwrap? at found
  simp only at found
  split at found
  · obtain ⟨argument, closed, rfl⟩ := Option.map_eq_some_iff.1 found
    have inside := length_beforeLastClosing_lt closed
    have trimmed := length_trim_le argument
    have opened := (List.dropWhile_sublist (l := text) (· != '<')).length_le
    have tailed : (text.dropWhile (· != '<')).tail.length ≤ (text.dropWhile (· != '<')).length := by
      simp
    omega
  · cases found

theorem length_dropModifier_le (text modifier : List Char) :
    (dropModifier text modifier).length ≤ text.length := by
  unfold dropModifier
  split
  · rename_i rest found
    have trimmed := length_trimStart_le rest
    have whole := congrArg List.length (eq_append_of_isPrefixOf? found)
    simp at whole
    omega
  · exact Nat.le_refl _

theorem length_peel_le (text : List Char) : (peel text).length ≤ text.length := by
  have folded : ∀ (modifiers : List String) (rest : List Char),
      (modifiers.foldl (fun rest modifier => dropModifier rest modifier.toList) rest).length
        ≤ rest.length := by
    intro modifiers
    induction modifiers with
    | nil => intro rest; exact Nat.le_refl _
    | cons modifier others ih =>
      intro rest
      exact Nat.le_trans (ih _) (length_dropModifier_le rest modifier.toList)
  have lifetime : ∀ rest : List Char, (dropLifetime rest).length ≤ rest.length := by
    intro rest
    unfold dropLifetime
    split
    · exact Nat.le_trans (length_trimStart_le _) (List.dropWhile_sublist _).length_le
    · exact Nat.le_refl _
  unfold peel
  exact Nat.le_trans (folded _ _) <| Nat.le_trans (lifetime _) <|
    Nat.le_trans (length_trimStart_le _) (List.dropWhile_sublist _).length_le

/-- Peels and opens wrappers until nothing changes. -/
def reduceType (text : List Char) : List Char :=
  match found : unwrap? (peel text) with
  | some inner =>
    have := Nat.lt_of_lt_of_le (length_unwrap?_lt found) (length_peel_le text)
    reduceType inner
  | none => if (peel text).length < text.length then reduceType (peel text) else text
termination_by text.length

/-- The name of a type path: its last segment before generic arguments, blanks left out. -/
def pathName (text : List Char) : List Char :=
  (lastSegment (beforeAngle text)).filter fun c => !isBlank c

def bareTypeChars (text : List Char) : List Char :=
  pathName (reduceType (trim text))

/-- The name a service of this type would be found under. -/
def bareTypeName (typeText : String) : String :=
  String.ofList (bareTypeChars typeText.toList)

end Trellis.Signature
