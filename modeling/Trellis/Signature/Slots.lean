/-!
# Slots of a parameter list

A parameter list is cut at the commas outside `()`, `[]` and `<>`. One signed depth serves the three
kinds of bracket, and the `>` of an arrow `->` closes nothing. Nothing is trimmed, so joining the
slots with commas gives the list back.
-/

namespace Trellis.Signature

/-- How a character changes the bracket depth, given the character before it. -/
def depthStep (before c : Char) : Int :=
  if c = '<' ∨ c = '(' ∨ c = '[' then 1
  else if c = ')' ∨ c = ']' then -1
  else if c = '>' ∧ before ≠ '-' then -1
  else 0

/-- The slots of the rest of a list, read at `depth` after the character `before`. -/
def slotsFrom (depth : Int) (before : Char) : List Char → List (List Char)
  | [] => [[]]
  | c :: rest =>
    if c = ',' ∧ depth = 0 then [] :: slotsFrom depth c rest
    else
      match slotsFrom (depth + depthStep before c) c rest with
      | [] => [[c]]
      | slot :: slots => (c :: slot) :: slots

/-- The slots of a parameter list; a list without a comma at depth zero is one slot. -/
def slotChars (list : List Char) : List (List Char) :=
  slotsFrom 0 '\x00' list

def slots (list : String) : List String :=
  (slotChars list.toList).map String.ofList

end Trellis.Signature
