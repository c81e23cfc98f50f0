/-!
# Finding and cutting text

Occurrence, cutting at a separator and the last segment of a path, by recursion on the characters.
-/

namespace Trellis.Text

theorem eq_append_of_isPrefixOf? {start text rest : List Char}
    (found : start.isPrefixOf? text = some rest) : text = start ++ rest := by
  induction start generalizing text with
  | nil =>
    have whole : ([] : List Char).isPrefixOf? text = some text := rfl
    exact Option.some.inj (whole.symm.trans found)
  | cons a others ih =>
    cases text with
    | nil =>
      have missing : (a :: others).isPrefixOf? [] = none := rfl
      exact absurd (missing.symm.trans found) nofun
    | cons b tail =>
      have step : (a :: others).isPrefixOf? (b :: tail) =
          if a == b then others.isPrefixOf? tail else none := rfl
      rw [step] at found
      split at found
      · rename_i same
        rw [eq_of_beq same, ih found]
        rfl
      · cases found

/-- Whether `needle` stands somewhere in the text. -/
def occursIn (needle : List Char) : List Char → Bool
  | [] => needle.isEmpty
  | c :: rest => needle.isPrefixOf (c :: rest) || occursIn needle rest

/-- Whether one of the needles occurs in the text, ASCII letters compared without case. The needles
are written in lower case. -/
def mentions (needles : List String) (text : List Char) : Bool :=
  let lowered := text.map Char.toLower
  needles.any fun needle => occursIn needle.toList lowered

/-- The pieces between separators: one more piece than there are separators. -/
def splitAt (separator : Char) : List Char → List (List Char)
  | [] => [[]]
  | c :: rest =>
    if c = separator then [] :: splitAt separator rest
    else
      match splitAt separator rest with
      | [] => [[c]]
      | piece :: pieces => (c :: piece) :: pieces

/-- The text after an expected character. -/
def after? (expected : Char) : List Char → Option (List Char)
  | [] => none
  | c :: rest => if c = expected then some rest else none

/-- The text before and after the first character of the class. -/
def cutAt (inClass : Char → Bool) : List Char → Option (List Char × List Char)
  | [] => none
  | c :: rest =>
    if inClass c then some ([], rest)
    else (cutAt inClass rest).map fun (before, after) => (c :: before, after)

/-- The text after the last `::`, if there is one. -/
def afterLastColons : List Char → Option (List Char)
  | [] => none
  | c :: rest =>
    match afterLastColons rest with
    | some segment => some segment
    | none => if c = ':' ∧ rest.head? = some ':' then some rest.tail else none

/-- The last segment of a `::` path; a text without `::` is its own segment. -/
def lastSegment (path : List Char) : List Char :=
  (afterLastColons path).getD path

/-- The text before the first `<`, and all of it when there is none. -/
def beforeAngle (text : List Char) : List Char :=
  text.takeWhile (· != '<')

/-- The class name in a full type name: generic arguments and module path are left out. -/
def shortTypeName (full : String) : String :=
  String.ofList (lastSegment (beforeAngle full.toList))

end Trellis.Text
