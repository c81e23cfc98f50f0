import Trellis.Text.Alphanumeric
import Trellis.Text.Blank
/-!
# The parameter list of a constructor

A constructor opens with `new` or `constructor`, any blanks and a `(`; the keyword must not continue
an identifier. The list is the text up to the parenthesis that closes the leftmost opening.

The two keywords neither overlap themselves nor each other, and only blanks stand between a keyword
and its parenthesis, so the leftmost keyword that opens has the leftmost parenthesis.
-/

namespace Trellis.Signature

open Trellis.Text

/-- The words that open a constructor. -/
def constructorKeywords : List String := ["new", "constructor"]

/-- The text after the parenthesis, when `text` starts with `keyword`, blanks and `(`. -/
def afterKeyword (keyword text : List Char) : Option (List Char) :=
  match keyword.isPrefixOf? text with
  | none => none
  | some rest =>
    match rest.dropWhile isBlank with
    | '(' :: body => some body
    | _ => none

/-- The text after the parenthesis, when `text` starts with an opening. -/
def openingHere (text : List Char) : Option (List Char) :=
  constructorKeywords.findSome? fun keyword => afterKeyword keyword.toList text

/-- The text after the parenthesis of the leftmost opening. `inIdentifier` tells whether the
character before the text belongs to an identifier. -/
def afterOpening (inIdentifier : Bool) : List Char → Option (List Char)
  | [] => none
  | c :: rest =>
    match (if inIdentifier then none else openingHere (c :: rest)) with
    | some body => some body
    | none => afterOpening (isIdentifierChar c) rest

/-- The text up to the `)` that closes the list, where `depth` more parentheses are open. -/
def upToClosing (depth : Nat) : List Char → Option (List Char)
  | [] => none
  | c :: rest =>
    if c = '(' then (upToClosing (depth + 1) rest).map (c :: ·)
    else if c = ')' then
      match depth with
      | 0 => some []
      | outer + 1 => (upToClosing outer rest).map (c :: ·)
    else (upToClosing depth rest).map (c :: ·)

/-- The text between the parentheses of the leftmost constructor opening; none when nothing opens
or the parenthesis is never closed. -/
def paramListChars? (source : List Char) : Option (List Char) :=
  (afterOpening false source).bind (upToClosing 0)

def paramList? (source : String) : Option String :=
  (paramListChars? source.toList).map String.ofList

end Trellis.Signature
