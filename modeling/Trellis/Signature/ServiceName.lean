import Trellis.Text.Search
import Trellis.Text.Blank
import Trellis.Text.Uppercase
/-!
# Service names guessed from identifiers

A parameter without a type is looked up under a class name made from its identifier: `user_service`,
`userService` and `user` all stand for `UserService`.
-/

namespace Trellis.Signature

open Trellis.Text

/-- The ending of every guessed class name. -/
def serviceSuffix : String := "Service"

/-- The identifier without a `service` at its end, in any mixture of ASCII cases. -/
def dropServiceSuffix (identifier : List Char) : List Char :=
  let ending := serviceSuffix.toList.map Char.toLower
  if ending.isSuffixOf (identifier.map Char.toLower) then
    identifier.take (identifier.length - ending.length)
  else identifier

/-- A word with its first character in upper case. -/
def capitalize : List Char → List Char
  | [] => []
  | c :: rest => uppercase c ++ rest

/-- The capitalised words between underscores, run together, and `Service`. -/
def serviceNameChars (identifier : List Char) : List Char :=
  let stem := dropTail (· == '_') (dropServiceSuffix identifier)
  (splitAt '_' stem).flatMap capitalize ++ serviceSuffix.toList

/-- The class name that an identifier without a type stands for. -/
def guessServiceName (identifier : String) : String :=
  String.ofList (serviceNameChars identifier.toList)

end Trellis.Signature
