import Trellis.Error
/-!
# Trouble

Why the program gives up: what it was doing, if that is worth telling, and the error. It is told with
all its causes, which are numbered when there are several.
-/

namespace Trellis.Cli

structure Trouble where
  /-- What the program was doing. -/
  activity : Option String
  error : Error

namespace Trouble

/-- What is told first, and then the causes of that. -/
def messages (trouble : Trouble) : String × List String :=
  match trouble.activity with
  | some activity => (activity, trouble.error.message :: trouble.error.sources)
  | none => (trouble.error.message, trouble.error.sources)

/-- The lines of a cause after its first line are as far in as the text of the first. -/
def hanging (margin : String) (text : String) : String :=
  String.ofList (text.toList.flatMap fun c => if c = '\n' then c :: margin.toList else [c])

/-- A number before a cause. -/
def numbered (n : Nat) : String :=
  let digits := toString n
  String.ofList (List.replicate (5 - digits.length) ' ') ++ digits ++ ": "

/-- The causes from the nth on, a number before each. -/
def numberedCauses (n : Nat) : List String → List String
  | [] => []
  | cause :: causes => (numbered n ++ hanging "       " cause) :: numberedCauses (n + 1) causes

def causeLines : List String → List String
  | [only] => ["    " ++ hanging "    " only]
  | causes => numberedCauses 0 causes

/-- The text of a trouble. -/
def text (trouble : Trouble) : String :=
  let (first, causes) := trouble.messages
  let told := "Error: " ++ first ++ "\n"
  if causes.isEmpty then told
  else told ++ "\nCaused by:\n" ++ String.join ((causeLines causes).map (· ++ "\n"))

end Trouble

end Trellis.Cli
