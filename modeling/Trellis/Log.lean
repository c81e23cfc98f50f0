/-!
# Log events

What the library reports while it works. An event is a value: a level, a message and named fields;
where events go is up to the caller.
-/

namespace Trellis

/-- The severity of an event, from the least severe to the most. -/
inductive Level where
  | trace
  | debug
  | info
  | warn
  | error
  deriving DecidableEq, Repr

namespace Level

def rank : Level → Nat
  | .trace => 0
  | .debug => 1
  | .info => 2
  | .warn => 3
  | .error => 4

def name : Level → String
  | .trace => "TRACE"
  | .debug => "DEBUG"
  | .info => "INFO"
  | .warn => "WARN"
  | .error => "ERROR"

/-- The level a configuration names, in any case; `warning` is another name of `warn`. No letter
beyond ASCII has a lower case made of letters of these names, so ASCII lower case decides. -/
def parse? (text : String) : Option Level :=
  match String.ofList (text.toList.map Char.toLower) with
  | "trace" => some .trace
  | "debug" => some .debug
  | "info" => some .info
  | "warn" | "warning" => some .warn
  | "error" => some .error
  | _ => none

end Level

/-- The value of a field. -/
inductive FieldValue where
  | text (s : String)
  | count (n : Nat)
  deriving DecidableEq, Repr

/-- One reported event. -/
structure Event where
  level : Level
  message : String
  fields : List (String × FieldValue)
  deriving DecidableEq, Repr

/-- Whether an event is at least as severe as `level`. -/
def Event.isAtLeast (event : Event) (level : Level) : Bool :=
  level.rank ≤ event.level.rank

end Trellis
