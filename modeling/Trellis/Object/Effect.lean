import Trellis.Object.Construction
/-!
# Effects

A service runs its fallible work as an effect: failures and panics are reported through its logger
and become errors of one kind.
-/

namespace Trellis

/-- What came of some work. -/
inductive Effect (α : Type) where
  | value (a : α)
  | failure (error : Error)
  /-- The work broke off, with a message if it gave a text. -/
  | panic (message : Option String)

/-- The result of an effect run by a service. -/
def Base.runEffect {α : Type} (base : Base) : Effect α → Build α
  | .value a => pure a
  | .failure error => do
    emit (base.logger.event .error ("Effect failed: " ++ error.message))
    throw (.effect error.message (some error))
  | .panic message => do
    let message := message.getD "panic with non-string payload"
    emit (base.logger.event .error ("Effect panicked: " ++ message))
    throw (.effect message none)

/-- A result as an effect. -/
def Effect.ofExcept {α : Type} : Except Error α → Effect α
  | .ok a => .value a
  | .error error => .failure error

end Trellis
