import Trellis.Greeting.Declaration
import Trellis.Composition.Shared
/-!
# The applications together

The shop and the greeting application in one process: both are declared in one registry, and all their
modules have been bootstrapped once, so that the resolver knows every constructor.
-/

namespace Trellis.Applications

/-- What is shared once all modules have been bootstrapped. -/
def warmedUp : Logged Shared := do
  let clock ← Tag.make Greeting.clockIdentifier
  let shared ← Shared.ofDecorations "global" (Shop.decorations ++ Greeting.decorations clock)
  shared.warmedUp [Shop.shopModule, Shop.storeModule, Greeting.greetModule]

/-- The handle of a class of either application. -/
def handle? (name : String) : Option Handle :=
  (Shop.handles ++ Greeting.handles).find? (·.name = name)

end Trellis.Applications
