import Trellis.Composition.Json
import Trellis.Composition.Shared
import Trellis.Greeting.Declaration
import Trellis.Metadata.Json
/-!
# A survey of the greeting application

What came of wiring the greeting application: its report, what the registry and the resolver know of
its controller, and which services were injected.
-/

namespace Trellis.Greeting

structure Survey where
  report : WiringReport
  metadata : Option ControllerMetadata
  /-- The dependencies that the resolver remembers for the controller. -/
  cached : Option (List String)
  /-- The types that reflection finds for the controller's constructor. -/
  types : Option (List String)
  /-- The greeting service that was injected. -/
  greet : Option String
  /-- The clock that was injected. -/
  clock : Option String
  clockTag : String
  /-- The application of the realized clock. -/
  clockApp : Option String

/-- Bootstraps the application and looks at what came of it. -/
def survey (app : App) (shared : Shared) : Logged (Except Error Survey × Shared) := do
  let (composed, shared) ← shared.bootstrap greetModule app
  match composed with
  | .error error => return (.error error, shared)
  | .ok composition =>
    let types ← shared.reflection.lookup (greetController.handle .controller)
    let cached := shared.resolver.cached? (.module greetModule) greetController.cls
    let injected (blueprint : Blueprint) : Option String := do
      let controller ← composition.controller? greetController.cls
      return (← controller.subject.dependency? blueprint.cls).cls.name
    let clock := (composition.service? shared.registry clockService.cls).bind (·.base?)
    let names (classes : List Class) := classes.map (·.name)
    return (.ok
      { report := composition.report
        metadata := shared.registry.controllerMetadata? greetController.cls
        cached := cached.map fun resolution => names resolution.dependencies
        types := types.map fun found => names found.2
        greet := injected greetService
        clock := injected clockService
        clockTag := (shared.registry.tagOf clockService.cls).identifier
        clockApp := clock.map (·.logger.app) }, shared)

/-- The members that tell a survey. -/
def Survey.members (survey : Survey) : List (String × Json) :=
  [ ("report", survey.report.toJson),
    ("metadata", .option ControllerMetadata.toJson survey.metadata),
    ("cached", .option Json.strings survey.cached),
    ("types", .option Json.strings survey.types),
    ("greet", .optString survey.greet),
    ("clock", .optString survey.clock),
    ("clock_tag", .string survey.clockTag),
    ("clock_app", .optString survey.clockApp) ]

end Trellis.Greeting
