import Trellis.Object.Construction
/-!
# Errors, events and instances as JSON

Errors are told with the name of their kind and the messages of the errors below, events with their
fields beside level and message, instances with what their constructor was given.
-/

namespace Trellis

/-- The members that tell an error. -/
def Error.members (error : Error) : List (String × Json) :=
  [ ("error", .string error.kind),
    ("message", .string error.message),
    ("sources", .strings error.sources) ]

def FieldValue.toJson : FieldValue → Json
  | .text s => .string s
  | .count n => .nat n

def Event.toJson (event : Event) : Json :=
  .object (("level", .string event.level.name) :: ("message", .string event.message) ::
    event.fields.map fun (name, value) => (name, value.toJson))

/-- The events that are at least as severe as `level`. -/
def logToJson (level : Level) (events : Array Event) : Json :=
  .array ((events.toList.filter (·.isAtLeast level)).map Event.toJson)

/-- A value or, if there is none, null. -/
def Json.option {α : Type} (encode : α → Json) : Option α → Json
  | some a => encode a
  | none => .null

namespace Instance

/-- The label of an instance. -/
def labelJson (subject : Instance) : Json := .string subject.label

/-- The members that tell the base of a service or a controller. -/
def baseMembers (base : Base) : List (String × Json) :=
  [ ("class_name", .string base.className),
    ("logger_class", .optString base.logger.className),
    ("app", .string base.logger.app),
    ("config", .string base.config.name) ]

/-- An instance, through which as many services can be looked up if it is a controller. -/
def toJson (subject : Instance) (services : Nat) : Json :=
  let members :=
    [ ("label", labelJson subject),
      ("deps", .strings (subject.received.map (·.label))),
      ("logger", .optString (subject.logger.map (·.app))),
      ("config", .optString (subject.config.map (·.name))) ]
  match subject.role with
  | .plain => .object members
  | .logger _ => .object [("label", labelJson subject)]
  | .service base => .object (members ++ [("service", .object (baseMembers base))])
  | .controller base =>
    .object (members ++
      [("controller", .object (baseMembers base ++ [("services", .nat services)]))])

end Instance

end Trellis
