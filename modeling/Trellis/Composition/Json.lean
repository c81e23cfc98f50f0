import Trellis.Composition.Description
import Trellis.Metadata.Json
import Trellis.Resolution.Json
/-!
# Layers, contexts and compositions as JSON

Tags are shown by a mark that the caller chooses, since a tag's identity has no text of its own.
-/

namespace Trellis

def Layer.toJson (mark : Tag → String) (layer : Layer) : Json :=
  .object
    [ ("len", .nat layer.length),
      ("empty", .bool layer.isEmpty),
      ("tags", .strings (layer.tags.map mark)),
      ("debug", .string layer.describe) ]

def Context.toJson (mark : Tag → String) (context : Context) : Json :=
  .array (context.map fun (tag, bound) => .array [.string (mark tag), bound.labelJson])

def Controller.toJson (controller : Controller) : Json :=
  controller.subject.toJson controller.services.length

namespace Composition

/-- The tags of a composition, those of its layer first. -/
def tags (composition : Composition) : List Tag :=
  composition.layer.tags ++ composition.services.keys

def toJson (mark : Tag → String) (composition : Composition) : Json :=
  .object
    [ ("class", .string composition.root.cls.name),
      ("state", .string composition.stage.name),
      ("imports", .strings (composition.imports.map (·.name))),
      ("controllers", .strings (composition.declaredControllers.map (·.name))),
      ("layer", .strings (composition.layer.tags.map mark)),
      ("services", composition.services.toJson mark),
      ("instances", .array (composition.controllers.map fun wired =>
        .array [.string wired.cls.name, wired.controller.toJson])),
      ("app", .string composition.app.logger.app),
      ("config", .string composition.app.config.name) ]

end Composition

end Trellis
