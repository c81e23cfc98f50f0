import Trellis.Composition.Basic
/-!
# Descriptions

The full descriptions of classes, instances, registries and compositions, as they are shown when
something is examined.
-/

namespace Trellis

open Text (quoted)

/-- Items between brackets. -/
def listed (items : List String) : String :=
  "[" ++ ", ".intercalate items ++ "]"

namespace Class

def describe (cls : Class) : String :=
  "ClassRef(" ++ quoted cls.name ++ ")"

end Class

namespace Instance

def describe (subject : Instance) : String :=
  "Instance \x7b class: " ++ quoted subject.cls.name ++ ", .. \x7d"

end Instance

namespace Args

def describe (args : Args) : String :=
  "ConstructorArgs \x7b dependencies: " ++ listed (args.dependencies.map Instance.describe) ++
    ", logger: " ++ toString args.logger.isSome ++ ", config: " ++ toString args.config.isSome ++
    " \x7d"

end Args

/-- A text without the digits that follow a `#`, the mark before a number. `marked` tells whether all
since the last mark was digits. -/
def unnumbered (marked : Bool) : List Char → List Char
  | [] => []
  | c :: rest =>
    if marked && c.isDigit then unnumbered true rest
    else c :: unnumbered (c == '#') rest

/-- A description in which every number behind a `#` is left out: such numbers tell identities, which
are given out anew in every run. -/
def withoutNumbers (description : String) : String :=
  String.ofList (unnumbered false description.toList)

namespace Tag

/-- The tag by its identifier, with the mark of its identity. -/
def fullName (tag : Tag) : String :=
  "ServiceTag(" ++ tag.identifier ++ "#)"

def describe (tag : Tag) : String :=
  withoutNumbers tag.fullName

end Tag

namespace Layer

def describe (layer : Layer) : String :=
  listed (layer.map fun provision =>
    quoted (provision.tag.identifier ++ " => " ++ provision.label))

end Layer

namespace Context

def describe (context : Context) : String :=
  withoutNumbers <| "\x7b" ++ ", ".intercalate (context.map fun (tag, bound) =>
    tag.fullName ++ ": " ++ bound.cls.describe) ++ "\x7d"

end Context

namespace Controller

/-- The controller's base: the name it was given and the number of its services. -/
def describe (controller : Controller) : String :=
  let className := (controller.subject.base?.map (·.className)).getD controller.subject.cls.name
  "ControllerBase \x7b class_name: " ++ quoted className ++ ", services: " ++
    toString controller.services.length ++ ", .. \x7d"

end Controller

namespace Registry

def describe (registry : Registry) : String :=
  "MetadataRegistry \x7b classes: " ++ toString registry.entries.length ++ ", tags: " ++
    toString registry.tags.length ++ " \x7d"

end Registry

namespace Reflection

def describe (reflection : Reflection) : String :=
  "ReflectionAdapter \x7b host: " ++ quoted reflection.host.name ++ ", store: " ++
    reflection.store.describe ++ " \x7d"

end Reflection

namespace Resolver

def describe (resolver : Resolver) (reflection : Reflection) : String :=
  "DependencyResolver \x7b reflection: " ++ reflection.describe ++ ", signatures: " ++
    toString resolver.signatures.length ++ ", resolutions: " ++
    toString resolver.resolutions.length ++ " \x7d"

end Resolver

namespace Stage

/-- The stage as it stands in a full description. -/
def title : Stage → String
  | .uninitialized => "Uninitialized"
  | .layersComposed => "LayersComposed"
  | .servicesRealized => "ServicesRealized"
  | .controllersWired => "ControllersWired"

/-- The stage of a title. -/
def ofTitle? (title : String) : Option Stage :=
  [Stage.uninitialized, .layersComposed, .servicesRealized, .controllersWired].find?
    (·.title == title)

end Stage

/-- The source of a title, under which it stands in a full description. -/
def ResolutionSource.ofTitle? : String → Option ResolutionSource
  | "HostReflection" => some .hostReflection
  | "MetadataStore" => some .metadataStore
  | "Signature" => some .signature
  | "Empty" => some .empty
  | _ => none

namespace Composition

def describe (composition : Composition) : String :=
  "OneBunModule \x7b module: " ++ composition.root.cls.describe ++ ", state: " ++
    composition.stage.title ++ ", layer: " ++ composition.layer.describe ++ ", controllers: " ++
    toString composition.controllers.length ++ ", .. \x7d"

end Composition

end Trellis
