import Trellis.Composition.Setup
/-!
# Wiring reports

A summary of what a composition consists of, as text and as JSON.
-/

namespace Trellis

/-- A realized service. -/
structure ServiceReport where
  tag : String
  cls : String
  deriving DecidableEq, Repr

/-- A wired controller. -/
structure ControllerReport where
  module : String
  controller : String
  source : String
  dependencies : List String
  unresolved : List String
  services : Nat
  deriving DecidableEq, Repr

structure WiringReport where
  module : String
  stage : Stage
  policy : WiringPolicy
  imports : List String
  services : List ServiceReport
  controllers : List ControllerReport
  deriving DecidableEq, Repr

/-- The entry of a wired controller. -/
def Wired.report (wired : Wired) : ControllerReport where
  module := wired.module.name
  controller := wired.cls.name
  source := wired.resolution.source.name
  dependencies := wired.resolution.dependencies.map (·.name)
  unresolved := wired.resolution.unresolved.map (·.text)
  services := wired.controller.services.length

def Composition.report (composition : Composition) : WiringReport where
  module := composition.root.cls.name
  stage := composition.stage
  policy := composition.app.config.policy
  imports := composition.imports.map (·.name)
  services := composition.services.map fun (tag, bound) => ⟨tag.identifier, bound.cls.name⟩
  controllers := composition.controllers.map Wired.report

namespace ControllerReport

def lines (report : ControllerReport) : List String :=
  ("    " ++ report.module ++ "::" ++ report.controller ++ " [" ++ report.source ++ "] deps=[" ++
      ", ".intercalate report.dependencies ++ "] services=" ++ toString report.services) ::
    report.unresolved.map fun param => "      unresolved: " ++ param

def toJson (report : ControllerReport) : Json :=
  .object
    [ ("module", .string report.module),
      ("controller", .string report.controller),
      ("source", .string report.source),
      ("dependencies", .strings report.dependencies),
      ("unresolved", .strings report.unresolved),
      ("services", .nat report.services) ]

end ControllerReport

namespace WiringReport

def lines (report : WiringReport) : List String :=
  ["module " ++ report.module ++ " (" ++ report.stage.name ++ ", policy " ++ report.policy.name ++
      ")"] ++
    (if report.imports.isEmpty then [] else ["  imports: " ++ ", ".intercalate report.imports]) ++
    ["  services:"] ++
    (report.services.map fun service => "    " ++ service.tag ++ " => " ++ service.cls) ++
    ["  controllers:"] ++
    report.controllers.flatMap ControllerReport.lines

/-- The report as text, every line ended. -/
def text (report : WiringReport) : String :=
  String.join (report.lines.map (· ++ "\n"))

def toJson (report : WiringReport) : Json :=
  .object
    [ ("module", .string report.module),
      ("state", .string report.stage.name),
      ("policy", .string report.policy.name),
      ("imports", .strings report.imports),
      ("services",
        .array (report.services.map fun service =>
          .object [("tag", .string service.tag), ("class", .string service.cls)])),
      ("controllers", .array (report.controllers.map ControllerReport.toJson)) ]

end WiringReport

end Trellis
