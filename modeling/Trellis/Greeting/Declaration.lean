import Trellis.Shop.Declaration
/-!
# The greeting application: its classes

An application beside the shop, which imports the shop's store. It has a service under a tag made by
hand, and a controller whose recorded parameter types differ from what its signature says.
-/

namespace Trellis.Greeting

def greetService : Blueprint := { cls := .named "GreetService" }

/-- The service bound to the tag `Clock`. -/
def clockService : Blueprint := { cls := .named "ClockService" }

def greetController : Blueprint where
  cls := .named "GreetController"
  making := .controller
  signature := "fn new(clock: Arc<ClockService>)"

def greetModule : Class := .named "GreetModule"

/-- The identifier of the clock's tag. -/
def clockIdentifier : String := "Clock"

/-- What is said about the classes, given the clock's tag. -/
def decorations (clock : Tag) : List (String × Decoration) :=
  [ ("GreetService", .service (greetService.handle .provider) none),
    ("ClockService", .service (clockService.handle .provider) (some clock)),
    ("GreetController", .controller (greetController.handle .controller) "/greet/"),
    ("GreetController",
      .route greetController.cls
        { method := .all, path := "/:who", handler := "greet", middleware := ["auth"] }),
    ("GreetController",
      .param greetController.cls "greet" { kind := .query, name := "loud", index := 1 }),
    ("GreetController",
      .param greetController.cls "greet"
        { kind := .path, name := "who", index := 0, required := true }),
    ("GreetController", .paramTypes greetController.cls [greetService.cls, .logger]),
    ("GreetModule",
      .module greetModule.handle
        { imports := [Shop.storeModule]
          controllers := [greetController.handle .controller]
          providers := [greetService.handle .provider, clockService.handle .provider] }) ]

/-- The handles of all classes, without constructors. -/
def handles : List Handle :=
  [greetService, clockService, greetController].map (·.handle .bare) ++ [greetModule.handle]

end Trellis.Greeting
