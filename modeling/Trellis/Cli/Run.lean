import Trellis.Cli.Options
import Trellis.Cli.Trouble
import Trellis.Composition.Report
import Trellis.Config.Load
import Trellis.Json.Printer
import Trellis.Shop.Basic
import Trellis.Text.Quoted
/-!
# The program

The program loads a configuration, starts the shop and prints how it was wired; then it asks the
health check and the catalog, and adds products to the cart. It has a status, and what it prints goes
to two places: its output, and complaints.
-/

namespace Trellis.Cli

def helpText : String :=
  "OneBun - Bootstrap a module graph and report its wiring\n\n" ++
  "Usage: onebun [OPTIONS]\n\n" ++
  "Options:\n" ++
  "  -c, --config <CONFIG>        Path to configuration file\n" ++
  "  -l, --log-level <LOG_LEVEL>  Log level (trace, debug, info, warn, error)\n" ++
  "  -f, --format <FORMAT>        Wiring report format [default: text] [possible values: text, json]\n" ++
  "      --strict                 Abort when a controller dependency cannot be resolved\n" ++
  "      --add <PRODUCT>          Products to add to the demo cart\n" ++
  "  -h, --help                   Print help\n" ++
  "  -V, --version                Print version\n"

def versionText : String := "onebun 0.1.0\n"

/-- What is printed, and what the library keeps while it works. -/
structure Console where
  output : String := ""
  complaints : String := ""
  ledger : Ledger := {}

/-- A run of the program. -/
abbrev Session := ExceptT Trouble (StateM Console)

namespace Session

def say (line : String) : Session Unit :=
  modify fun console => { console with output := console.output ++ line ++ "\n" }

def complain (line : String) : Session Unit :=
  modify fun console => { console with complaints := console.complaints ++ line ++ "\n" }

/-- Work on the ledger. -/
def logged {α : Type} (work : Logged α) : Session α :=
  modifyGet fun console =>
    let (value, ledger) := work console.ledger
    (value, { console with ledger })

/-- A result, or trouble with an activity. -/
def during {α : Type} (activity : String) (result : Except Error α) : Session α :=
  ExceptT.mk (pure (result.mapError fun error => { activity := some activity, error }))

/-- Work in a shop; an error is left to the caller. -/
def trade {α : Type} (shop : Shop) (work : Trade α) : Session (Except Error α × Shop) :=
  logged ((work.run).run shop)

end Session

/-- A path of the command line. -/
def configPath (path : String) : ConfigPath :=
  match path.toList with
  | '/' :: rest => .absolute (String.ofList rest)
  | _ => .relative path

/-- The configuration with what the options change. -/
def Options.applyTo (options : Options) (config : AppConfig) : AppConfig :=
  { config with
    logging := { config.logging with level := options.logLevel.getD config.logging.level }
    policy := if options.strict then .strict else config.policy }

/-- Loads the configuration and applies the options. -/
def configure (options : Options) (s : Surroundings) : Session AppConfig := do
  let loader : Loader := { path := options.config.map configPath }
  let config ← Session.during "loading configuration" (← Session.logged (loader.load s))
  let config := options.applyTo config
  let _ ← Session.during "initializing logging" (AppConfig.parseLevel config.logging.level)
  return config

/-- Starts the shop on its own. -/
def openShop (config : AppConfig) : Session Shop := do
  let shared ← Session.logged (Shared.ofDecorations "global" Shop.decorations)
  let (started, _) ← Session.logged (Shop.start Shop.shopModule config shared)
  Session.during "bootstrapping ShopModule" started

def printReport (format : Format) (report : WiringReport) : Session Unit :=
  match format with
  | .text => modify fun console => { console with output := console.output ++ report.text }
  | .json => Session.say report.toJson.indented

/-- Adds a product and tells how many of it there are, or why it could not be added. -/
def addProduct (cart : Controller) (shop : Shop) (product : String) : Session Shop := do
  let (result, shop) ← Session.trade shop (Shop.add cart product)
  match result with
  | .ok quantity => Session.say ("added " ++ product ++ " (x" ++ toString quantity ++ ")")
  | .error error => Session.complain ("cannot add " ++ product ++ ": " ++ error.message)
  return shop

/-- The text of a cart. -/
def cartText (cart : Cart) : String :=
  "\x7b" ++
    ", ".intercalate (cart.map fun (product, quantity) =>
      Text.quoted product ++ ": " ++ toString quantity) ++
    "\x7d"

/-- Asks the controllers of the shop. -/
def askShop (products : List String) (shop : Shop) : Session Unit := do
  if let some health := shop.controller? Shop.healthController then
    Session.say ("health: " ++ Shop.status health)
  let unexpected {α : Type} (result : Except Error α) : Session α :=
    ExceptT.mk (pure (result.mapError fun error => { activity := none, error }))
  if let some catalog := shop.controller? Shop.catalogController then
    let offered ← unexpected (← Session.logged (Shop.listing catalog).run)
    Session.say ("catalog: " ++ ", ".intercalate offered)
  if let some cart := shop.controller? Shop.cartController then
    let shop ← products.foldlM (addProduct cart) shop
    unless products.isEmpty do
      let (contents, _) ← Session.trade shop (Shop.items cart)
      Session.say ("cart: " ++ cartText (← unexpected contents))

/-- Runs the shop with some options. -/
def runShop (options : Options) (s : Surroundings) : Session Unit := do
  let shop ← openShop (← configure options s)
  printReport (options.format.getD .text) shop.composition.report
  askShop options.products shop

/-- What a run of the program leaves. -/
structure Outcome where
  status : Nat
  output : String := ""
  /-- None when the arguments were refused, which is told in other words. -/
  complaints : Option String := some ""
  deriving DecidableEq, Repr

/-- Runs the program. -/
def run (arguments : List String) (s : Surroundings) : Outcome :=
  match parse arguments with
  | .error _ => { status := 2, complaints := none }
  | .ok .help => { status := 0, output := helpText }
  | .ok .version => { status := 0, output := versionText }
  | .ok (.run options) =>
    let (result, console) := (runShop options s).run {}
    match result with
    | .ok _ => { status := 0, output := console.output, complaints := some console.complaints }
    | .error trouble =>
      { status := 1
        output := console.output
        complaints := some (console.complaints ++ trouble.text) }

end Trellis.Cli
