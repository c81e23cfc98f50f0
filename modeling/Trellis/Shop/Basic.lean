import Trellis.Composition.Shared
import Trellis.Object.Effect
import Trellis.Shop.Declaration
/-!
# The running shop

The catalog offers what the setting `catalog` lists, or three products if there is no such setting.
A cart counts the units of each product that have been added to it. Through its controller only
products of the catalog can be added; the cart service takes any product.
-/

namespace Trellis

/-- The units of each product in a cart, counted in 32 bits. -/
abbrev Cart := Dict UInt32

namespace Cart

/-- How many units of a product are in the cart. -/
def quantity (cart : Cart) (product : String) : UInt32 :=
  (cart.get? product).getD 0

/-- The cart with one more unit of a product. -/
def add (cart : Cart) (product : String) : Cart :=
  cart.set product (cart.quantity product + 1)

theorem quantity_add_self (cart : Cart) (product : String) :
    (cart.add product).quantity product = cart.quantity product + 1 := by
  simp [add, quantity, Dict.get?_set_self]

end Cart

/-- A shop that has been started, with the cart of each cart service. -/
structure Shop where
  composition : Composition
  registry : Registry
  carts : Table ObjectId Cart := []

/-- Work in a shop, which may fail and keeps what it changed before. -/
abbrev Trade := ExceptT Error (StateT Shop Logged)

namespace Trade

def ofExcept {α : Type} (result : Except Error α) : Trade α :=
  ExceptT.mk (pure result)

/-- Work on the ledger, as work in a shop. -/
def logged {α : Type} (work : Logged α) : Trade α :=
  ExceptT.lift (StateT.lift work)

/-- Work on the ledger that may fail, as work in a shop. -/
def build {α : Type} (work : Build α) : Trade α := do
  ofExcept (← logged work.run)

end Trade

namespace Shop

/-- The setting that lists the products. -/
def catalogSetting : String := "catalog"

/-- What is on offer when the setting is missing. -/
def defaultProducts : List String := ["keyboard", "mouse", "monitor"]

/-- The cart of a cart service; it is empty at first. -/
def cartOf (shop : Shop) (service : Instance) : Cart :=
  (shop.carts.get? service.object).getD []

/-! ## Services -/

/-- The service of a class. -/
def service? (shop : Shop) (blueprint : Blueprint) : Option Instance :=
  shop.composition.service? shop.registry blueprint.cls

/-- The products that a catalog offers. -/
def products (catalog : Instance) : Build (List String) := do
  match catalog.base? with
  | none => return defaultProducts
  | some base =>
    let setting := base.config.setting? (Json.decodeList Json.decodeString) catalogSetting
    return (← base.runEffect (.ofExcept setting)).getD defaultProducts

/-- Whether a catalog offers a product. -/
def offers (catalog : Instance) (product : String) : Build Bool := do
  return (← products catalog).contains product

/-- The report of a product added to a cart. -/
def addedEvents (cart : Instance) (product : String) (quantity : UInt32) : List Event :=
  cart.base?.toList.map fun base =>
    base.logger.event .debug ("Added " ++ product ++ " (x" ++ toString quantity ++ ")")

/-- Adds a unit of a product to the cart of a cart service and tells how many there are now. -/
def addToCart (service : Instance) (product : String) : Trade UInt32 := do
  let shop ← get
  let cart := (shop.cartOf service).add product
  set { shop with carts := shop.carts.put service.object cart }
  Trade.logged (emitAll (addedEvents service product (cart.quantity product)))
  return cart.quantity product

/-! ## Controllers -/

/-- The wired controller of a class. -/
def controller? (shop : Shop) (blueprint : Blueprint) : Option Controller :=
  shop.composition.typedController? blueprint.cls

/-- The dependency of a class that a controller received. -/
def received (controller : Controller) (blueprint : Blueprint) : Except Error Instance :=
  match controller.subject.dependency? blueprint.cls with
  | some service => .ok service
  | none => .error (.serviceNotFound blueprint.cls.name)

/-- What the catalog's controller lists. -/
def listing (controller : Controller) : Build (List String) := do
  products (← Build.ofExcept (received controller catalogService))

/-- Adds a unit of a product of the catalog through the cart's controller. -/
def add (controller : Controller) (product : String) : Trade UInt32 := do
  let catalog ← Trade.ofExcept (controller.service catalogService.cls)
  if !(← Trade.build (offers catalog product)) then
    throw (.internal ("Unknown product: " ++ product))
  addToCart (← Trade.ofExcept (received controller cartService)) product

/-- What is in the cart that the cart's controller finds. -/
def items (controller : Controller) : Trade Cart := do
  let service ← Trade.ofExcept (controller.service cartService.cls)
  return (← get).cartOf service

/-- What the health check says. -/
def status (controller : Controller) : String :=
  (controller.subject.config.getD {}).name ++ " ok"

/-! ## Starting -/

/-- Starts one of the shop's modules. -/
def start (module : Class) (config : AppConfig) (shared : Shared) :
    Logged (Except Error Shop × Shared) := do
  let (started, shared) ← shared.start module config
  return (started.map fun composition => { composition, registry := shared.registry }, shared)

end Shop

end Trellis
