import Trellis.Object.Json
import Trellis.Shop.Basic
/-!
# Requests to a shop

What can be asked of a shop, answered in JSON. A request to a controller or a service that the shop
does not have is answered with null.
-/

namespace Trellis

def Cart.toJson (cart : Cart) : Json :=
  .object (cart.map fun (product, quantity) => (product, .nat quantity.toNat))

namespace Shop

inductive Request where
  /-- Add a product through the cart's controller. -/
  | add (product : String)
  | items
  | list
  | status
  | contains (product : String)
  /-- Add a product to the cart itself. -/
  | addToCart (product : String)
  deriving DecidableEq, Repr

/-- A request in words: what is asked, and the product it is about. -/
def Request.ofWords? : List String → Option Request
  | ["add", product] => some (.add product)
  | ["items"] => some .items
  | ["list"] => some .list
  | ["status"] => some .status
  | ["contains", product] => some (.contains product)
  | ["service_add", product] => some (.addToCart product)
  | _ => none

/-- Null if there is nobody to ask, else an answer. -/
def askedOf {α : Type} (asked : Option α) (answer : α → Trade Json) : Trade Json :=
  match asked with
  | some a => answer a
  | none => return .null

/-- Answers a request. -/
def answer (request : Request) : Trade Json := do
  let shop ← get
  match request with
  | .add product =>
    askedOf (shop.controller? cartController) fun cart => Json.nat <$> UInt32.toNat <$> add cart product
  | .items => askedOf (shop.controller? cartController) fun cart => Cart.toJson <$> items cart
  | .list =>
    askedOf (shop.controller? catalogController) fun catalog =>
      Json.strings <$> Trade.build (listing catalog)
  | .status => askedOf (shop.controller? healthController) fun health => return .string (status health)
  | .contains product =>
    askedOf (shop.service? catalogService) fun catalog =>
      Json.bool <$> Trade.build (offers catalog product)
  | .addToCart product =>
    askedOf (shop.service? cartService) fun cart =>
      Json.nat <$> UInt32.toNat <$> addToCart cart product

end Shop

end Trellis
