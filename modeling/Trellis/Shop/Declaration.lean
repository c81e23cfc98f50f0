import Trellis.Metadata.Decoration
import Trellis.Object.Blueprint
/-!
# The shop: its classes

A small application of two modules. The store provides the catalog and the cart, each with a
controller that depends on it; the shop imports the store and adds a health check.
-/

namespace Trellis.Shop

/-! ## Services -/

/-- The products on offer. -/
def catalogService : Blueprint := { cls := .named "CatalogService" }

/-- What customers have picked. -/
def cartService : Blueprint := { cls := .named "CartService" }

/-! ## Controllers -/

def catalogController : Blueprint where
  cls := .named "CatalogController"
  making := .controller
  signature := "fn new(catalog: Arc<CatalogService>, logger: Logger, config: Config)"

/-- Its signature has names without types, so its services are guessed from the names. -/
def cartController : Blueprint where
  cls := .named "CartController"
  making := .controller
  signature := "constructor(cartService, catalogService, logger)"

def healthController : Blueprint where
  cls := .named "HealthController"
  making := .controller
  signature := "constructor(config)"

/-! ## Modules -/

def storeModule : Class := .named "StoreModule"

def shopModule : Class := .named "ShopModule"

/-- What is said about the shop's classes. -/
def decorations : List (String × Decoration) :=
  [ ("CatalogService", .service (catalogService.handle .provider) none),
    ("CartService", .service (cartService.handle .provider) none),
    ("CatalogController", .controller (catalogController.handle .controller) "/catalog"),
    ("CatalogController",
      .route catalogController.cls { method := .get, path := "/", handler := "list" }),
    ("CartController", .controller (cartController.handle .controller) "/cart"),
    ("CartController",
      .route cartController.cls { method := .post, path := "/:product", handler := "add" }),
    ("CartController",
      .param cartController.cls "add"
        { kind := .path, name := "product", index := 0, required := true }),
    ("CartController",
      .route cartController.cls { method := .get, path := "/", handler := "items" }),
    ("HealthController", .controller (healthController.handle .controller) "/health"),
    ("HealthController",
      .route healthController.cls { method := .get, path := "/", handler := "status" }),
    ("StoreModule",
      .module storeModule.handle
        { controllers :=
            [catalogController.handle .controller, cartController.handle .controller]
          providers := [catalogService.handle .provider, cartService.handle .provider] }),
    ("ShopModule",
      .module shopModule.handle
        { imports := [storeModule], controllers := [healthController.handle .controller] }) ]

/-- The handles of all classes of the shop, without constructors. -/
def handles : List Handle :=
  [catalogService, cartService, catalogController, cartController, healthController].map
      (·.handle .bare) ++
    [storeModule.handle, shopModule.handle]

end Trellis.Shop
