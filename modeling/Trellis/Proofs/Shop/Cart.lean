import Trellis.Proofs.Shop.Boot
/-!
# What is in the cart

A unit gets into the cart of a shop by its controller, which asks the catalog first, or by the cart
service itself. However both are asked, in whatever order, the cart has a unit of a product for each
time that adding the product succeeded.

* `Offers` is what the catalog of a configuration has, and `Refusals` what the controller refuses.
* `Trades` is what a shop with some units in its cart answers to whoever asks next
  (`Open.trades`).
* `Answered` says what each of a sequence of purchases is answered, and `exists_purchaseAll` what
  becomes of the cart, by induction from one of them.
* `cart_counts_additions` is about a shop from its start.

Units are counted in words of 32 bits, so what a cart shows is the number of units as long as it fits.
-/

namespace Trellis

/-! ## Carts by the units in them -/

namespace Cart

/-- A cart in the order of its products, with some units of each and without an entry for a product of
which it has none. -/
structure Holds (cart : Cart) (units : String → Nat) : Prop where
  ordered : cart.keys.Pairwise (· < ·)
  counts : ∀ product,
    cart.get? product = if units product = 0 then none else some (.ofNat (units product))

variable {cart : Cart} {units : String → Nat}

theorem holds_nil : Holds [] fun _ => 0 :=
  ⟨.nil, fun _ => rfl⟩

theorem quantity_of_holds (holds : cart.Holds units) (product : String) :
    cart.quantity product = .ofNat (units product) := by
  rw [quantity, holds.counts]
  split
  next none => rw [none]; rfl
  next => rfl

theorem quantity_add_of_holds (holds : cart.Holds units) (product : String) :
    (cart.add product).quantity product = .ofNat (units product + 1) := by
  simp [quantity_add_self, quantity_of_holds holds, UInt32.ofNat_add]

/-- One unit of the product more, and of no other. -/
theorem holds_add (holds : cart.Holds units) (product : String) :
    (cart.add product).Holds fun other => units other + if product = other then 1 else 0 where
  ordered := Dict.pairwise_keys_set holds.ordered _ _
  counts other := by
    rw [add, quantity_of_holds holds]
    by_cases same : product = other
    · subst same
      simp [Dict.get?_set_self, UInt32.ofNat_add]
    · rw [Dict.get?_set_of_ne cart _ (Ne.symm same), holds.counts]
      simp [same]

end Cart

/-! ## Work in a shop -/

namespace Trade

variable {α β : Type} {shop : Shop} {ledger later : Ledger}

/-- What comes of work in a shop, and the shop after it. -/
def outcome (work : Trade α) (shop : Shop) (ledger : Ledger) : Except Error α × Shop :=
  (work.run.run shop ledger).1

theorem outcome_ofExcept_bind (a : α) (next : α → Trade β) (shop : Shop) (ledger : Ledger) :
    (ofExcept (.ok a) >>= next).outcome shop ledger = (next a).outcome shop ledger :=
  rfl

theorem outcome_build_bind_of_ok {work : Build α} {next : α → Trade β} {a : α}
    (built : work.run ledger = (.ok a, later)) :
    (build work >>= next).outcome shop ledger = (next a).outcome shop later := by
  have done : work ledger = (.ok a, later) := built
  show (ofExcept (work ledger).1 >>= next).outcome shop (work ledger).2 = _
  rw [done]
  rfl

theorem outcome_build_bind_of_error {work : Build α} {next : α → Trade β} {error : Error}
    (built : work.run ledger = (.error error, later)) :
    (build work >>= next).outcome shop ledger = (.error error, shop) := by
  have failed : work ledger = (.error error, later) := built
  show (ofExcept (work ledger).1 >>= next).outcome shop (work ledger).2 = _
  rw [failed]
  rfl

end Trade

namespace Shop

variable {config : AppConfig} {first shop : Shop} {controller : Controller} {catalog cart : Instance}
  {listed : List String} {units : String → Nat} {ledger later : Ledger}

/-! ## The catalog of a configuration -/

/-- What the catalog has: three products if there is no setting for it, else what the setting lists,
if it is a list of texts. -/
inductive Offers (config : AppConfig) : List String → Prop
  | missing (absent : config.settings.get? catalogSetting = none) : Offers config defaultProducts
  | listed (products : List String)
      (present : config.settings.get? catalogSetting = some (.array (products.map .string))) :
      Offers config products

theorem Offers.unique {other : List String} (offer : Offers config listed)
    (again : Offers config other) : listed = other := by
  cases offer with
  | missing absent =>
    cases again with
    | missing => rfl
    | listed _ present => cases absent.symm.trans present
  | listed _ present =>
    cases again with
    | missing absent => cases absent.symm.trans present
    | listed _ represent =>
      have items := Json.array.inj (Option.some.inj (present.symm.trans represent))
      exact List.map_injective_iff.mpr (fun _ _ same => Json.string.inj same) items

/-- What the controller of a cart refuses, and how: a product that is not in the catalog, or everything
if the catalog cannot be read. -/
inductive Refusals (config : AppConfig) : (String → Option Error) → Prop
  | unknown {listed : List String} (offer : Offers config listed) :
      Refusals config fun product =>
        if product ∈ listed then none else some (.internal ("Unknown product: " ++ product))
  | unreadable {text : String} (none : ∀ listed, ¬ Offers config listed)
      (unread : config.setting? (Json.decodeList Json.decodeString) catalogSetting =
        .error (.typeMismatch text)) :
      Refusals config fun _ =>
        some (.effect (Error.typeMismatch text).message (some (.typeMismatch text)))

theorem mapM_decodeString_eq_ok_iff {items : List Json} {texts : List String} :
    items.mapM Json.decodeString = .ok texts ↔ items = texts.map .string := by
  induction items generalizing texts with
  | nil => cases texts <;> simp [pure, Except.pure]
  | cons item items ih =>
    cases item with
    | string text =>
      cases texts with
      | nil => cases rest : items.mapM Json.decodeString <;>
          simp [List.mapM_cons, Json.decodeString, rest, bind, Except.bind, pure, Except.pure]
      | cons other texts =>
        rw [List.map_cons, List.cons.injEq, ← ih]
        cases rest : items.mapM Json.decodeString <;>
          simp [List.mapM_cons, Json.decodeString, rest, bind, Except.bind, pure, Except.pure]
    | _ =>
      cases texts <;> simp [List.mapM_cons, Json.decodeString, bind, Except.bind]

theorem decodeList_eq_ok_iff {value : Json} {texts : List String} :
    Json.decodeList Json.decodeString value = .ok texts ↔ value = .array (texts.map .string) := by
  cases value with
  | array items => simpa [Json.decodeList] using mapM_decodeString_eq_ok_iff
  | _ => simp [Json.decodeList]

theorem exists_setting?_of_offers (offer : Offers config listed) :
    ∃ given, config.setting? (Json.decodeList Json.decodeString) catalogSetting = .ok given ∧
      given.getD defaultProducts = listed := by
  cases offer with
  | missing absent => exact ⟨none, by simp [AppConfig.setting?, absent], rfl⟩
  | listed _ present =>
    have decoded : Json.decodeList Json.decodeString (.array (listed.map .string)) = .ok listed :=
      decodeList_eq_ok_iff.mpr rfl
    exact ⟨some listed, by simp [AppConfig.setting?, present, decoded], rfl⟩

/-- A setting that offers nothing is none that can be read. -/
theorem exists_typeMismatch_of_not_offers (none : ∀ products, ¬ Offers config products) :
    ∃ text, config.setting? (Json.decodeList Json.decodeString) catalogSetting =
      .error (.typeMismatch text) := by
  cases present : config.settings.get? catalogSetting with
  | none => exact absurd (.missing present) (none _)
  | some value =>
    cases decoded : Json.decodeList Json.decodeString value with
    | ok products =>
      rw [decodeList_eq_ok_iff.mp decoded] at present
      exact absurd (.listed products present) (none products)
    | error mismatch =>
      refine ⟨"setting '" ++ catalogSetting ++ "': " ++ mismatch.message, ?_⟩
      simp only [AppConfig.setting?, present, decoded]

theorem exists_refusals (config : AppConfig) : ∃ refusal, Refusals config refusal := by
  by_cases offer : ∃ listed, Offers config listed
  · obtain ⟨listed, offer⟩ := offer
    exact ⟨_, .unknown offer⟩
  · obtain ⟨text, unread⟩ := exists_typeMismatch_of_not_offers (not_exists.mp offer)
    exact ⟨_, .unreadable (not_exists.mp offer) unread⟩

theorem Refusals.eq_of_offers {refusal : String → Option Error} (refusals : Refusals config refusal)
    (offer : Offers config listed) : refusal = fun product =>
      if product ∈ listed then none else some (.internal ("Unknown product: " ++ product)) := by
  cases refusals with
  | unknown again => rw [offer.unique again]
  | unreadable none => exact absurd offer (none listed)

/-! ## One addition -/

/-- The shop with one more unit of a product in a cart. -/
def withUnit (shop : Shop) (cart : Instance) (product : String) : Shop :=
  { shop with carts := shop.carts.put cart.object ((shop.cartOf cart).add product) }

theorem cartOf_withUnit (shop : Shop) (cart : Instance) (product : String) :
    (shop.withUnit cart product).cartOf cart = (shop.cartOf cart).add product := by
  simp [withUnit, cartOf]

theorem outcome_addToCart (shop : Shop) (cart : Instance) (product : String) (ledger : Ledger) :
    (addToCart cart product).outcome shop ledger =
      (.ok (((shop.cartOf cart).add product).quantity product), shop.withUnit cart product) :=
  rfl

theorem run_products (configured : ∃ base, catalog.base? = some base ∧ base.config = config)
    {given : Option (List String)}
    (read : config.setting? (Json.decodeList Json.decodeString) catalogSetting = .ok given)
    (ledger : Ledger) :
    (products catalog).run ledger = (.ok (given.getD defaultProducts), ledger) := by
  obtain ⟨base, own, rfl⟩ := configured
  rw [products, own]
  simp only [read]
  rfl

/-- A setting that cannot be read is reported. -/
theorem exists_run_products (configured : ∃ base, catalog.base? = some base ∧ base.config = config)
    {fault : Error}
    (unread : config.setting? (Json.decodeList Json.decodeString) catalogSetting = .error fault)
    (ledger : Ledger) :
    ∃ later, (products catalog).run ledger = (.error (.effect fault.message (some fault)), later) := by
  obtain ⟨base, own, rfl⟩ := configured
  rw [products, own]
  simp only [unread]
  exact ⟨_, rfl⟩

/-- The controller adds what the catalog has. -/
theorem outcome_add (opened : Open config first controller catalog cart)
    (answered : (products catalog).run ledger = (.ok listed, later)) (shop : Shop)
    (product : String) :
    (add controller product).outcome shop ledger =
      if product ∈ listed then (addToCart cart product).outcome shop later
      else (.error (.internal ("Unknown product: " ++ product)), shop) := by
  have asked : (offers catalog product).run ledger = (.ok (listed.contains product), later) :=
    Steps.run_bind_of_ok answered
  unfold add
  rw [opened.findsCatalog, opened.given]
  refine (Trade.outcome_build_bind_of_ok asked).trans ?_
  by_cases has : product ∈ listed
  · have known : listed.contains product = true := List.contains_iff_mem.mpr has
    rw [if_pos has, known]
    exact Trade.outcome_ofExcept_bind cart (addToCart · product) shop later
  · have unknown : listed.contains product = false := by simpa using has
    rw [if_neg has, unknown]
    rfl

theorem outcome_add_of_error (opened : Open config first controller catalog cart) {fault : Error}
    (answered : (products catalog).run ledger = (.error fault, later)) (shop : Shop)
    (product : String) :
    (add controller product).outcome shop ledger = (.error fault, shop) := by
  have asked : (offers catalog product).run ledger = (.error fault, later) :=
    Steps.run_bind_of_error answered
  unfold add
  rw [opened.findsCatalog]
  exact Trade.outcome_build_bind_of_error asked

/-- What a shop with some units in its cart does next. Its cart's contents are read through the
controller, too; the cart service adds any product, the controller a product of the catalog, and what
is not added leaves the shop as it is. -/
structure Trades (config : AppConfig) (controller : Controller) (cart : Instance) (shop : Shop)
    (units : String → Nat) : Prop where
  holds : (shop.cartOf cart).Holds units
  reads : ∀ ledger, (items controller).outcome shop ledger = (.ok (shop.cartOf cart), shop)
  unchecked : ∀ product ledger,
    (addToCart cart product).outcome shop ledger =
      (.ok (.ofNat (units product + 1)), shop.withUnit cart product)
  checked : ∀ listed, Offers config listed → ∀ product ledger,
    (add controller product).outcome shop ledger =
      if product ∈ listed then (.ok (.ofNat (units product + 1)), shop.withUnit cart product)
      else (.error (.internal ("Unknown product: " ++ product)), shop)
  unreadable : (∀ listed, ¬ Offers config listed) → ∃ text, ∀ product ledger,
    (add controller product).outcome shop ledger =
      (.error (.effect (Error.typeMismatch text).message (some (.typeMismatch text))), shop)

/-- What is not refused is added to the cart, and what is refused changes nothing. -/
theorem Open.outcome_add (opened : Open config first controller catalog cart)
    {refusal : String → Option Error} (refusals : Refusals config refusal) (shop : Shop)
    (product : String) (ledger : Ledger) :
    (add controller product).outcome shop ledger =
      match refusal product with
      | none =>
        (.ok (((shop.cartOf cart).add product).quantity product), shop.withUnit cart product)
      | some error => (.error error, shop) := by
  cases refusals with
  | @unknown listed offer =>
    obtain ⟨given, read, rfl⟩ := exists_setting?_of_offers offer
    rw [Shop.outcome_add opened (run_products opened.configured read ledger)]
    by_cases has : product ∈ given.getD defaultProducts
    · simp only [has, if_true, outcome_addToCart]
    · simp only [has, if_false]
  | unreadable none unread =>
    obtain ⟨later, answered⟩ := exists_run_products opened.configured unread ledger
    exact outcome_add_of_error opened answered shop product

theorem Open.trades (opened : Open config first controller catalog cart)
    (holds : (shop.cartOf cart).Holds units) : Trades config controller cart shop units := by
  refine ⟨holds, fun ledger => ?_, fun product ledger => ?_, fun listed offer product ledger => ?_,
    fun none => ?_⟩
  · rw [items, opened.findsCart]
    rfl
  · rw [outcome_addToCart, Cart.quantity_add_of_holds holds]
  · rw [opened.outcome_add (.unknown offer), Cart.quantity_add_of_holds holds]
    by_cases has : product ∈ listed
    · simp only [has, if_true]
    · simp only [has, if_false]
  · obtain ⟨text, unread⟩ := exists_typeMismatch_of_not_offers none
    exact ⟨text, fun product ledger => opened.outcome_add (.unreadable none unread) shop product ledger⟩

/-! ## Sequences of purchases -/

/-- A product is asked for through the cart's controller, or from the cart service itself. -/
inductive Purchase where
  | checked (product : String)
  | unchecked (product : String)

def Purchase.product : Purchase → String
  | checked product | unchecked product => product

/-- The cart service refuses nothing. -/
def Purchase.refusal? (refusal : String → Option Error) : Purchase → Option Error
  | checked product => refusal product
  | unchecked _ => none

def Purchase.make (controller : Controller) (cart : Instance) : Purchase → Trade UInt32
  | checked product => add controller product
  | unchecked product => addToCart cart product

/-- Purchases one after the other, with the answer to each: a refused one is no reason to stop. -/
def purchaseAll (controller : Controller) (cart : Instance) (purchases : List Purchase) :
    StateT Shop Logged (List (Except Error UInt32)) :=
  purchases.mapM fun purchase => (purchase.make controller cart).run

/-- How many of the purchases of a product succeeded. -/
def sold (purchases : List Purchase) (answers : List (Except Error UInt32)) (product : String) : Nat :=
  (purchases.zip answers).countP fun (purchase, answer) => purchase.product = product ∧ answer.isOk

/-- What purchases are answered, where a cart had some units before: one that is not refused, with the
units of its product that there are with it. -/
def Answered (refusal : String → Option Error) (units : String → Nat) (purchases : List Purchase)
    (answers : List (Except Error UInt32)) : Prop :=
  ∀ (index : Nat) (purchase : Purchase), purchases[index]? = some purchase →
    answers[index]? = some (match purchase.refusal? refusal with
      | none => .ok (.ofNat (units purchase.product +
          sold (purchases.take (index + 1)) answers purchase.product))
      | some error => .error error)

section Purchases

variable {refusal : String → Option Error} {purchase : Purchase} {purchases : List Purchase} {answer : Except Error UInt32}
  {answers : List (Except Error UInt32)}

theorem sold_cons (purchase : Purchase) (purchases : List Purchase) (answer : Except Error UInt32)
    (answers : List (Except Error UInt32)) (product : String) :
    sold (purchase :: purchases) (answer :: answers) product =
      (if purchase.product = product ∧ answer.isOk then 1 else 0) +
        sold purchases answers product := by
  rw [sold, List.zip_cons_cons, List.countP_cons, Nat.add_comm]
  simp [sold]

/-- No more succeeds than is asked for. -/
theorem sold_le_countP (purchases : List Purchase) (answers : List (Except Error UInt32))
    (product : String) :
    sold purchases answers product ≤ purchases.countP (·.product = product) := by
  induction purchases generalizing answers with
  | nil => exact Nat.le_refl 0
  | cons purchase purchases ih =>
    cases answers with
    | nil => exact Nat.zero_le _
    | cons answer answers =>
      rw [sold_cons, List.countP_cons, Nat.add_comm]
      refine Nat.add_le_add (ih answers) ?_
      by_cases same : purchase.product = product
      · simp only [same, decide_true, if_true]
        split <;> decide
      · simp [same]

/-- Up to any place among the purchases, a product is sold no more often than it is asked for. -/
theorem sold_take_lt {bound : Nat} {product : String}
    (few : purchases.countP (·.product = product) < bound) (last : Nat)
    (answers : List (Except Error UInt32)) :
    sold (purchases.take last) answers product < bound := by
  calc sold (purchases.take last) answers product
      ≤ (purchases.take last).countP (·.product = product) := sold_le_countP _ _ _
    _ ≤ purchases.countP (·.product = product) := (List.take_sublist _ _).countP_le
    _ < bound := few

theorem answered_nil (refusal : String → Option Error) (units : String → Nat) :
    Answered refusal units [] [] :=
  fun _ _ asked => nomatch asked

/-- The answers to a purchase and to those after it. -/
theorem Answered.cons
    (first : answer = match purchase.refusal? refusal with
      | none => .ok (.ofNat (units purchase.product + 1))
      | some error => .error error)
    (rest : Answered refusal
      (fun product => units product + if purchase.product = product ∧ answer.isOk then 1 else 0)
      purchases answers) :
    Answered refusal units (purchase :: purchases) (answer :: answers) := by
  intro index other asked
  rw [List.take_succ_cons, sold_cons, ← Nat.add_assoc]
  cases index with
  | zero =>
    obtain rfl := Option.some.inj asked
    rw [List.getElem?_cons_zero, first]
    cases purchase.refusal? refusal with
    | none => simp [sold, Except.isOk, Except.toBool]
    | some error => rfl
  | succ index => exact rest index other asked

/-- An answer that tells a count is the number of sales up to it, if that fits. -/
theorem Answered.toNat_count {product : String}
    (answered : Answered refusal (fun _ => 0) purchases answers)
    (few : purchases.countP (·.product = product) < UInt32.size) {index : Nat} {count : UInt32}
    (asked : purchases[index]? = some purchase) (own : purchase.product = product)
    (told : answers[index]? = some (.ok count)) :
    count.toNat = sold (purchases.take (index + 1)) answers product := by
  subst own
  have answer := told.symm.trans (answered index purchase asked)
  split at answer
  · obtain rfl := Except.ok.inj (Option.some.inj answer)
    rw [Nat.zero_add]
    exact UInt32.toNat_ofNat_of_lt' (sold_take_lt few _ answers)
  · cases answer

theorem Open.outcome_make (opened : Open config first controller catalog cart)
    (refusals : Refusals config refusal) (purchase : Purchase) (shop : Shop) (ledger : Ledger) :
    (purchase.make controller cart).outcome shop ledger =
      match purchase.refusal? refusal with
      | none => (.ok (((shop.cartOf cart).add purchase.product).quantity purchase.product),
          shop.withUnit cart purchase.product)
      | some error => (.error error, shop) := by
  cases purchase with
  | unchecked product => rfl
  | checked product => exact opened.outcome_add refusals shop product ledger

theorem run_purchaseAll_cons {next final : Shop} {ended : Ledger}
    (made : (purchase.make controller cart).run.run shop ledger = ((answer, next), later))
    (ran : (purchaseAll controller cart purchases).run next later = ((answers, final), ended)) :
    (purchaseAll controller cart (purchase :: purchases)).run shop ledger =
      ((answer :: answers, final), ended) := by
  have first : (purchase.make controller cart).run shop ledger = ((answer, next), later) := made
  have rest : (purchaseAll controller cart purchases) next later = ((answers, final), ended) := ran
  rw [purchaseAll, List.mapM_cons]
  simp only [StateT.run, bind, StateT.bind, first]
  rw [← purchaseAll, rest]
  rfl

/-- After any purchases the cart has what they sold besides what it had before. -/
theorem exists_purchaseAll (opened : Open config first controller catalog cart)
    (refusals : Refusals config refusal) (purchases : List Purchase) (shop : Shop)
    (units : String → Nat) (holds : (shop.cartOf cart).Holds units) (ledger : Ledger) :
    ∃ answers carts later,
      (purchaseAll controller cart purchases).run shop ledger =
        ((answers, { shop with carts }), later) ∧
      answers.length = purchases.length ∧
      Answered refusal units purchases answers ∧
      (cartOf { shop with carts } cart).Holds fun product =>
        units product + sold purchases answers product := by
  induction purchases generalizing shop units ledger with
  | nil => exact ⟨[], shop.carts, ledger, rfl, rfl, answered_nil refusal units, holds⟩
  | cons purchase purchases ih =>
    -- Only a purchase that succeeds changes the carts, and by the unit that counts.
    obtain ⟨answer, carts, later, made, told, holds⟩ : ∃ answer carts later,
        (purchase.make controller cart).run.run shop ledger =
          ((answer, { shop with carts }), later) ∧
        (answer = match purchase.refusal? refusal with
          | none => .ok (.ofNat (units purchase.product + 1))
          | some error => .error error) ∧
        (cartOf { shop with carts } cart).Holds fun product =>
          units product + if purchase.product = product ∧ answer.isOk then 1 else 0 := by
      have outcome := opened.outcome_make refusals purchase shop ledger
      cases refused : purchase.refusal? refusal with
      | none =>
        rw [refused] at outcome
        refine ⟨_, (shop.withUnit cart purchase.product).carts, _, Prod.ext outcome rfl,
          congrArg _ (Cart.quantity_add_of_holds holds _), ?_⟩
        show ((shop.withUnit cart purchase.product).cartOf cart).Holds _
        rw [cartOf_withUnit]
        simpa [Except.isOk, Except.toBool] using Cart.holds_add holds purchase.product
      | some error =>
        rw [refused] at outcome
        refine ⟨_, shop.carts, _, Prod.ext outcome rfl, rfl, ?_⟩
        simpa [Except.isOk, Except.toBool] using holds
    obtain ⟨answers, final, ended, ran, whole, answered, sums⟩ := ih _ _ holds later
    refine ⟨answer :: answers, final, ended, run_purchaseAll_cons made ran,
      congrArg (· + 1) whole, answered.cons told, ?_⟩
    simpa [sold_cons, Nat.add_assoc] using sums

end Purchases

/-- However the cart's controller and the cart service are asked to add products to a shop that has
been started, the controller and the service both show a cart with a unit of a product for each
addition of it that succeeded, and with nothing else. Each addition that succeeds tells how many there
are with it; the controller refuses what is not in the catalog, and nothing comes of that. What is asked
next is answered alike, as `Trades` says. Where a product is asked for fewer times than there are
words, the words that count it are the numbers. -/
theorem cart_counts_additions {catalogue : Catalogue} {host : MetadataSource} {shared : Shared}
    (reached : shared.Reached host (Permits catalogue)) (ignores : host.IgnoresConstructors)
    (silent : Silent host) (stocked : Stocked shared.registry) {module : Class}
    (own : module = shopModule ∨ module = storeModule) (config : AppConfig) (ledger : Ledger) :
    ∃ shop controller cart refusal,
      (Shop.start module config shared ledger).1.1 = .ok shop ∧
      shop.controller? cartController = some controller ∧
      shop.service? cartService = some cart ∧
      Refusals config refusal ∧
      ∀ purchases begun, ∃ answers carts ended,
        (purchaseAll controller cart purchases).run shop begun =
          ((answers, { shop with carts }), ended) ∧
        answers.length = purchases.length ∧
        Answered refusal (fun _ => 0) purchases answers ∧
        (∀ product, sold purchases answers product ≤ purchases.countP (·.product = product)) ∧
        Trades config controller cart { shop with carts } (sold purchases answers) ∧
        ∀ product, purchases.countP (·.product = product) < UInt32.size →
          ((cartOf { shop with carts } cart).quantity product).toNat =
              sold purchases answers product ∧
            ∀ (index : Nat) (purchase : Purchase) (count : UInt32),
              purchases[index]? = some purchase → purchase.product = product →
              answers[index]? = some (.ok count) →
                count.toNat = sold (purchases.take (index + 1)) answers product := by
  obtain ⟨root, member, rfl⟩ : ∃ root ∈ modules, root.cls = module := by
    rcases own with rfl | rfl
    · exact ⟨Shop.shop, by simp [modules], rfl⟩
    · exact ⟨store, store_mem_modules, rfl⟩
  obtain ⟨shop, controller, catalog, cart, started, opened⟩ :=
    exists_open reached ignores silent stocked member config ledger
  obtain ⟨refusal, refusals⟩ := exists_refusals config
  refine ⟨shop, controller, cart, refusal, started, opened.hasController, opened.hasService, refusals,
    fun purchases begun => ?_⟩
  have empty : (shop.cartOf cart).Holds fun _ => 0 := by
    rw [cartOf, opened.empty]
    exact Cart.holds_nil
  obtain ⟨answers, carts, ended, ran, whole, answered, holds⟩ :=
    exists_purchaseAll opened refusals purchases shop _ empty begun
  simp only [Nat.zero_add] at holds
  refine ⟨answers, carts, ended, ran, whole, answered, sold_le_countP purchases answers,
    opened.trades holds, fun product few => ⟨?_, ?_⟩⟩
  · rw [Cart.quantity_of_holds holds]
    exact UInt32.toNat_ofNat_of_lt' ((sold_le_countP _ _ _).trans_lt few)
  · exact fun index purchase count asked own told => answered.toNat_count few asked own told

/-- Where the greeting application is at work, too, a shop with lamps has no pianos but for those that
the cart service adds itself. -/
theorem lamps_sold_beside_greetings : ∃ shop controller cart carts ended,
    (Shop.start shopModule (({} : AppConfig).withSetting catalogSetting (.array [.string "lamp"]))
      (Applications.warmedUp {}).1 {}).1.1 = .ok shop ∧
    shop.controller? cartController = some controller ∧
    shop.service? cartService = some cart ∧
    (purchaseAll controller cart [.unchecked "piano", .checked "lamp", .checked "piano"]).run shop {} =
      (([.ok 1, .ok 1, .error (.internal "Unknown product: piano")], { shop with carts }), ended) ∧
    (cartOf { shop with carts } cart).get? "piano" = some 1 ∧
    (add controller "lamp").outcome { shop with carts } ended =
      (.ok 2, { shop with carts }.withUnit cart "lamp") := by
  obtain ⟨⟨composition, registry, own⟩, controller, cart, refusal, started, hasController, hasService,
      refusals, all⟩ :=
    cart_counts_additions (Applications.reached_warmedUp {})
      MetadataSource.ignoresConstructors_emitted silent_emitted (Applications.stocked_warmedUp {})
      (.inl rfl) (({} : AppConfig).withSetting catalogSetting (.array [.string "lamp"])) {}
  have offer : Offers (({} : AppConfig).withSetting catalogSetting (.array [.string "lamp"]))
      ["lamp"] := .listed ["lamp"] rfl
  obtain rfl := refusals.eq_of_offers offer
  obtain ⟨answers, carts, ended, ran, whole, answered, -, trades, -⟩ :=
    all [.unchecked "piano", .checked "lamp", .checked "piano"] {}
  obtain ⟨one, two, three, rfl⟩ := List.length_eq_three.mp whole
  obtain rfl : one = .ok 1 := by
    have told := answered 0 _ rfl
    cases one with
    | error => simp [Purchase.refusal?] at told
    | ok => simpa [Purchase.refusal?, Purchase.product, sold, Except.isOk, Except.toBool] using told
  obtain rfl : two = .ok 1 := by
    have told := answered 1 _ rfl
    cases two with
    | error => simp [Purchase.refusal?] at told
    | ok => simpa [Purchase.refusal?, Purchase.product, sold, Except.isOk, Except.toBool] using told
  obtain rfl : three = .error (.internal "Unknown product: piano") := by
    simpa [Purchase.refusal?] using answered 2 _ rfl
  exact ⟨_, controller, cart, carts, ended, started, hasController, hasService, ran,
    trades.holds.counts "piano", trades.checked ["lamp"] offer "lamp" ended⟩

end Shop

end Trellis
