import OrderFlow.Inventory.Columns
import OrderFlow.Orders.BulkOrders
import OrderFlow.Orders.CreateOrder

/-!
# The order routes

`orders/router.py` with the constraints of `orders/schemas.py`: what a client
sends, what is refused before the service layer is called, and what the client
is answered.
-/

namespace OrderFlow.Orders

open OrderFlow.Inventory

/-! ## Request bodies -/

/-- A line as it is sent, `gt=0` on both fields. -/
def OrderItemIn.parse? (line : ℤ × ℤ) : Option OrderItemIn :=
  if hpositive : 0 < line.1 ∧ 0 < line.2 then
    some ⟨line.1, line.2, hpositive.1, hpositive.2⟩
  else none

/-- The items of a body, `min_length=1`. -/
def OrderCreate.parse? (body : List (ℤ × ℤ)) : Option OrderCreate :=
  (body.mapM OrderItemIn.parse?).bind fun items =>
    if hitems : items = [] then none else some ⟨items, hitems⟩

def BulkOrderCreate.parse? (body : List (List (ℤ × ℤ))) :
    Option BulkOrderCreate :=
  (body.mapM OrderCreate.parse?).bind fun orders =>
    if horders : orders = [] then none else some ⟨orders, horders⟩

def OrderItemIn.sent (item : OrderItemIn) : ℤ × ℤ :=
  (item.productId, item.quantity)

def OrderCreate.sent (payload : OrderCreate) : List (ℤ × ℤ) :=
  payload.items.map OrderItemIn.sent

def BulkOrderCreate.sent (payload : BulkOrderCreate) : List (List (ℤ × ℤ)) :=
  payload.orders.map OrderCreate.sent

/-! ## What a client is answered -/

/-- An answer with its body; the body of a 422 is left out, and that of an
unhandled exception says nothing. -/
inductive Response where
  | created (order : Order)
  | found (order : Order)
  | summary (out : BulkOrderOut)
  | http (exception : HttpException)
  | unprocessable
  | internalServerError
  deriving DecidableEq

def Response.statusCode : Response → ℕ
  | .created _ => 201
  | .found _ => 200
  | .summary _ => 200
  | .http exception => exception.statusCode
  | .unprocessable => 422
  | .internalServerError => 500

/-- The check of the `Idempotency-Key` header. -/
def checkedKey : Option String → Except HttpException (Option CharField128)
  | none => .ok none
  | some text =>
      if hlength : 1 ≤ text.length ∧ text.length ≤ 128 then
        .ok (some ⟨text, hlength.2⟩)
      else
        .error ⟨400, .text "Idempotency-Key must be 1–128 characters"⟩

/-- `POST /orders` up to its first await: the call of the service layer, or
the answer. -/
def postOrder (body : List (ℤ × ℤ)) (idempotencyKey : Option String)
    (uuid : Uuid4) (clock : ℕ → ℕ) : Except Response CreateRequest :=
  match OrderCreate.parse? body with
  | none => .error .unprocessable
  | some payload =>
      match checkedKey idempotencyKey with
      | .error exception => .error (.http exception)
      | .ok key => .ok ⟨payload, key, uuid, clock⟩

/-- `POST /orders/bulk` up to its first await. -/
def postOrdersBulk (body : List (List (ℤ × ℤ))) (uuid : ℕ → Uuid4) :
    Except Response BulkRequest :=
  match BulkOrderCreate.parse? body with
  | none => .error .unprocessable
  | some payload => .ok ⟨payload, uuid⟩

/-- `session.get(Order, order_id)` for an id from the path. -/
def OrderDb.lookup (orders : OrderDb) (orderId : String) : Option Order :=
  orders.find? fun order => order.id.val = orderId

/-- `OrderService.get_order` for an id that PostgreSQL can compare with. -/
def getOrder (orders : OrderDb) (orderId : String) : Response :=
  match orders.lookup orderId with
  | none => .http ⟨404, .text "order not found"⟩
  | some order => .found order

/-- `get_order`.  The query is refused for an id with U+0000. -/
def readOrder (orders : OrderDb) (orderId : String) : Response :=
  if hasNul orderId then .internalServerError else getOrder orders orderId

/-- What `GET` is answered below `/orders/`: by `get_order`, or by the router
itself. -/
inductive Routed where
  | answered (response : Response)
  | redirected (path : String)
  | notFound
  deriving DecidableEq

/-- `{order_id}` stands for one segment of the decoded path. -/
def Segment (rest : String) : Prop := rest ≠ "" ∧ '/' ∉ rest.toList

instance (rest : String) : Decidable (Segment rest) :=
  inferInstanceAs (Decidable (_ ∧ _))

/-- `rstrip("/")`. -/
def withoutTrailingSlashes (rest : String) : String :=
  String.ofList (rest.toList.reverse.dropWhile (· = '/')).reverse

/-- `GET /orders/` with the `rest` of its decoded path.  No other route starts
so.  A path that no route takes is redirected when it ends in slashes and one
would take it without them. -/
def routeOrder (orders : OrderDb) (rest : String) : Routed :=
  if Segment rest then .answered (readOrder orders rest)
  else if rest ≠ "" ∧ rest.toList.getLast? ≠ some '/' then .notFound
  else if withoutTrailingSlashes rest = "" then .redirected "/orders"
  else if Segment (withoutTrailingSlashes rest) then
    .redirected ("/orders/" ++ withoutTrailingSlashes rest)
  else .notFound

/-- The answer to `POST /orders`, a replay included. -/
def Exit.response : Exit → Response
  | .returned order => .created order
  | .http exception => .http exception
  | .raised _ => .internalServerError

/-- The answer to `POST /orders/bulk`. -/
def BulkExit.response : BulkExit → Response
  | .returned out => .summary out
  | .http exception => .http exception
  | .raised _ => .internalServerError

/-! ## What is let through -/

theorem OrderItemIn.parse?_eq_some_iff {line : ℤ × ℤ} {item : OrderItemIn} :
    parse? line = some item ↔ item.sent = line := by
  rw [parse?]
  constructor
  · intro hparsed
    split_ifs at hparsed with hpositive
    exact Option.some.inj hparsed ▸ rfl
  · rintro rfl
    rw [dif_pos ⟨item.productId_pos, item.quantity_pos⟩]
    rfl

/-- Reading element by element, when each element is read exactly from what it
is sent as. -/
theorem mapM_eq_some_iff {Raw Parsed : Type*} {parse? : Raw → Option Parsed}
    {sent : Parsed → Raw}
    (hexact : ∀ raw parsed, parse? raw = some parsed ↔ sent parsed = raw)
    {raws : List Raw} {parsed : List Parsed} :
    raws.mapM parse? = some parsed ↔ parsed.map sent = raws := by
  induction raws generalizing parsed with
  | nil => cases parsed <;> simp
  | cons raw raws ih =>
      rw [List.mapM_cons]
      cases parsed with
      | nil =>
          cases hhead : parse? raw with
          | none => simp
          | some first =>
              cases raws.mapM parse? <;> simp
      | cons first rest =>
          rw [List.map_cons, List.cons.injEq, ← hexact, ← ih]
          cases hhead : parse? raw with
          | none => simp
          | some read =>
              cases raws.mapM parse? <;> simp

theorem OrderCreate.parse?_eq_some_iff {body : List (ℤ × ℤ)}
    {payload : OrderCreate} :
    parse? body = some payload ↔ payload.sent = body := by
  rw [parse?, sent, ← mapM_eq_some_iff fun _ _ =>
    OrderItemIn.parse?_eq_some_iff]
  cases hitems : body.mapM OrderItemIn.parse? with
  | none => simp
  | some items =>
      obtain ⟨own, hown⟩ := payload
      by_cases hempty : items = []
      · simp only [Option.bind_some, dif_pos hempty, Option.some.injEq]
        exact iff_of_false (by simp) fun hsame => hown (hsame ▸ hempty)
      · simp [dif_neg hempty]

theorem BulkOrderCreate.parse?_eq_some_iff {body : List (List (ℤ × ℤ))}
    {payload : BulkOrderCreate} :
    parse? body = some payload ↔ payload.sent = body := by
  rw [parse?, sent, ← mapM_eq_some_iff fun _ _ =>
    OrderCreate.parse?_eq_some_iff]
  cases horders : body.mapM OrderCreate.parse? with
  | none => simp
  | some orders =>
      obtain ⟨own, hown⟩ := payload
      by_cases hempty : orders = []
      · simp only [Option.bind_some, dif_pos hempty, Option.some.injEq]
        exact iff_of_false (by simp) fun hsame => hown (hsame ▸ hempty)
      · simp [dif_neg hempty]

theorem getOrder_eq_found_iff {orders : OrderDb} {orderId : String}
    {order : Order} :
    getOrder orders orderId = .found order ↔
      orders.lookup orderId = some order := by
  rw [getOrder]
  cases orders.lookup orderId <;> simp

/-- The ids that `GET /orders/{order_id}` can be asked for. -/
def Readable (orderId : String) : Prop :=
  Segment orderId ∧ hasNul orderId = false

instance (orderId : String) : Decidable (Readable orderId) :=
  inferInstanceAs (Decidable (_ ∧ _))

theorem routeOrder_of_readable {orders : OrderDb} {orderId : String}
    (hreadable : Readable orderId) :
    routeOrder orders orderId = .answered (getOrder orders orderId) := by
  rw [routeOrder, if_pos hreadable.1, readOrder,
    if_neg (by simp [hreadable.2])]

/-- Under any other id no order is found. -/
theorem routeOrder_of_not_readable {orders : OrderDb} {orderId : String}
    (hreadable : ¬ Readable orderId) (order : Order) :
    routeOrder orders orderId ≠ .answered (.found order) := by
  unfold routeOrder
  split_ifs with hsegment
  · have hnul : hasNul orderId = true := by
      by_contra hnone
      exact hreadable ⟨hsegment, Bool.eq_false_of_not_eq_true hnone⟩
    rw [readOrder, if_pos hnul]
    simp
  all_goals simp

theorem OrderDb.lookup_val (orders : OrderDb) (orderRef : CharField128) :
    orders.lookup orderRef.val = orders.get? orderRef := by
  rw [lookup, get?]
  congr 1
  funext order
  exact decide_eq_decide.mpr Subtype.val_inj

end OrderFlow.Orders
