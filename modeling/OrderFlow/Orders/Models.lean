import OrderFlow.Inventory.Models

/-!
# The order tables and the REST payload

`Order` and `OrderItem` as `modules/orders/models.py` declares them, and the
request bodies of `schemas.py`, whose constraints are fields here: a payload
that Pydantic rejects cannot be built.
-/

namespace OrderFlow.Orders

open OrderFlow.Inventory

/-- One requested line of `POST /orders`. -/
structure OrderItemIn where
  productId : ℤ
  quantity : ℤ
  productId_pos : 0 < productId
  quantity_pos : 0 < quantity
  deriving DecidableEq

/-- Body of `POST /orders`. -/
structure OrderCreate where
  items : List OrderItemIn
  items_ne : items ≠ []

structure OrderItem where
  productId : ℤ
  quantity : ℤ
  deriving DecidableEq

structure Order where
  id : CharField128
  status : String := "CONFIRMED"
  items : List OrderItem
  deriving DecidableEq

/-- The committed rows of order-db. -/
abbrev OrderDb := List Order

namespace OrderDb

/-- `session.get(Order, order_ref)`. -/
def get? (orders : OrderDb) (orderRef : CharField128) : Option Order :=
  orders.find? fun order => order.id = orderRef

/-- COMMIT of a new order; the primary key rejects an id that is taken. -/
def insert? (orders : OrderDb) (order : Order) : Option OrderDb :=
  if orders.get? order.id = none then some (orders ++ [order]) else none

theorem get?_eq_none_iff (orders : OrderDb) (orderRef : CharField128) :
    orders.get? orderRef = none ↔ ∀ order ∈ orders, order.id ≠ orderRef := by
  simp [get?]

theorem get?_eq_some {orders : OrderDb} {orderRef : CharField128}
    {order : Order} (hfound : orders.get? orderRef = some order) :
    order ∈ orders ∧ order.id = orderRef :=
  ⟨List.mem_of_find?_eq_some hfound, by simpa using List.find?_some hfound⟩

end OrderDb

/-- The quantity an order has of one product. -/
def orderedQuantity (items : List OrderItem) (productId : ℤ) : ℤ :=
  groupedSum OrderItem.productId OrderItem.quantity items productId

end OrderFlow.Orders
