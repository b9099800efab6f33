import OrderFlow.Core.GroupedSum
import Mathlib.Data.Int.Order.Basic

/-!
# The inventory tables

`Product` and `StockReservation` as `inventory_app/models.py` declares them,
and the queries the service layer makes on them.  The two surrogate values
that PostgreSQL hands out, the primary key of a reservation and its
`created_at`, are opaque to the code: a key is named here after the call and
the line that drew it from the sequence.
-/

namespace OrderFlow.Inventory

/-- Text of a `CharField(max_length=128)` column, the type of `order_ref` and
`idempotency_key`.  The REST edge admits no longer key; `Columns` has the texts
that the column refuses. -/
abbrev CharField128 := {text : String // text.length ≤ 128}

/-- The empty string; as an `idempotency_key` it means "no key". -/
def CharField128.empty : CharField128 := ⟨"", by decide⟩

/-- A text as a column value; one that is too long is dropped. -/
def CharField128.ofText (text : String) : CharField128 :=
  if hlength : text.length ≤ 128 then ⟨text, hlength⟩ else .empty

structure Product where
  id : ℤ
  sku : String
  name : String
  availableQuantity : ℤ
  deriving DecidableEq

inductive Status where
  | reserved
  | released
  deriving DecidableEq

/-- Primary key of a reservation: a sequence value is drawn once only, so it
can be named after the call that drew it and the number of rows that call had
inserted before. -/
structure RowId where
  call : ℕ
  line : ℕ
  deriving DecidableEq

structure StockReservation where
  id : RowId
  productId : ℤ
  orderRef : CharField128
  idempotencyKey : CharField128
  quantity : ℤ
  status : Status
  createdAt : ℕ
  deriving DecidableEq

/-- The committed rows of inventory-db. -/
structure InventoryDb where
  products : List Product
  reservations : List StockReservation

namespace InventoryDb

/-- `Product.objects.get(pk=...)`, `none` for `Product.DoesNotExist`. -/
def product? (db : InventoryDb) (productId : ℤ) : Option Product :=
  db.products.find? fun product => product.id = productId

def available? (db : InventoryDb) (productId : ℤ) : Option ℤ :=
  (db.product? productId).map Product.availableQuantity

/-- `StockReservation.objects.filter(idempotency_key=key, status=RESERVED)`. -/
def activeForKey (db : InventoryDb) (key : CharField128) :
    List StockReservation :=
  db.reservations.filter fun row =>
    row.idempotencyKey = key ∧ row.status = .reserved

/-- `StockReservation.objects.filter(order_ref=orderRef, status=RESERVED)`. -/
def reservedForOrder (db : InventoryDb) (orderRef : CharField128) :
    List StockReservation :=
  db.reservations.filter fun row =>
    row.orderRef = orderRef ∧ row.status = .reserved

/-- A committed entry of `uniq_active_reservation_per_key_product`. -/
def hasActive (db : InventoryDb) (key : CharField128) (productId : ℤ) : Bool :=
  db.reservations.any fun row =>
    row.idempotencyKey = key ∧ row.productId = productId ∧
      row.status = .reserved

/-- The latest committed version of the row `id`, if it still passes the
filter `order_ref=orderRef, status=RESERVED`. -/
def stillReserved? (db : InventoryDb) (orderRef : CharField128) (id : RowId) :
    Option StockReservation :=
  db.reservations.find? fun row =>
    row.id = id ∧ row.orderRef = orderRef ∧ row.status = .reserved

theorem stillReserved?_eq_some {db : InventoryDb} {orderRef : CharField128}
    {id : RowId} {row : StockReservation}
    (hcurrent : db.stillReserved? orderRef id = some row) :
    row ∈ db.reservations ∧ row.id = id ∧ row.orderRef = orderRef ∧
      row.status = .reserved := by
  have hmatch := List.find?_some hcurrent
  exact ⟨List.mem_of_find?_eq_some hcurrent, of_decide_eq_true hmatch⟩

theorem exists_product_of_available? {db : InventoryDb}
    {productId available : ℤ}
    (havailable : db.available? productId = some available) :
    ∃ product ∈ db.products, product.availableQuantity = available := by
  obtain ⟨product, hproduct, hquantity⟩ := Option.map_eq_some_iff.mp havailable
  exact ⟨product, List.mem_of_find?_eq_some hproduct, hquantity⟩

end InventoryDb

/-- Total quantity of the rows of one product. -/
def quantityOf (rows : List StockReservation) (productId : ℤ) : ℤ :=
  groupedSum StockReservation.productId StockReservation.quantity rows productId

/-- Sum of `quantity` over the RESERVED rows of one product. -/
def InventoryDb.reservedQuantity (db : InventoryDb) (productId : ℤ) : ℤ :=
  quantityOf (db.reservations.filter fun row => row.status = .reserved)
    productId

/-- What PostgreSQL enforces on the two tables: the primary key and the range
checks of the `PositiveIntegerField` columns. -/
structure InventoryDb.WellFormed (db : InventoryDb) : Prop where
  ids_nodup : (db.reservations.map StockReservation.id).Nodup
  available_nonneg : ∀ productId available,
    db.available? productId = some available → 0 ≤ available
  quantity_nonneg : ∀ row ∈ db.reservations, 0 ≤ row.quantity

end OrderFlow.Inventory
