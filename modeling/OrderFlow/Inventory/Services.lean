import OrderFlow.Inventory.Transaction
import Mathlib.Data.List.Sort

/-!
# The reservation service

`reserve_stock` and `release_stock` of `inventory_app/services.py`, run
without overlap, with texts and sums that the columns hold; `Columns` has them
with any others.  Each database statement of the two loops is a function of
its own, so that the interleaved execution can take them one at a time.
-/

namespace OrderFlow.Inventory

structure ReserveItem where
  productId : ℤ
  quantity : ℤ
  deriving DecidableEq

structure ItemOutcome where
  productId : ℤ
  reserved : Bool
  reason : String := ""
  deriving DecidableEq

structure ReservationOutcome where
  success : Bool
  results : List ItemOutcome
  deriving DecidableEq

structure ReleaseOutcome where
  released : Bool
  releasedCount : ℕ
  deriving DecidableEq

/-- The arguments of a `reserve_stock` call, with what its INSERTs will draw:
`number` stands for the sequence values, `clock` gives the timestamps. -/
structure ReserveCall where
  number : ℕ
  clock : ℕ → ℕ
  orderRef : CharField128
  items : List ReserveItem
  idempotencyKey : CharField128

/-- `sorted(items, key=lambda i: i.product_id)`, a stable sort. -/
def sortedItems (items : List ReserveItem) : List ReserveItem :=
  items.insertionSort fun first second => first.productId ≤ second.productId

/-! ## Idempotent replay -/

/-- The active rows of a key under `Meta.ordering = ["-created_at"]`. -/
def priorReservations (db : InventoryDb) (key : CharField128) :
    List StockReservation :=
  (db.activeForKey key).insertionSort fun first second =>
    second.createdAt ≤ first.createdAt

/-- The replay check; `none` when the call goes on to reserve. -/
def replay? (db : InventoryDb) (key : CharField128) :
    Option ReservationOutcome :=
  if key = .empty then none
  else match priorReservations db key with
    | [] => none
    | prior => some ⟨true, prior.map fun row => ⟨row.productId, true, ""⟩⟩

/-! ## The loop of `reserve_stock` -/

/-- `django.db.IntegrityError`, raised by the partial unique index. -/
inductive DbError where
  | integrityError
  deriving DecidableEq

/-- The transaction and the local variables of the loop. -/
structure ReserveLoop where
  tx : Tx
  outcomes : List ItemOutcome
  allOk : Bool

namespace ReserveLoop

def start : ReserveLoop := ⟨Tx.start, [], true⟩

/-- A line that fails: its outcome is recorded and the loop continues. -/
def reject (loop : ReserveLoop) (item : ReserveItem) (reason : String) :
    ReserveLoop :=
  { loop with
    outcomes := loop.outcomes ++ [⟨item.productId, false, reason⟩]
    allOk := false }

def insufficientStock (requested available : ℤ) : String :=
  "insufficient stock: requested " ++ toString requested ++
    ", available " ++ toString available

/-- `product.available_quantity -= item.quantity; product.save(...)`, where
`available` is the value the locked row was read with. -/
def saveProduct (loop : ReserveLoop) (item : ReserveItem) (available : ℤ) :
    ReserveLoop :=
  { loop with tx := loop.tx.write item.productId (available - item.quantity) }

end ReserveLoop

/-- The row inserted for `item` when `line` rows of the call precede it. -/
def ReserveCall.row (call : ReserveCall) (item : ReserveItem) (line : ℕ) :
    StockReservation where
  id := ⟨call.number, line⟩
  productId := item.productId
  orderRef := call.orderRef
  idempotencyKey := call.idempotencyKey
  quantity := item.quantity
  status := .reserved
  createdAt := call.clock line

/-- `StockReservation.objects.create(...)` and the outcome after it. -/
def ReserveLoop.createReservation (loop : ReserveLoop) (db : InventoryDb)
    (call : ReserveCall) (item : ReserveItem) : Except DbError ReserveLoop :=
  if loop.tx.violatesUniqueIndex db call.idempotencyKey item.productId then
    .error .integrityError
  else
    .ok { loop with
      tx := loop.tx.insert (call.row item loop.tx.inserted.length)
      outcomes := loop.outcomes ++ [⟨item.productId, true, ""⟩] }

/-- One iteration of the loop. -/
def reserveLine (db : InventoryDb) (call : ReserveCall) (loop : ReserveLoop)
    (item : ReserveItem) : Except DbError ReserveLoop :=
  if item.quantity ≤ 0 then
    .ok (loop.reject item "quantity must be positive")
  else match loop.tx.available? db item.productId with
    | none => .ok (loop.reject item "product not found")
    | some available =>
        if available < item.quantity then
          .ok (loop.reject item
            (ReserveLoop.insufficientStock item.quantity available))
        else
          (loop.saveProduct item available).createReservation db call item

def reserveLoop (db : InventoryDb) (call : ReserveCall) :
    ReserveLoop → List ReserveItem → Except DbError ReserveLoop
  | loop, [] => .ok loop
  | loop, item :: items =>
      match reserveLine db call loop item with
      | .error error => .error error
      | .ok next => reserveLoop db call next items

/-- The answer after an `IntegrityError`. -/
def duplicateOutcome (call : ReserveCall) : ReservationOutcome where
  success := false
  results := (sortedItems call.items).map fun item =>
    ⟨item.productId, false, "duplicate reservation in progress"⟩

/-- End of the `with transaction.atomic()` block: COMMIT, or ROLLBACK when a
line failed. -/
def ReserveLoop.finish (loop : ReserveLoop) (db : InventoryDb) :
    InventoryDb × ReservationOutcome :=
  (if loop.allOk then db.commit loop.tx else db, ⟨loop.allOk, loop.outcomes⟩)

/-- `reserve_stock` after its replay check: the whole transaction. -/
def reserveBody (db : InventoryDb) (call : ReserveCall) :
    InventoryDb × ReservationOutcome :=
  match reserveLoop db call .start (sortedItems call.items) with
  | .error _ => (db, duplicateOutcome call)
  | .ok loop => loop.finish db

def reserveStock (db : InventoryDb) (call : ReserveCall) :
    InventoryDb × ReservationOutcome :=
  if call.items = [] then (db, ⟨false, []⟩)
  else match replay? db call.idempotencyKey with
    | some outcome => (db, outcome)
    | none => reserveBody db call

/-! ## `release_stock` -/

/-- `.order_by("product_id")`. -/
def orderByProductId (rows : List StockReservation) : List StockReservation :=
  rows.insertionSort fun first second => first.productId ≤ second.productId

/-- `.update(available_quantity=F("available_quantity") + quantity)`. -/
def addBack (db : InventoryDb) (tx : Tx) (row : StockReservation) : Tx :=
  match tx.available? db row.productId with
  | none => tx
  | some available => tx.write row.productId (available + row.quantity)

/-- One iteration of the loop: the add-back, then the status change. -/
def releaseLine (db : InventoryDb) (tx : Tx) (row : StockReservation) : Tx :=
  (addBack db tx row).release row.id

def releaseLoop (db : InventoryDb) (tx : Tx) (rows : List StockReservation) :
    Tx :=
  rows.foldl (releaseLine db) tx

/-- The loop of `release_stock` over the rows it has locked, and its COMMIT. -/
def releaseBody (db : InventoryDb) (rows : List StockReservation) :
    InventoryDb × ReleaseOutcome :=
  (db.commit (releaseLoop db .start rows), ⟨decide (rows ≠ []), rows.length⟩)

def releaseStock (db : InventoryDb) (orderRef : CharField128) :
    InventoryDb × ReleaseOutcome :=
  releaseBody db (orderByProductId (db.reservedForOrder orderRef))

/-! ## The loops on a concatenation -/

@[simp]
theorem reserveLoop_nil (db : InventoryDb) (call : ReserveCall)
    (loop : ReserveLoop) : reserveLoop db call loop [] = .ok loop := rfl

theorem reserveLoop_cons (db : InventoryDb) (call : ReserveCall)
    (loop : ReserveLoop) (item : ReserveItem) (items : List ReserveItem) :
    reserveLoop db call loop (item :: items) =
      (reserveLine db call loop item).bind fun next =>
        reserveLoop db call next items := by
  rw [reserveLoop]
  cases reserveLine db call loop item <;> rfl

theorem reserveLoop_append (db : InventoryDb) (call : ReserveCall)
    (loop : ReserveLoop) (first second : List ReserveItem) :
    reserveLoop db call loop (first ++ second) =
      (reserveLoop db call loop first).bind fun next =>
        reserveLoop db call next second := by
  induction first generalizing loop with
  | nil => rfl
  | cons item items ih =>
      rw [List.cons_append, reserveLoop_cons, reserveLoop_cons]
      cases reserveLine db call loop item with
      | error error => rfl
      | ok next => exact ih next

/-- Taking one more line after a prefix that went through. -/
theorem reserveLoop_concat {db : InventoryDb} {call : ReserveCall}
    {start loop : ReserveLoop} {done : List ReserveItem} (item : ReserveItem)
    (hdone : reserveLoop db call start done = .ok loop) :
    reserveLoop db call start (done ++ [item]) =
      reserveLine db call loop item := by
  rw [reserveLoop_append, hdone]
  change reserveLoop db call loop [item] = _
  rw [reserveLoop_cons]
  cases reserveLine db call loop item <;> rfl

@[simp]
theorem releaseLoop_nil (db : InventoryDb) (tx : Tx) :
    releaseLoop db tx [] = tx := rfl

@[simp]
theorem releaseLoop_concat (db : InventoryDb) (tx : Tx)
    (rows : List StockReservation) (row : StockReservation) :
    releaseLoop db tx (rows ++ [row]) =
      releaseLine db (releaseLoop db tx rows) row := by
  simp [releaseLoop]

theorem perm_sortedItems (items : List ReserveItem) :
    (sortedItems items).Perm items :=
  List.perm_insertionSort _ items

theorem perm_orderByProductId (rows : List StockReservation) :
    (orderByProductId rows).Perm rows :=
  List.perm_insertionSort _ rows

end OrderFlow.Inventory
