import OrderFlow.Inventory.Models
import Mathlib.Logic.Function.Basic

/-!
# Pending writes of an open transaction

Under READ COMMITTED the writes of an open transaction are visible to itself
only.  `Tx` holds them beside the committed tables; a read of the transaction
goes through them, `commit` makes them visible at once, and a rollback simply
drops them.
-/

namespace OrderFlow.Inventory

/-- The writes a transaction has made so far. -/
structure Tx where
  /-- pending `available_quantity` of the products written -/
  writes : ℤ → Option ℤ := fun _ => none
  /-- reservations created, in insertion order -/
  inserted : List StockReservation := []
  /-- reservations whose status was set to RELEASED -/
  released : List RowId := []

namespace Tx

/-- A transaction that has written nothing. -/
def start : Tx := {}

/-- The `available_quantity` the transaction reads. -/
def available? (tx : Tx) (db : InventoryDb) (productId : ℤ) : Option ℤ :=
  (db.available? productId).map fun committed =>
    (tx.writes productId).getD committed

def write (tx : Tx) (productId quantity : ℤ) : Tx :=
  { tx with writes := Function.update tx.writes productId (some quantity) }

def insert (tx : Tx) (row : StockReservation) : Tx :=
  { tx with inserted := tx.inserted ++ [row] }

def release (tx : Tx) (id : RowId) : Tx :=
  { tx with released := tx.released ++ [id] }

/-- The partial unique index rejects an active row for `(key, productId)`:
a committed one exists, or this transaction has inserted one. -/
def violatesUniqueIndex (tx : Tx) (db : InventoryDb) (key : CharField128)
    (productId : ℤ) : Bool :=
  decide (key ≠ .empty) &&
    (db.hasActive key productId ||
      tx.inserted.any fun row =>
        row.idempotencyKey = key ∧ row.productId = productId)

end Tx

/-- One product row with the pending write applied. -/
def Tx.applyToProduct (tx : Tx) (product : Product) : Product :=
  { product with
    availableQuantity :=
      (tx.writes product.id).getD product.availableQuantity }

/-- One reservation row with the pending status change applied. -/
def Tx.applyToRow (tx : Tx) (row : StockReservation) : StockReservation :=
  if row.id ∈ tx.released then { row with status := .released } else row

/-- COMMIT: the pending writes become the committed state. -/
def InventoryDb.commit (db : InventoryDb) (tx : Tx) : InventoryDb where
  products := db.products.map tx.applyToProduct
  reservations := db.reservations.map tx.applyToRow ++ tx.inserted

/-! ## Reads of a transaction -/

@[simp]
theorem Tx.available?_start (db : InventoryDb) (productId : ℤ) :
    Tx.start.available? db productId = db.available? productId := by
  simp [Tx.available?, Tx.start]

theorem Tx.available?_eq_none_iff (tx : Tx) (db : InventoryDb) (productId : ℤ) :
    tx.available? db productId = none ↔ db.available? productId = none := by
  simp [Tx.available?]

@[simp]
theorem Tx.available?_write (tx : Tx) (db : InventoryDb)
    (written quantity productId : ℤ) :
    (tx.write written quantity).available? db productId =
      if productId = written then
        (db.available? productId).map fun _ => quantity
      else tx.available? db productId := by
  by_cases hsame : productId = written
  · subst hsame
    simp [Tx.available?, Tx.write]
  · simp [Tx.available?, Tx.write, hsame]

@[simp]
theorem Tx.available?_insert (tx : Tx) (db : InventoryDb)
    (row : StockReservation) (productId : ℤ) :
    (tx.insert row).available? db productId = tx.available? db productId := rfl

/-- A read depends on the committed quantity of that product only. -/
theorem Tx.available?_congr (tx : Tx) {db db' : InventoryDb} {productId : ℤ}
    (hsame : db'.available? productId = db.available? productId) :
    tx.available? db' productId = tx.available? db productId := by
  rw [Tx.available?, Tx.available?, hsame]

/-! ## What a commit changes -/

theorem InventoryDb.product?_commit (db : InventoryDb) (tx : Tx)
    (productId : ℤ) :
    (db.commit tx).product? productId =
      (db.product? productId).map tx.applyToProduct := by
  simp only [InventoryDb.product?, InventoryDb.commit, List.find?_map]
  rfl

/-- A committed transaction leaves the quantities it read last. -/
theorem InventoryDb.available?_commit (db : InventoryDb) (tx : Tx)
    (productId : ℤ) :
    (db.commit tx).available? productId = tx.available? db productId := by
  rw [InventoryDb.available?, InventoryDb.product?_commit, Tx.available?,
    InventoryDb.available?]
  cases hfound : db.product? productId with
  | none => rfl
  | some product =>
      have hid : product.id = productId := by
        simpa using List.find?_some hfound
      simp [Tx.applyToProduct, hid]

@[simp]
theorem Tx.applyToRow_id (tx : Tx) (row : StockReservation) :
    (tx.applyToRow row).id = row.id := by
  unfold Tx.applyToRow
  split <;> rfl

@[simp]
theorem Tx.applyToRow_orderRef (tx : Tx) (row : StockReservation) :
    (tx.applyToRow row).orderRef = row.orderRef := by
  unfold Tx.applyToRow
  split <;> rfl

@[simp]
theorem Tx.applyToRow_idempotencyKey (tx : Tx) (row : StockReservation) :
    (tx.applyToRow row).idempotencyKey = row.idempotencyKey := by
  unfold Tx.applyToRow
  split <;> rfl

@[simp]
theorem Tx.applyToRow_productId (tx : Tx) (row : StockReservation) :
    (tx.applyToRow row).productId = row.productId := by
  unfold Tx.applyToRow
  split <;> rfl

@[simp]
theorem Tx.applyToRow_quantity (tx : Tx) (row : StockReservation) :
    (tx.applyToRow row).quantity = row.quantity := by
  unfold Tx.applyToRow
  split <;> rfl

@[simp]
theorem Tx.applyToRow_status_reserved_iff (tx : Tx) (row : StockReservation) :
    (tx.applyToRow row).status = .reserved ↔
      row.id ∉ tx.released ∧ row.status = .reserved := by
  unfold Tx.applyToRow
  split <;> simp_all

/-- A row the transaction leaves RESERVED is untouched by it. -/
theorem Tx.applyToRow_of_not_mem {tx : Tx} {row : StockReservation}
    (hrow : row.id ∉ tx.released) : tx.applyToRow row = row :=
  if_neg hrow

/-- A query for RESERVED rows after a commit: the rows found before that were
not released, followed by the new ones. -/
theorem InventoryDb.filter_commit (db : InventoryDb) (tx : Tx)
    (keep : StockReservation → Bool)
    (hstable : ∀ row, keep (tx.applyToRow row) =
      (keep row && decide (row.id ∉ tx.released))) :
    (db.commit tx).reservations.filter keep =
      (db.reservations.filter keep).filter (fun row => row.id ∉ tx.released) ++
        tx.inserted.filter keep := by
  have hmap : (db.reservations.map tx.applyToRow).filter keep =
      (db.reservations.filter keep).filter
        (fun row => row.id ∉ tx.released) := by
    induction db.reservations with
    | nil => rfl
    | cons row rows ih =>
        by_cases hrow : keep row = true <;>
          by_cases hreleased : row.id ∈ tx.released <;>
          simp_all [Tx.applyToRow_of_not_mem]
  rw [InventoryDb.commit, List.filter_append, hmap]

end OrderFlow.Inventory
