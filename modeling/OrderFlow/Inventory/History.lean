import OrderFlow.Inventory.Queries
import OrderFlow.Inventory.Servicer

/-!
# Calls one after the other

Any finite sequence of `reserve_stock` and `release_stock` calls, and what it
leaves alone: the rows of an order no call is for, and the active rows of a key
no call uses.
-/

namespace OrderFlow.Inventory

/-- The call a request makes on the tables, drawing timestamps from `clock`. -/
def ReserveStockRequest.submit (request : ReserveStockRequest)
    (db : InventoryDb) (clock : ℕ → ℕ) : InventoryDb × ReservationOutcome :=
  reserveStock db (request.toCall db clock)

/-- One call of the service layer. -/
inductive ServiceCall where
  | reserve (request : ReserveStockRequest) (clock : ℕ → ℕ)
  | release (orderRef : CharField128)

def ServiceCall.apply (db : InventoryDb) : ServiceCall → InventoryDb
  | .reserve request clock => (request.submit db clock).1
  | .release orderRef => (releaseStock db orderRef).1

/-- The tables after a sequence of calls. -/
def runCalls (db : InventoryDb) (calls : List ServiceCall) : InventoryDb :=
  calls.foldl ServiceCall.apply db

/-- The call is for another order. -/
def ServiceCall.ForOthers (orderRef : CharField128) : ServiceCall → Prop
  | .reserve request _ => request.orderRef ≠ orderRef
  | .release other => other ≠ orderRef

/-- The call does not use the key. -/
def ServiceCall.Avoids (key : CharField128) : ServiceCall → Prop
  | .reserve request _ => request.idempotencyKey ≠ key
  | .release _ => True

theorem submit_ids_nodup {db : InventoryDb}
    (hids : (db.reservations.map StockReservation.id).Nodup)
    (request : ReserveStockRequest) (clock : ℕ → ℕ) :
    ((request.submit db clock).1.reservations.map
      StockReservation.id).Nodup :=
  reserveStock_ids_nodup hids db.call_ne_nextCall

theorem ServiceCall.apply_ids_nodup {db : InventoryDb}
    (hids : (db.reservations.map StockReservation.id).Nodup)
    (call : ServiceCall) :
    ((call.apply db).reservations.map StockReservation.id).Nodup := by
  cases call with
  | reserve request clock => exact submit_ids_nodup hids request clock
  | release orderRef =>
      rw [ServiceCall.apply, releaseStock_ids]
      exact hids

theorem ServiceCall.reservedForOrder_apply {db : InventoryDb}
    (hids : (db.reservations.map StockReservation.id).Nodup)
    {call : ServiceCall} {orderRef : CharField128}
    (hothers : call.ForOthers orderRef) :
    (call.apply db).reservedForOrder orderRef =
      db.reservedForOrder orderRef := by
  cases call with
  | reserve request clock =>
      exact reservedForOrder_reserveStock_other hothers
  | release other => exact reservedForOrder_releaseStock_other hids hothers.symm

theorem runCalls_ids_nodup {db : InventoryDb}
    (hids : (db.reservations.map StockReservation.id).Nodup)
    (calls : List ServiceCall) :
    ((runCalls db calls).reservations.map StockReservation.id).Nodup := by
  induction calls generalizing db with
  | nil => exact hids
  | cons call calls ih => exact ih (call.apply_ids_nodup hids)

/-- No call for other orders touches the RESERVED rows of this one. -/
theorem reservedForOrder_runCalls {db : InventoryDb}
    (hids : (db.reservations.map StockReservation.id).Nodup)
    {calls : List ServiceCall} {orderRef : CharField128}
    (hothers : ∀ call ∈ calls, call.ForOthers orderRef) :
    (runCalls db calls).reservedForOrder orderRef =
      db.reservedForOrder orderRef := by
  induction calls generalizing db with
  | nil => rfl
  | cons call calls ih =>
      rw [runCalls, List.foldl_cons, ← runCalls,
        ih (call.apply_ids_nodup hids) fun other hother =>
          hothers other (List.mem_cons_of_mem call hother)]
      exact call.reservedForOrder_apply hids
        (hothers call List.mem_cons_self)

end OrderFlow.Inventory
