import OrderFlow.Core.Grpc
import OrderFlow.Inventory.Services

/-!
# The gRPC adapter of inventory-service

`ReserveStock` and `ReleaseStock` of `grpc_server/servicer.py`: a malformed
request is aborted, everything else goes to the service layer.
-/

namespace OrderFlow.Inventory

open OrderFlow.Grpc

structure ReserveStockRequest where
  orderRef : CharField128
  items : List ReserveItem
  idempotencyKey : CharField128
  deriving DecidableEq

/-- A number no row in the table was made under; what the sequence gives. -/
def InventoryDb.nextCall (db : InventoryDb) : ℕ :=
  (db.reservations.map fun row => row.id.call).foldr max 0 + 1

theorem InventoryDb.call_lt_nextCall (db : InventoryDb) :
    ∀ row ∈ db.reservations, row.id.call < db.nextCall := by
  have hbound : ∀ (calls : List ℕ), ∀ number ∈ calls,
      number ≤ calls.foldr max 0 := by
    intro calls
    induction calls with
    | nil => exact fun _ hnumber => absurd hnumber List.not_mem_nil
    | cons head tail ih =>
        intro number hnumber
        rw [List.foldr_cons]
        rcases List.mem_cons.mp hnumber with rfl | htail
        · exact le_max_left _ _
        · exact (ih number htail).trans (le_max_right _ _)
  intro row hrow
  have hrowBound := hbound _ row.id.call
    (List.mem_map_of_mem (f := fun row => row.id.call) hrow)
  unfold InventoryDb.nextCall
  omega

theorem InventoryDb.call_ne_nextCall (db : InventoryDb) :
    ∀ row ∈ db.reservations, row.id.call ≠ db.nextCall :=
  fun row hrow => (db.call_lt_nextCall row hrow).ne

/-- The call of the service layer that a request becomes. -/
def ReserveStockRequest.toCall (request : ReserveStockRequest)
    (db : InventoryDb) (clock : ℕ → ℕ) : ReserveCall where
  number := db.nextCall
  clock := clock
  orderRef := request.orderRef
  items := request.items
  idempotencyKey := request.idempotencyKey

namespace InventoryServicer

def reserveStock (request : ReserveStockRequest) (clock : ℕ → ℕ)
    (db : InventoryDb) : InventoryDb × Except RpcError ReservationOutcome :=
  if request.orderRef = .empty then
    (db, .error ⟨.invalidArgument, "order_ref is required"⟩)
  else if request.items = [] then
    (db, .error ⟨.invalidArgument, "items must not be empty"⟩)
  else
    let outcome := Inventory.reserveStock db (request.toCall db clock)
    (outcome.1, .ok outcome.2)

def releaseStock (orderRef : CharField128) (db : InventoryDb) :
    InventoryDb × Except RpcError ReleaseOutcome :=
  if orderRef = .empty then
    (db, .error ⟨.invalidArgument, "order_ref is required"⟩)
  else
    let outcome := Inventory.releaseStock db orderRef
    (outcome.1, .ok outcome.2)

theorem reserveStock_eq {request : ReserveStockRequest} {clock : ℕ → ℕ}
    {db : InventoryDb} (horder : request.orderRef ≠ .empty)
    (hitems : request.items ≠ []) :
    reserveStock request clock db =
      ((Inventory.reserveStock db (request.toCall db clock)).1,
        .ok (Inventory.reserveStock db (request.toCall db clock)).2) := by
  rw [reserveStock, if_neg horder, if_neg hitems]

theorem releaseStock_eq {orderRef : CharField128} {db : InventoryDb}
    (horder : orderRef ≠ .empty) :
    releaseStock orderRef db = ((Inventory.releaseStock db orderRef).1,
      .ok (Inventory.releaseStock db orderRef).2) := by
  rw [releaseStock, if_neg horder]

end InventoryServicer

end OrderFlow.Inventory
