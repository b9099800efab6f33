import OrderFlow.Inventory.Queries
import OrderFlow.Orders.Service

/-!
# The ways `create_order` can go

One inversion lemma for a request run without overlap: which of its awaits it
reaches, what the two databases hold then, and how it ends.
-/

namespace OrderFlow.Orders

open OrderFlow.Grpc
open OrderFlow.Inventory

/-! ## The reserve message -/

/-- Every line fits the protobuf fields it is copied into. -/
def CreateRequest.Encodable (request : CreateRequest) : Prop :=
  ∀ item ∈ request.lineItems, InInt64 item.1 ∧ InInt32 item.2

instance (request : CreateRequest) : Decidable request.Encodable :=
  inferInstanceAs (Decidable (∀ item ∈ request.lineItems, _))

/-- The message of a request: its reference is the order and the key. -/
def CreateRequest.message (request : CreateRequest) : ReserveStockRequest where
  orderRef := request.orderRef
  items := request.reserveItems
  idempotencyKey := request.orderRef

theorem reserveStockRequest_eq (request : CreateRequest) :
    reserveStockRequest request.orderRef request.lineItems request.orderRef =
      if request.Encodable then .ok request.message
      else .error .valueError := by
  have hitems : (request.lineItems.map fun item =>
      (⟨item.1, item.2⟩ : ReserveItem)) = request.reserveItems := by
    rw [CreateRequest.lineItems, CreateRequest.reserveItems, List.map_map]
    rfl
  rw [reserveStockRequest, hitems]
  rfl

theorem CreateRequest.reserveItems_ne (request : CreateRequest) :
    request.reserveItems ≠ [] := by
  rw [reserveItems, Ne, List.map_eq_nil_iff]
  exact request.payload.items_ne

/-- The order has the quantities that are reserved for it. -/
theorem CreateRequest.orderedQuantity_order (request : CreateRequest)
    (productId : ℤ) :
    orderedQuantity request.order.items productId =
      requested request.reserveItems productId := by
  have hitems : request.order.items.map
      (fun item => (⟨item.productId, item.quantity⟩ : ReserveItem)) =
        request.reserveItems := by
    rw [order, reserveItems, List.map_map]
    rfl
  rw [← hitems, requested, groupedSum.map]
  rfl

/-- The call a request makes of the service layer. -/
def CreateRequest.call (request : CreateRequest) (db : InventoryDb) :
    ReserveCall :=
  request.message.toCall db request.clock

theorem CreateRequest.call_unused (request : CreateRequest)
    (db : InventoryDb) :
    ∀ row ∈ db.reservations, row.id.call ≠ (request.call db).number :=
  db.call_ne_nextCall

theorem CreateRequest.servicer_eq (request : CreateRequest)
    (db : InventoryDb) :
    InventoryServicer.reserveStock request.message request.clock db =
      ((reserveStock db (request.call db)).1,
        .ok (reserveStock db (request.call db)).2) :=
  InventoryServicer.reserveStock_eq request.orderRef_ne request.reserveItems_ne

/-! ## The fault pattern of the session -/

/-- The commit was reached and became durable, whether or not it raised. -/
def Faults.saves (faults : Faults) : Bool :=
  !faults.addRaises && faults.commit != .notSaved

/-- One of `add`, `commit` and `refresh` raised. -/
def Faults.raises (faults : Faults) : Bool :=
  faults.addRaises || faults.commit != .none || faults.refreshRaises

theorem persistOrder_of_fresh (faults : Faults) {orders : OrderDb}
    {order : Order} (hfresh : orders.get? order.id = none) :
    persistOrder faults orders order =
      (if faults.saves then orders ++ [order] else orders,
        faults.raises) := by
  have hinsert : orders.insert? order = some (orders ++ [order]) := by
    rw [OrderDb.insert?, if_pos hfresh]
  rw [persistOrder, hinsert]
  cases hadd : faults.addRaises <;> cases hcommit : faults.commit <;>
    simp [Faults.saves, Faults.raises, hadd, hcommit]

/-! ## Inversion -/

/-- How a request ends, in the world it was started in. -/
inductive CreateCase (world : World) (request : CreateRequest)
    (faults : Faults) : World × Phase → Prop
  | existing (order : Order)
      (hexisting : world.orders.get? request.orderRef = some order) :
      CreateCase world request faults (world, .done (.returned order))
  | notEncodable
      (hfresh : world.orders.get? request.orderRef = none)
      (hencodable : ¬ request.Encodable) :
      CreateCase world request faults (world, .done (.raised .valueError))
  | notAnswered (error : RpcError) (executed : Bool)
      (hfresh : world.orders.get? request.orderRef = none)
      (hencodable : request.Encodable)
      (hreserve : faults.reserve = .failed error executed) :
      CreateCase world request faults
        (⟨world.orders,
          if executed then
            (reserveStock world.inventory (request.call world.inventory)).1
          else world.inventory⟩,
          .done (.http ⟨grpcToHttpStatus error.code,
            .text ("inventory unavailable: " ++ error.code.name)⟩))
  | rejected
      (hfresh : world.orders.get? request.orderRef = none)
      (hencodable : request.Encodable)
      (hreserve : faults.reserve = .answered)
      (hfailed : (reserveStock world.inventory
        (request.call world.inventory)).2.success = false) :
      CreateCase world request faults
        (⟨world.orders,
          (reserveStock world.inventory (request.call world.inventory)).1⟩,
          .done (.http ⟨409, .reservation "stock reservation failed"
            (reserveStock world.inventory
              (request.call world.inventory)).2.results⟩))
  | persisted
      (hfresh : world.orders.get? request.orderRef = none)
      (hencodable : request.Encodable)
      (hreserve : faults.reserve = .answered)
      (hsuccess : (reserveStock world.inventory
        (request.call world.inventory)).2.success = true)
      (hraises : faults.raises = false) :
      CreateCase world request faults
        (⟨world.orders ++ [request.order],
          (reserveStock world.inventory (request.call world.inventory)).1⟩,
          .done (.returned request.order))
  | rollbackFailed
      (hfresh : world.orders.get? request.orderRef = none)
      (hencodable : request.Encodable)
      (hreserve : faults.reserve = .answered)
      (hsuccess : (reserveStock world.inventory
        (request.call world.inventory)).2.success = true)
      (hraises : faults.raises = true)
      (hrollback : faults.rollbackRaises = true) :
      CreateCase world request faults
        (⟨if faults.saves then world.orders ++ [request.order]
            else world.orders,
          (reserveStock world.inventory (request.call world.inventory)).1⟩,
          .done (.raised .databaseError))
  | compensated
      (hfresh : world.orders.get? request.orderRef = none)
      (hencodable : request.Encodable)
      (hreserve : faults.reserve = .answered)
      (hsuccess : (reserveStock world.inventory
        (request.call world.inventory)).2.success = true)
      (hraises : faults.raises = true)
      (hrollback : faults.rollbackRaises = false) :
      CreateCase world request faults
        (⟨if faults.saves then world.orders ++ [request.order]
            else world.orders,
          (Grpc.call (InventoryServicer.releaseStock request.orderRef)
            faults.release (reserveStock world.inventory
              (request.call world.inventory)).1).1⟩,
          .done (.http ⟨500, .text "failed to persist order"⟩))

theorem advances_done (request : CreateRequest) (faults : Faults)
    (steps : ℕ) (world : World) (exit : Exit) :
    advances request faults steps (world, .done exit) =
      (world, .done exit) := by
  induction steps with
  | zero => rfl
  | succ steps ih => exact ih

theorem afterLookup_none (request : CreateRequest) :
    afterLookup request none =
      if request.Encodable then .reserve request.message request.order
      else .done (.raised .valueError) := by
  rw [afterLookup, reserveStockRequest_eq]
  by_cases hencodable : request.Encodable
  · rw [if_pos hencodable, if_pos hencodable]
  · rw [if_neg hencodable, if_neg hencodable]

/-- From the await of the commit on. -/
theorem advances_persist {orders : OrderDb} {inventory : InventoryDb}
    {request : CreateRequest} {faults : Faults}
    (hfresh : orders.get? request.orderRef = none) :
    advances request faults 3 (⟨orders, inventory⟩, .persist request.order) =
      if faults.raises then
        if faults.rollbackRaises then
          (⟨if faults.saves then orders ++ [request.order]
              else orders, inventory⟩,
            .done (.raised .databaseError))
        else
          (⟨if faults.saves then orders ++ [request.order]
              else orders,
            (Grpc.call (InventoryServicer.releaseStock request.orderRef)
              faults.release inventory).1⟩,
            .done (.http ⟨500, .text "failed to persist order"⟩))
      else
        (⟨if faults.saves then orders ++ [request.order]
            else orders, inventory⟩,
          .done (.returned request.order)) := by
  have hpersist : persistOrder faults orders request.order =
      (if faults.saves then orders ++ [request.order]
        else orders, faults.raises) :=
    persistOrder_of_fresh faults hfresh
  simp only [advances, advance, hpersist]
  cases hraises : faults.raises with
  | false => simp [afterPersist]
  | true =>
      cases faults.rollbackRaises <;>
        simp [afterPersist, afterRollback, afterRelease, CreateRequest.order]

theorem Faults.saves_of_not_raises {faults : Faults}
    (hraises : faults.raises = false) : faults.saves = true := by
  revert hraises
  rw [raises, saves]
  cases faults.addRaises <;> cases faults.commit <;> simp

theorem createOrder_case (world : World) (request : CreateRequest)
    (faults : Faults) :
    CreateCase world request faults (createOrder world request faults) := by
  rw [createOrder, advances, advance]
  cases hfound : world.orders.get? request.orderRef with
  | some order =>
      rw [afterLookup, advances_done]
      exact .existing order hfound
  | none =>
      rw [afterLookup_none]
      by_cases hencodable : request.Encodable
      · rw [if_pos hencodable, advances, advance]
        cases hreserve : faults.reserve with
        | failed error executed =>
            have hcase : CreateCase world request faults _ :=
              .notAnswered error executed hfound hencodable hreserve
            cases executed <;>
              simpa [Grpc.call, request.servicer_eq, afterReserve,
                advances_done] using hcase
        | answered =>
            rw [Grpc.call_answered, request.servicer_eq, afterReserve]
            cases hsuccess : (reserveStock world.inventory
                (request.call world.inventory)).2.success with
            | false =>
                simp only [Bool.false_eq_true, if_false, advances_done]
                exact .rejected hfound hencodable hreserve hsuccess
            | true =>
                simp only [if_true]
                rw [advances_persist hfound]
                cases hraises : faults.raises with
                | false =>
                    simp only [Faults.saves_of_not_raises hraises, if_true,
                      Bool.false_eq_true, if_false]
                    exact .persisted hfound hencodable hreserve hsuccess
                      hraises
                | true =>
                    cases hrollback : faults.rollbackRaises with
                    | true =>
                        exact .rollbackFailed hfound hencodable hreserve
                          hsuccess hraises hrollback
                    | false =>
                        exact .compensated hfound hencodable hreserve
                          hsuccess hraises hrollback
      · rw [if_neg hencodable, advances_done]
        exact .notEncodable hfound hencodable

/-! ## What a request finds and what it carries along -/

/-- A key that neither database knows. -/
structure Unused (key : CharField128) (world : World) : Prop where
  unsaved : world.orders.get? key = none
  unreserved : ∀ row ∈ world.inventory.reservations,
    row.orderRef ≠ key ∧ row.idempotencyKey ≠ key

/-- From a successful reserve on, until the order is saved or released. -/
def Holds : Phase → Prop
  | .persist _ => True
  | .rollback _ => True
  | .release _ => True
  | _ => False

/-- The message and the order that a request carries along are its own. -/
def Carries (request : CreateRequest) : Phase → Prop
  | .reserve message order =>
      message = request.message ∧ order = request.order
  | .persist order => order = request.order
  | .rollback order => order = request.order
  | .release order => order = request.order
  | _ => True

theorem not_holds_afterLookup (request : CreateRequest)
    (existing : Option Order) :
    ¬ Holds (afterLookup request existing) ∧
      Carries request (afterLookup request existing) := by
  cases existing with
  | some order => exact ⟨id, trivial⟩
  | none =>
      rw [afterLookup_none]
      by_cases hencodable : request.Encodable
      · rw [if_pos hencodable]
        exact ⟨id, rfl, rfl⟩
      · rw [if_neg hencodable]
        exact ⟨id, trivial⟩

/-- Two widgets under the key `order-1`. -/
def twoWidgets : CreateRequest where
  payload := ⟨[⟨1, 2, by decide, by decide⟩], by decide⟩
  idempotencyKey := some (.ofText "order-1")
  uuid := ⟨"8c6f3a52-0d5b-4b8e-9d7e-2f1c60d3b7aa", by decide⟩
  clock := id

end OrderFlow.Orders
