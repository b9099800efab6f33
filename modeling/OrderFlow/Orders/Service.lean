import OrderFlow.Inventory.Servicer
import OrderFlow.Orders.Models

/-!
# `OrderService.create_order`

The coroutine between its awaits.  `Phase` says which await a request has come
to and the `after...` functions are the code that runs when it returns, so
that one text serves a request run alone and requests that interleave.
-/

namespace OrderFlow.Orders

open OrderFlow.Grpc
open OrderFlow.Inventory

/-! ## What a request ends with -/

inductive Detail where
  | text (message : String)
  | reservation (message : String) (results : List ItemOutcome)
  deriving DecidableEq

structure HttpException where
  statusCode : ℕ
  detail : Detail
  deriving DecidableEq

/-- Exceptions that `create_order` does not turn into HTTP errors itself. -/
inductive PyError where
  /-- protobuf, for an integer outside the range of its field -/
  | valueError
  /-- the rollback in the exception handler has failed -/
  | databaseError
  deriving DecidableEq

inductive Exit where
  | returned (order : Order)
  | http (exception : HttpException)
  | raised (error : PyError)
  deriving DecidableEq

/-- `grpc_to_http_status`. -/
def grpcToHttpStatus : StatusCode → ℕ
  | .unavailable => 503
  | .deadlineExceeded => 504
  | .unauthenticated => 502
  | _ => 502

/-! ## The request -/

/-- Text of `str(uuid4())`. -/
abbrev Uuid4 := {text : String // text.length = 36}

def Uuid4.toCharField (uuid : Uuid4) : CharField128 :=
  ⟨uuid.val, by rw [uuid.property]; decide⟩

/-- A call of `create_order`, with the uuid and the timestamps it draws. -/
structure CreateRequest where
  payload : OrderCreate
  idempotencyKey : Option CharField128
  uuid : Uuid4
  clock : ℕ → ℕ

/-- `idempotency_key or str(uuid4())`. -/
def CreateRequest.orderRef (request : CreateRequest) : CharField128 :=
  match request.idempotencyKey with
  | none => request.uuid.toCharField
  | some key => if key = .empty then request.uuid.toCharField else key

theorem CreateRequest.orderRef_ne (request : CreateRequest) :
    request.orderRef ≠ .empty := by
  have huuid : request.uuid.toCharField ≠ .empty := by
    intro hempty
    have hlength : request.uuid.val.length = 0 :=
      congrArg (fun text : CharField128 => text.val.length) hempty
    rw [request.uuid.property] at hlength
    exact absurd hlength (by decide)
  rw [orderRef]
  cases request.idempotencyKey with
  | none => exact huuid
  | some key =>
      by_cases hkey : key = .empty
      · simpa [hkey] using huuid
      · simp [hkey]

def CreateRequest.order (request : CreateRequest) : Order where
  id := request.orderRef
  items := request.payload.items.map fun item =>
    ⟨item.productId, item.quantity⟩

/-- `line_items`. -/
def CreateRequest.lineItems (request : CreateRequest) : List (ℤ × ℤ) :=
  request.payload.items.map fun item => (item.productId, item.quantity)

/-- The line as inventory-service receives it. -/
def OrderItemIn.toReserveItem (item : OrderItemIn) : ReserveItem :=
  ⟨item.productId, item.quantity⟩

def CreateRequest.reserveItems (request : CreateRequest) : List ReserveItem :=
  request.payload.items.map OrderItemIn.toReserveItem

def InInt64 (value : ℤ) : Prop := -2 ^ 63 ≤ value ∧ value < 2 ^ 63

def InInt32 (value : ℤ) : Prop := -2 ^ 31 ≤ value ∧ value < 2 ^ 31

instance (value : ℤ) : Decidable (InInt64 value) :=
  inferInstanceAs (Decidable (_ ∧ _))

instance (value : ℤ) : Decidable (InInt32 value) :=
  inferInstanceAs (Decidable (_ ∧ _))

/-- `InventoryClient.reserve_stock` builds its message; a field that does not
fit raises. -/
def reserveStockRequest (orderRef : CharField128) (items : List (ℤ × ℤ))
    (idempotencyKey : CharField128) : Except PyError ReserveStockRequest :=
  if ∀ item ∈ items, InInt64 item.1 ∧ InInt32 item.2 then
    .ok ⟨orderRef, items.map fun item => ⟨item.1, item.2⟩, idempotencyKey⟩
  else .error .valueError

/-! ## The coroutine -/

/-- The await a request has come to. -/
inductive Phase where
  /-- `session.get(Order, order_ref)` -/
  | lookup
  /-- `inventory.reserve_stock(...)` -/
  | reserve (message : ReserveStockRequest) (order : Order)
  /-- `session.add(order)`, `session.commit()` and `session.refresh(order)` -/
  | persist (order : Order)
  /-- `session.rollback()` in the exception handler -/
  | rollback (order : Order)
  /-- `_release_quietly(inventory, order_ref)` -/
  | release (order : Order)
  | done (exit : Exit)
  deriving DecidableEq

def afterLookup (request : CreateRequest) (existing : Option Order) : Phase :=
  match existing with
  | some order => .done (.returned order)
  | none =>
      match reserveStockRequest request.orderRef request.lineItems
          request.orderRef with
      | .error error => .done (.raised error)
      | .ok message => .reserve message request.order

def afterReserve (order : Order)
    (response : Except RpcError ReservationOutcome) : Phase :=
  match response with
  | .error error =>
      .done (.http ⟨grpcToHttpStatus error.code,
        .text ("inventory unavailable: " ++ error.code.name)⟩)
  | .ok outcome =>
      if outcome.success then .persist order
      else .done (.http ⟨409, .reservation "stock reservation failed"
        outcome.results⟩)

def afterPersist (order : Order) (raised : Bool) : Phase :=
  if raised then .rollback order else .done (.returned order)

def afterRollback (order : Order) (raised : Bool) : Phase :=
  if raised then .done (.raised .databaseError) else .release order

/-- A release that fails is logged and forgotten. -/
def afterRelease (_response : Except RpcError ReleaseOutcome) : Phase :=
  .done (.http ⟨500, .text "failed to persist order"⟩)

/-! ## One await at a time -/

/-- The two databases. -/
structure World where
  orders : OrderDb
  inventory : InventoryDb

/-- How a commit fails, when it does: before or after it became durable. -/
inductive CommitFault where
  | none
  | notSaved
  | saved
  deriving DecidableEq

/-- What goes wrong around one request. -/
structure Faults where
  reserve : Delivery := .answered
  addRaises : Bool := false
  commit : CommitFault := .none
  refreshRaises : Bool := false
  rollbackRaises : Bool := false
  release : Delivery := .answered
  deriving DecidableEq

/-- `add`, `commit` and `refresh`: the rows after them, and whether one of
them has raised. -/
def persistOrder (faults : Faults) (orders : OrderDb) (order : Order) :
    OrderDb × Bool :=
  if faults.addRaises then (orders, true)
  else match faults.commit, orders.insert? order with
    | .none, some saved => (saved, faults.refreshRaises)
    | .saved, some saved => (saved, true)
    | _, _ => (orders, true)

/-- The await returns, and the code after it runs up to the next one. -/
def advance (request : CreateRequest) (faults : Faults) (world : World) :
    Phase → World × Phase
  | .lookup =>
      (world, afterLookup request (world.orders.get? request.orderRef))
  | .reserve message order =>
      let response := Grpc.call
        (InventoryServicer.reserveStock message request.clock) faults.reserve
        world.inventory
      ({ world with inventory := response.1 }, afterReserve order response.2)
  | .persist order =>
      let committed := persistOrder faults world.orders order
      ({ world with orders := committed.1 }, afterPersist order committed.2)
  | .rollback order => (world, afterRollback order faults.rollbackRaises)
  | .release order =>
      let response := Grpc.call (InventoryServicer.releaseStock order.id)
        faults.release world.inventory
      ({ world with inventory := response.1 }, afterRelease response.2)
  | .done exit => (world, .done exit)

/-- The awaits are taken one after the other, `steps` of them. -/
def advances (request : CreateRequest) (faults : Faults) :
    ℕ → World × Phase → World × Phase
  | 0, point => point
  | steps + 1, point =>
      advances request faults steps
        (advance request faults point.1 point.2)

/-- `create_order` run without overlap: it has at most five awaits. -/
def createOrder (world : World) (request : CreateRequest) (faults : Faults) :
    World × Phase :=
  advances request faults 5 (world, .lookup)

end OrderFlow.Orders
