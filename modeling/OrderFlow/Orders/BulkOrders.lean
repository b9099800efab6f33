import OrderFlow.Inventory.SharedStream
import OrderFlow.Orders.Service

/-!
# `OrderService.create_orders_bulk`

A batch of orders is flattened into one stream of lines, reserved line by
line, regrouped by order, and saved or released order by order.  The stream
and the releases meet other clients of inventory-service.
-/

namespace OrderFlow.Orders

open OrderFlow.Grpc
open OrderFlow.Inventory

/-! ## The request -/

/-- Body of `POST /orders/bulk`. -/
structure BulkOrderCreate where
  orders : List OrderCreate
  orders_ne : orders ≠ []

/-- A call of `create_orders_bulk`, with the uuids it draws. -/
structure BulkRequest where
  payload : BulkOrderCreate
  uuid : ℕ → Uuid4

def BulkRequest.orders (request : BulkRequest) : List Order :=
  request.payload.orders.mapIdx fun draw order =>
    { id := (request.uuid draw).toCharField
      items := order.items.map fun item => ⟨item.productId, item.quantity⟩ }

/-- `lines`: the order, the product and the quantity of every line. -/
def BulkRequest.lines (request : BulkRequest) : List (CharField128 × ℤ × ℤ) :=
  request.orders.flatMap fun order =>
    order.items.map fun item => (order.id, item.productId, item.quantity)

/-! ## `InventoryClient.reserve_stock_bulk` -/

/-- The messages `_request_gen` yields, and whether it comes to its end: a
field that does not fit its message raises. -/
def requestGen :
    List (CharField128 × ℤ × ℤ) → List BulkReserveItem × Bool
  | [] => ([], true)
  | (orderRef, productId, quantity) :: lines =>
      if InInt64 productId ∧ InInt32 quantity then
        let rest := requestGen lines
        (⟨orderRef, productId, quantity⟩ :: rest.1, rest.2)
      else ([], false)

/-- What goes wrong around one batch. -/
structure BulkFaults where
  /-- the status the streamed call fails with -/
  stream : Option RpcError := none
  /-- how many messages the server has executed, when it does not answer -/
  executed : ℕ := 0
  commit : CommitFault := .none
  release : CharField128 → Delivery := fun _ => .answered

/-- The clocks of the lines, and what other clients do in the meantime. -/
structure Surroundings where
  clock : ℕ → ℕ → ℕ
  beforeLine : ℕ → List ServiceCall
  beforeRelease : CharField128 → List ServiceCall

/-- The messages as they arrive, when `sent` have arrived already. -/
def Surroundings.arriving (surroundings : Surroundings) :
    ℕ → List BulkReserveItem → List ArrivingLine
  | _, [] => []
  | sent, item :: items =>
      ⟨surroundings.beforeLine sent, ⟨item, surroundings.clock sent⟩⟩ ::
        arriving surroundings (sent + 1) items

/-- How the awaited stream raises. -/
inductive StreamError where
  | rpc (error : RpcError)
  /-- `asyncio.CancelledError`: grpc.aio cancels a call whose request iterator
  has raised -/
  | cancelled
  deriving DecidableEq

/-- The streamed call.  The server executes every line when it answers, and
some first ones when it does not. -/
def reserveStockBulk (surroundings : Surroundings) (faults : BulkFaults)
    (lines : List (CharField128 × ℤ × ℤ)) (db : InventoryDb) :
    InventoryDb × Except StreamError BulkReserveSummary :=
  let messages := requestGen lines
  let answer (items : List BulkReserveItem) :=
    InventoryServicer.reserveStockBulkShared (surroundings.arriving 0 items) db
  match faults.stream, messages.2 with
  | none, true => ((answer messages.1).1, .ok (answer messages.1).2)
  | none, false =>
      ((answer (messages.1.take faults.executed)).1, .error .cancelled)
  | some error, _ =>
      ((answer (messages.1.take faults.executed)).1, .error (.rpc error))

/-! ## Regrouping -/

/-- `outcomes_by_ref`; `none` for a `KeyError`. -/
def outcomesByRef (refs : List CharField128)
    (results : List BulkItemOutcome) :
    Option (CharField128 → List ItemOutcome) :=
  results.foldlM
    (fun table r =>
      if r.orderRef ∈ refs then
        some (Function.update table r.orderRef
          (table r.orderRef ++ [⟨r.productId, r.reserved, r.reason⟩]))
      else none)
    fun _ => []

/-! ## The three statuses -/

/-- The `status` of a result. -/
inductive BulkStatus where
  | persisted
  /-- "partial" -/
  | partlyReserved
  | failed
  deriving DecidableEq

structure BulkOrderResult where
  orderRef : CharField128
  status : BulkStatus
  items : List ItemOutcome
  deriving DecidableEq

structure BulkOrderOut where
  totalOrders : ℕ
  persistedCount : ℕ
  results : List BulkOrderResult
  deriving DecidableEq

/-- The local variables of the loop over the orders. -/
structure Tally where
  added : List Order
  persistedCount : ℕ
  strandedRefs : List CharField128
  results : List BulkOrderResult

def Tally.start : Tally := ⟨[], 0, [], []⟩

/-- One iteration of the loop. -/
def Tally.next (outcomes : CharField128 → List ItemOutcome) (tally : Tally)
    (order : Order) : Tally :=
  let items := outcomes order.id
  if items ≠ [] ∧ items.all ItemOutcome.reserved then
    { tally with
      added := tally.added ++ [order]
      persistedCount := tally.persistedCount + 1
      results := tally.results ++ [⟨order.id, .persisted, items⟩] }
  else if items.any ItemOutcome.reserved then
    { tally with
      strandedRefs := tally.strandedRefs ++ [order.id]
      results := tally.results ++ [⟨order.id, .partlyReserved, items⟩] }
  else
    { tally with
      results := tally.results ++ [⟨order.id, .failed, items⟩] }

/-! ## The coroutine -/

/-- COMMIT of all orders that were added. -/
def OrderDb.insertAll? (orders : OrderDb) : List Order → Option OrderDb
  | [] => some orders
  | order :: rest => (orders.insert? order).bind (insertAll? · rest)

/-- `session.commit()`: the rows after it, and whether it has raised. -/
def commitOrders (fault : CommitFault) (orders : OrderDb)
    (added : List Order) : OrderDb × Bool :=
  match fault, orders.insertAll? added with
  | .none, some saved => (saved, false)
  | .saved, some saved => (saved, true)
  | _, _ => (orders, true)

/-- One `_release_quietly`, whatever becomes of it. -/
def releaseQuietly (surroundings : Surroundings) (faults : BulkFaults)
    (db : InventoryDb) (orderRef : CharField128) : InventoryDb :=
  (Grpc.call (InventoryServicer.releaseStock orderRef)
    (faults.release orderRef)
    (runCalls db (surroundings.beforeRelease orderRef))).1

/-- Exceptions that `create_orders_bulk` does not turn into HTTP errors. -/
inductive BulkError where
  | cancelledError
  | keyError
  | databaseError
  deriving DecidableEq

inductive BulkExit where
  | returned (out : BulkOrderOut)
  | http (exception : HttpException)
  | raised (error : BulkError)
  deriving DecidableEq

def afterStreamError : StreamError → BulkExit
  | .rpc error =>
      .http ⟨grpcToHttpStatus error.code,
        .text ("inventory unavailable: " ++ error.code.name)⟩
  | .cancelled => .raised .cancelledError

/-- From the summary on. -/
def afterSummary (world : World) (request : BulkRequest)
    (faults : BulkFaults) (surroundings : Surroundings)
    (summary : BulkReserveSummary) : World × BulkExit :=
  match outcomesByRef (request.orders.map Order.id) summary.results with
  | none => (world, .raised .keyError)
  | some outcomes =>
      let tally := request.orders.foldl (Tally.next outcomes) .start
      let committed := commitOrders faults.commit world.orders tally.added
      if committed.2 then
        (⟨committed.1, world.inventory⟩, .raised .databaseError)
      else
        (⟨committed.1, tally.strandedRefs.foldl
            (releaseQuietly surroundings faults) world.inventory⟩,
          .returned ⟨request.orders.length, tally.persistedCount,
            tally.results⟩)

def createOrdersBulk (world : World) (request : BulkRequest)
    (faults : BulkFaults) (surroundings : Surroundings) : World × BulkExit :=
  let reserved := reserveStockBulk surroundings faults request.lines
    world.inventory
  match reserved.2 with
  | .error error => (⟨world.orders, reserved.1⟩, afterStreamError error)
  | .ok summary =>
      afterSummary ⟨world.orders, reserved.1⟩ request faults surroundings
        summary

end OrderFlow.Orders
