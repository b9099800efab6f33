import OrderFlow.Core.LockTable
import OrderFlow.Core.TransitionSystem
import OrderFlow.Inventory.Services

/-!
# Concurrent calls, one database statement at a time

Any number of `reserve_stock` and `release_stock` calls run at once, each in a
session of its own.  One action executes the next statement of one session;
`none` means that the statement has to wait for a lock, or is not the next
one.  PostgreSQL at READ COMMITTED is modelled by three lock tables that a
transaction holds until it ends (product rows, reservation rows, uncommitted
entries of the partial unique index) and by the pending writes of each
session.
-/

namespace OrderFlow.Inventory.Interleaved

open OrderFlow

/-- The arguments a session is called with. -/
inductive Request where
  | reserve (orderRef : CharField128) (items : List ReserveItem)
      (idempotencyKey : CharField128) (clock : ℕ → ℕ)
  | release (orderRef : CharField128)

/-- What a session has returned. -/
inductive Result where
  | reserved (outcome : ReservationOutcome)
  | released (outcome : ReleaseOutcome)
  | raised
  deriving DecidableEq

/-- The next statement of a `reserve_stock` call. -/
inductive ReservePhase where
  /-- the replay query -/
  | replayCheck
  /-- `SELECT ... FOR UPDATE` for the first line of `todo`, or the end of the
  transaction -/
  | loopHead (todo : List ReserveItem) (loop : ReserveLoop)
  /-- the UPDATE of the product that was read with `available` -/
  | saveProduct (item : ReserveItem) (available : ℤ)
      (todo : List ReserveItem) (loop : ReserveLoop)
  /-- the INSERT of the reservation -/
  | createReservation (item : ReserveItem) (todo : List ReserveItem)
      (loop : ReserveLoop)

/-- The next statement of a `release_stock` call. -/
inductive ReleasePhase where
  /-- `SELECT ... FOR UPDATE` takes its snapshot -/
  | select
  /-- the same statement locks the rows it found, one after the other -/
  | lockRows (todo : List RowId) (locked : List StockReservation)
  /-- the F() update for the first row of `todo`, or COMMIT -/
  | addBack (todo reservations : List StockReservation) (tx : Tx)
  /-- the UPDATE of the status of `row` -/
  | saveStatus (row : StockReservation)
      (todo reservations : List StockReservation) (tx : Tx)

inductive Session where
  | idle
  | reserving (call : ReserveCall) (phase : ReservePhase)
  | releasing (orderRef : CharField128) (phase : ReleasePhase)
  | finished (result : Result)

structure State where
  db : InventoryDb
  productLocks : LockTable ℤ ℕ
  rowLocks : LockTable RowId ℕ
  indexLocks : LockTable (CharField128 × ℤ) ℕ
  sessions : ℕ → Session

inductive Action where
  /-- a call arrives in an unused session -/
  | call (session : ℕ) (request : Request)
  /-- the next statement of the session -/
  | advance (session : ℕ)
  /-- the snapshot of a release finds `rows`, in the order it returns them -/
  | select (session : ℕ) (rows : List StockReservation)
  /-- the database ends the call: lost connection, deadlock victim -/
  | abort (session : ℕ)

/-- No transaction is open. -/
def State.init (db : InventoryDb) : State where
  db := db
  productLocks := .unlocked
  rowLocks := .unlocked
  indexLocks := .unlocked
  sessions := fun _ => .idle

namespace State

/-- The session goes on to its next statement. -/
def goto (state : State) (session : ℕ) (next : Session) : State :=
  { state with sessions := Function.update state.sessions session next }

/-- COMMIT or ROLLBACK: `db` is the committed state from now on, all locks of
the session are gone, and the call returns. -/
def finish (state : State) (session : ℕ) (db : InventoryDb)
    (result : Result) : State where
  db := db
  productLocks := state.productLocks.releaseAll session
  rowLocks := state.rowLocks.releaseAll session
  indexLocks := state.indexLocks.releaseAll session
  sessions := Function.update state.sessions session (.finished result)

def lockProduct (state : State) (session : ℕ) (productId : ℤ) : State :=
  { state with productLocks := state.productLocks.acquire session productId }

def lockRow (state : State) (session : ℕ) (id : RowId) : State :=
  { state with rowLocks := state.rowLocks.acquire session id }

/-- An uncommitted entry of the partial unique index; rows without a key have
none. -/
def lockIndex (state : State) (session : ℕ) (key : CharField128)
    (productId : ℤ) : State :=
  if key = .empty then state
  else
    { state with
      indexLocks := state.indexLocks.acquire session (key, productId) }

end State

/-- The session number is unused, also as the name of committed rows. -/
def Unused (state : State) (session : ℕ) : Prop :=
  ∀ row ∈ state.db.reservations, row.id.call ≠ session

instance (state : State) (session : ℕ) : Decidable (Unused state session) :=
  inferInstanceAs
    (Decidable (∀ row ∈ state.db.reservations, row.id.call ≠ session))

def Request.session (session : ℕ) : Request → Session
  | .reserve orderRef items idempotencyKey clock =>
      .reserving ⟨session, clock, orderRef, items, idempotencyKey⟩ .replayCheck
  | .release orderRef => .releasing orderRef .select

def stepCall (state : State) (session : ℕ) (request : Request) :
    Option State :=
  match state.sessions session with
  | .idle =>
      if Unused state session then
        some (state.goto session (request.session session))
      else none
  | _ => none

/-! ## The statements of `reserve_stock` -/

def stepReplayCheck (state : State) (session : ℕ) (call : ReserveCall) :
    State :=
  if call.items = [] then
    state.finish session state.db (.reserved ⟨false, []⟩)
  else match replay? state.db call.idempotencyKey with
    | some outcome => state.finish session state.db (.reserved outcome)
    | none =>
        state.goto session
          (.reserving call (.loopHead (sortedItems call.items) .start))

/-- The row lock is granted, and the stock check is made on the row read. -/
def stepRead (state : State) (session : ℕ) (call : ReserveCall)
    (item : ReserveItem) (available : ℤ) (todo : List ReserveItem)
    (loop : ReserveLoop) : State :=
  let locked := state.lockProduct session item.productId
  if available < item.quantity then
    locked.goto session (.reserving call (.loopHead todo
      (loop.reject item
        (ReserveLoop.insufficientStock item.quantity available))))
  else
    locked.goto session
      (.reserving call (.saveProduct item available todo loop))

def stepLoopHead (state : State) (session : ℕ) (call : ReserveCall)
    (loop : ReserveLoop) : List ReserveItem → Option State
  | [] =>
      some (state.finish session (loop.finish state.db).1
        (.reserved (loop.finish state.db).2))
  | item :: todo =>
      if item.quantity ≤ 0 then
        some (state.goto session (.reserving call (.loopHead todo
          (loop.reject item "quantity must be positive"))))
      else match loop.tx.available? state.db item.productId with
        | none =>
            some (state.goto session (.reserving call (.loopHead todo
              (loop.reject item "product not found"))))
        | some available =>
            if state.productLocks.Grantable session item.productId then
              some (stepRead state session call item available todo loop)
            else none

def stepSaveProduct (state : State) (session : ℕ) (call : ReserveCall)
    (item : ReserveItem) (available : ℤ) (todo : List ReserveItem)
    (loop : ReserveLoop) : State :=
  state.goto session (.reserving call (.createReservation item todo
    (loop.saveProduct item available)))

/-- The INSERT waits for an uncommitted conflicting entry of another
transaction; a definite conflict aborts the transaction. -/
def stepCreateReservation (state : State) (session : ℕ) (call : ReserveCall)
    (item : ReserveItem) (todo : List ReserveItem) (loop : ReserveLoop) :
    Option State :=
  if call.idempotencyKey = .empty ∨
      state.indexLocks.Grantable session
        (call.idempotencyKey, item.productId) then
    match loop.createReservation state.db call item with
    | .error _ =>
        some (state.finish session state.db (.reserved (duplicateOutcome call)))
    | .ok next =>
        some ((state.lockIndex session call.idempotencyKey
          item.productId).goto session (.reserving call (.loopHead todo next)))
  else none

def stepReserve (state : State) (session : ℕ) (call : ReserveCall) :
    ReservePhase → Option State
  | .replayCheck => some (stepReplayCheck state session call)
  | .loopHead todo loop => stepLoopHead state session call loop todo
  | .saveProduct item available todo loop =>
      some (stepSaveProduct state session call item available todo loop)
  | .createReservation item todo loop =>
      stepCreateReservation state session call item todo loop

/-! ## The statements of `release_stock` -/

/-- The snapshot: every committed RESERVED row of the order, by product. -/
def Selects (db : InventoryDb) (orderRef : CharField128)
    (rows : List StockReservation) : Prop :=
  rows.Perm (db.reservedForOrder orderRef) ∧
    rows.Pairwise fun first second => first.productId ≤ second.productId

instance (db : InventoryDb) (orderRef : CharField128)
    (rows : List StockReservation) : Decidable (Selects db orderRef rows) :=
  inferInstanceAs (Decidable (_ ∧ _))

def stepSelect (state : State) (session : ℕ)
    (rows : List StockReservation) : Option State :=
  match state.sessions session with
  | .releasing orderRef .select =>
      if Selects state.db orderRef rows then
        some (state.goto session (.releasing orderRef
          (.lockRows (rows.map StockReservation.id) [])))
      else none
  | _ => none

/-- Each row found is locked and its filter evaluated again on the latest
version; a row released in the meantime is skipped, and stays locked. -/
def stepLockRows (state : State) (session : ℕ) (orderRef : CharField128)
    (locked : List StockReservation) : List RowId → Option State
  | [] =>
      some (state.goto session (.releasing orderRef
        (.addBack locked locked .start)))
  | id :: todo =>
      if state.rowLocks.Grantable session id then
        match state.db.stillReserved? orderRef id with
        | some row =>
            some ((state.lockRow session id).goto session
              (.releasing orderRef (.lockRows todo (locked ++ [row]))))
        | none =>
            some ((state.lockRow session id).goto session
              (.releasing orderRef (.lockRows todo locked)))
      else none

/-- The outcome of a release that locked `reservations`. -/
def releaseResult (reservations : List StockReservation) : Result :=
  .released ⟨decide (reservations ≠ []), reservations.length⟩

/-- The F() update locks the product row and adds to its latest quantity. -/
def stepAddBack (state : State) (session : ℕ) (orderRef : CharField128)
    (reservations : List StockReservation) (tx : Tx) :
    List StockReservation → Option State
  | [] =>
      some (state.finish session (state.db.commit tx)
        (releaseResult reservations))
  | row :: todo =>
      let next := Session.releasing orderRef
        (.saveStatus row todo reservations (addBack state.db tx row))
      if state.db.available? row.productId = none then
        some (state.goto session next)
      else if state.productLocks.Grantable session row.productId then
        some ((state.lockProduct session row.productId).goto session next)
      else none

def stepSaveStatus (state : State) (session : ℕ) (orderRef : CharField128)
    (row : StockReservation) (todo reservations : List StockReservation)
    (tx : Tx) : State :=
  (state.lockIndex session row.idempotencyKey row.productId).goto session
    (.releasing orderRef (.addBack todo reservations (tx.release row.id)))

def stepRelease (state : State) (session : ℕ) (orderRef : CharField128) :
    ReleasePhase → Option State
  | .select => none
  | .lockRows todo locked => stepLockRows state session orderRef locked todo
  | .addBack todo reservations tx =>
      stepAddBack state session orderRef reservations tx todo
  | .saveStatus row todo reservations tx =>
      some (stepSaveStatus state session orderRef row todo reservations tx)

/-! ## The interleaved system -/

def stepAdvance (state : State) (session : ℕ) : Option State :=
  match state.sessions session with
  | .reserving call phase => stepReserve state session call phase
  | .releasing orderRef phase => stepRelease state session orderRef phase
  | _ => none

/-- An aborted transaction leaves no trace. -/
def stepAbort (state : State) (session : ℕ) : Option State :=
  match state.sessions session with
  | .reserving _ _ => some (state.finish session state.db .raised)
  | .releasing _ _ => some (state.finish session state.db .raised)
  | _ => none

def step (state : State) : Action → Option State
  | .call session request => stepCall state session request
  | .advance session => stepAdvance state session
  | .select session rows => stepSelect state session rows
  | .abort session => stepAbort state session

/-- What the call of a session has returned, if it has. -/
def Session.result? : Session → Option Result
  | .finished result => some result
  | _ => none

/-- The pending writes of a session. -/
def Session.tx : Session → Tx
  | .reserving _ (.loopHead _ loop) => loop.tx
  | .reserving _ (.saveProduct _ _ _ loop) => loop.tx
  | .reserving _ (.createReservation _ _ loop) => loop.tx
  | .releasing _ (.addBack _ _ tx) => tx
  | .releasing _ (.saveStatus _ _ _ tx) => tx
  | _ => .start

end OrderFlow.Inventory.Interleaved
