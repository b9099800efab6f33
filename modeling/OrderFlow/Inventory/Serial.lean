import OrderFlow.Inventory.Interleaved

/-!
# Concurrent calls, one transaction at a time

The abstract view of the interleaved system.  There are no locks and no
pending writes: a reserve is its replay check and then its whole transaction
body on the committed tables, a release is its snapshot and then the release
of those snapshot rows that are still RESERVED.
-/

namespace OrderFlow.Inventory.Serial

open OrderFlow
open OrderFlow.Inventory.Interleaved (Request Result Selects)

inductive Session where
  | idle
  | reserving (call : ReserveCall) (checked : Bool)
  | releasing (orderRef : CharField128) (snapshot : Option (List RowId))
  | finished (result : Result)

structure State where
  db : InventoryDb
  sessions : ℕ → Session

inductive Action where
  | call (session : ℕ) (request : Request)
  | check (session : ℕ)
  | select (session : ℕ) (rows : List StockReservation)
  | body (session : ℕ)
  | abort (session : ℕ)

def State.init (db : InventoryDb) : State := ⟨db, fun _ => .idle⟩

def State.goto (state : State) (session : ℕ) (next : Session) : State :=
  { state with sessions := Function.update state.sessions session next }

def State.finish (state : State) (session : ℕ) (db : InventoryDb)
    (result : Result) : State :=
  ⟨db, Function.update state.sessions session (.finished result)⟩

def session (number : ℕ) : Request → Session
  | .reserve orderRef items idempotencyKey clock =>
      .reserving ⟨number, clock, orderRef, items, idempotencyKey⟩ false
  | .release orderRef => .releasing orderRef none

/-- The rows of a snapshot that are RESERVED now, at their latest version. -/
def currentRows (db : InventoryDb) (orderRef : CharField128)
    (ids : List RowId) : List StockReservation :=
  ids.filterMap (db.stillReserved? orderRef)

theorem mem_currentRows {db : InventoryDb} {orderRef : CharField128}
    {ids : List RowId} {row : StockReservation}
    (hrow : row ∈ currentRows db orderRef ids) :
    row ∈ db.reservations ∧ row.id ∈ ids ∧ row.orderRef = orderRef ∧
      row.status = .reserved := by
  obtain ⟨id, hid, hcurrent⟩ := List.mem_filterMap.mp hrow
  obtain ⟨hmem, hsame, horder, hstatus⟩ :=
    InventoryDb.stillReserved?_eq_some hcurrent
  exact ⟨hmem, hsame ▸ hid, horder, hstatus⟩

def stepCheck (state : State) (number : ℕ) (call : ReserveCall) : State :=
  if call.items = [] then
    state.finish number state.db (.reserved ⟨false, []⟩)
  else match replay? state.db call.idempotencyKey with
    | some outcome => state.finish number state.db (.reserved outcome)
    | none => state.goto number (.reserving call true)

def step (state : State) : Action → Option State
  | .call number request =>
      match state.sessions number with
      | .idle =>
          if ∀ row ∈ state.db.reservations, row.id.call ≠ number then
            some (state.goto number (session number request))
          else none
      | _ => none
  | .check number =>
      match state.sessions number with
      | .reserving call false => some (stepCheck state number call)
      | _ => none
  | .select number rows =>
      match state.sessions number with
      | .releasing orderRef none =>
          if Selects state.db orderRef rows then
            some (state.goto number (.releasing orderRef
              (some (rows.map StockReservation.id))))
          else none
      | _ => none
  | .body number =>
      match state.sessions number with
      | .reserving call true =>
          some (state.finish number (reserveBody state.db call).1
            (.reserved (reserveBody state.db call).2))
      | .releasing orderRef (some ids) =>
          let rows := currentRows state.db orderRef ids
          some (state.finish number (releaseBody state.db rows).1
            (.released (releaseBody state.db rows).2))
      | _ => none
  | .abort number =>
      match state.sessions number with
      | .reserving _ _ => some (state.finish number state.db .raised)
      | .releasing _ _ => some (state.finish number state.db .raised)
      | _ => none

def Session.result? : Session → Option Result
  | .finished result => some result
  | _ => none

end OrderFlow.Inventory.Serial
