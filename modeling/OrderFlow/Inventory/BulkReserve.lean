import OrderFlow.Inventory.Breakdown
import OrderFlow.Inventory.History

/-!
# The bulk stream

`ReserveStockBulk` of `grpc_server/servicer.py` reserves every streamed line
with a `reserve_stock` call of its own.  A line that is not reserved leaves the
tables as they were, so that the other lines cannot tell it was sent.  The
lines are those whose texts the columns hold; `BestEffort` has any others.
-/

namespace OrderFlow.Inventory

structure BulkReserveItem where
  orderRef : CharField128
  productId : ℤ
  quantity : ℤ
  deriving DecidableEq

/-- A streamed message, with the clock its INSERT will read. -/
structure StreamedLine where
  item : BulkReserveItem
  clock : ℕ → ℕ

structure BulkItemOutcome where
  orderRef : CharField128
  productId : ℤ
  reserved : Bool
  reason : String
  deriving DecidableEq

structure BulkReserveSummary where
  total : ℕ
  reservedCount : ℕ
  failedCount : ℕ
  results : List BulkItemOutcome
  deriving DecidableEq

def BulkReserveItem.reserveItem (item : BulkReserveItem) : ReserveItem :=
  ⟨item.productId, item.quantity⟩

/-- The keyless one-line call made for a message. -/
def BulkReserveItem.request (item : BulkReserveItem) : ReserveStockRequest where
  orderRef := item.orderRef
  items := [item.reserveItem]
  idempotencyKey := .empty

/-! ## A call with one line and no key -/

/-- The partial unique index holds keyed rows only. -/
theorem violatesUniqueIndex_keyless (tx : Tx) (db : InventoryDb)
    (productId : ℤ) : tx.violatesUniqueIndex db .empty productId = false := by
  simp [Tx.violatesUniqueIndex]

/-- Without a key no INSERT fails, and a line gets its verdict. -/
theorem reserveLine_keyless {db : InventoryDb} {call : ReserveCall}
    (hkey : call.idempotencyKey = .empty) (loop : ReserveLoop)
    (item : ReserveItem) :
    ∃ next, reserveLine db call loop item = .ok next ∧
      next.outcomes = loop.outcomes ++
        [verdict (loop.tx.available? db item.productId) item] ∧
      next.allOk = (loop.allOk &&
        (verdict (loop.tx.available? db item.productId) item).reserved) := by
  have hcase := reserveLine_case db call loop item
  cases hline : reserveLine db call loop item with
  | ok next => exact ⟨next, rfl, reserveLine_verdict hline⟩
  | error error =>
      rw [hline] at hcase
      cases hcase with
      | duplicate available hquantity hproduct henough hindex =>
          rw [hkey, violatesUniqueIndex_keyless] at hindex
          exact absurd hindex Bool.false_ne_true

/-- The answer to a message, from the stock it finds. -/
theorem BulkReserveItem.submit_answer (item : BulkReserveItem)
    (db : InventoryDb) (clock : ℕ → ℕ) :
    (item.request.submit db clock).2 =
      ⟨(verdict (db.available? item.productId) item.reserveItem).reserved,
        [verdict (db.available? item.productId) item.reserveItem]⟩ := by
  have hbody : item.request.submit db clock =
      reserveBody db (item.request.toCall db clock) :=
    reserveStock_eq_body (List.cons_ne_nil _ _) fun hkey => absurd rfl hkey
  obtain ⟨next, hline, houtcomes, hallOk⟩ := @reserveLine_keyless db
    (item.request.toCall db clock) rfl .start item.reserveItem
  have hread : ReserveLoop.start.tx.available? db item.reserveItem.productId =
      db.available? item.productId := Tx.available?_start _ _
  rw [hread] at houtcomes hallOk
  have hloop : reserveLoop db (item.request.toCall db clock) .start
      (sortedItems (item.request.toCall db clock).items) = .ok next := by
    change reserveLoop db _ .start [item.reserveItem] = _
    rw [reserveLoop_cons, hline]
    rfl
  rw [hbody, reserveBody, hloop]
  exact congrArg₂ ReservationOutcome.mk (hallOk.trans (Bool.true_and _))
    houtcomes

theorem BulkReserveItem.submit_results_ne_nil (item : BulkReserveItem)
    (db : InventoryDb) (clock : ℕ → ℕ) :
    (item.request.submit db clock).2.results ≠ [] := by
  rw [item.submit_answer]
  exact List.cons_ne_nil _ _

/-! ## `ReserveStockBulk` -/

/-- One iteration of the loop.  A malformed line is recorded as failed, and
`outcome.results[0]` is the answer to any other. -/
def bulkLine (db : InventoryDb) (line : StreamedLine) :
    InventoryDb × BulkItemOutcome :=
  if line.item.orderRef = .empty then
    (db, ⟨line.item.orderRef, line.item.productId, false,
      "order_ref is required"⟩)
  else
    let outcome := line.item.request.submit db line.clock
    let result := outcome.2.results.head
      (line.item.submit_results_ne_nil db line.clock)
    (outcome.1, ⟨line.item.orderRef, result.productId, result.reserved,
      result.reason⟩)

/-- The local variables of the loop. -/
structure BulkLoop where
  results : List BulkItemOutcome
  reservedCount : ℕ

def BulkLoop.record (loop : BulkLoop) (outcome : BulkItemOutcome) : BulkLoop where
  results := loop.results ++ [outcome]
  reservedCount :=
    if outcome.reserved then loop.reservedCount + 1 else loop.reservedCount

def BulkLoop.summary (loop : BulkLoop) : BulkReserveSummary where
  total := loop.results.length
  reservedCount := loop.reservedCount
  failedCount := loop.results.length - loop.reservedCount
  results := loop.results

def bulkStep (state : InventoryDb × BulkLoop) (line : StreamedLine) :
    InventoryDb × BulkLoop :=
  let answer := bulkLine state.1 line
  (answer.1, state.2.record answer.2)

def InventoryServicer.reserveStockBulk (lines : List StreamedLine)
    (db : InventoryDb) : InventoryDb × BulkReserveSummary :=
  let final := lines.foldl bulkStep (db, ⟨[], 0⟩)
  (final.1, final.2.summary)

/-! ## One line -/

/-- What a message is answered on the tables `db`. -/
def BulkReserveItem.outcome (item : BulkReserveItem) (db : InventoryDb) :
    BulkItemOutcome :=
  if item.orderRef = .empty then
    ⟨item.orderRef, item.productId, false, "order_ref is required"⟩
  else
    ⟨item.orderRef, item.productId,
      (verdict (db.available? item.productId) item.reserveItem).reserved,
      (verdict (db.available? item.productId) item.reserveItem).reason⟩

theorem bulkLine_outcome (db : InventoryDb) (line : StreamedLine) :
    (bulkLine db line).2 = line.item.outcome db := by
  unfold bulkLine BulkReserveItem.outcome
  split_ifs with hempty
  · rfl
  · simp only [line.item.submit_answer, List.head_cons, verdict_productId]
    rfl

/-- A message is reserved when it names an order and its product covers a
positive quantity. -/
theorem BulkReserveItem.outcome_reserved_iff (item : BulkReserveItem)
    (db : InventoryDb) :
    (item.outcome db).reserved = true ↔ item.orderRef ≠ .empty ∧
      0 < item.quantity ∧
        ∃ available, db.available? item.productId = some available ∧
          item.quantity ≤ available := by
  unfold outcome
  split_ifs with hempty
  · simp [hempty]
  · simpa [hempty, reserveItem] using
      verdict_reserved_iff (db.available? item.productId) item.reserveItem

/-- The row inserted for a message. -/
def StreamedLine.row (line : StreamedLine) (db : InventoryDb) :
    StockReservation :=
  (line.item.request.toCall db line.clock).row line.item.reserveItem 0

theorem StreamedLine.line_row (line : StreamedLine) (db : InventoryDb) :
    (line.row db).line = line.item.reserveItem.line line.item.orderRef .empty :=
  rfl

/-- A line that is not reserved changes nothing. -/
theorem bulkLine_failed {db : InventoryDb} {line : StreamedLine}
    (hfailed : (bulkLine db line).2.reserved = false) :
    (bulkLine db line).1 = db := by
  rw [bulkLine_outcome, BulkReserveItem.outcome] at hfailed
  unfold bulkLine
  split_ifs with hempty
  · rfl
  · rw [if_neg hempty] at hfailed
    apply reserveStock_failed
    change (line.item.request.submit db line.clock).2.success = false
    rw [line.item.submit_answer]
    exact hfailed

/-- A reserved line takes its quantity and adds its row. -/
structure TakenBy (db : InventoryDb) (line : StreamedLine)
    (after : InventoryDb) : Prop where
  available : ∀ productId, after.available? productId =
    (db.available? productId).map fun available =>
      available - requested [line.item.reserveItem] productId
  reservations : after.reservations = db.reservations ++ [line.row db]

theorem bulkLine_reserved {db : InventoryDb} {line : StreamedLine}
    (hreserved : (bulkLine db line).2.reserved = true) :
    TakenBy db line (bulkLine db line).1 := by
  rw [bulkLine_outcome, BulkReserveItem.outcome_reserved_iff] at hreserved
  obtain ⟨horder, hverdict⟩ := hreserved
  have hafter : (bulkLine db line).1 =
      (reserveBody db (line.item.request.toCall db line.clock)).1 := by
    rw [bulkLine, if_neg horder]
    exact congrArg Prod.fst (reserveStock_eq_body (List.cons_ne_nil _ _)
      fun hkey => absurd rfl hkey)
  have hsuccess : (reserveBody db
      (line.item.request.toCall db line.clock)).2.success = true := by
    have hanswer := line.item.submit_answer db line.clock
    rw [ReserveStockRequest.submit, reserveStock_eq_body
      (List.cons_ne_nil _ _) fun hkey => absurd rfl hkey] at hanswer
    rw [hanswer]
    exact (verdict_reserved_iff _ line.item.reserveItem).mpr hverdict
  obtain ⟨loop, hprogress, hcommit⟩ := reserveBody_success hsuccess
  rw [hafter]
  constructor
  · intro productId
    have hproduct :=
      (reserveBody_reservedBy hsuccess).products productId
    rw [InventoryDb.available?, InventoryDb.available?, hproduct,
      Option.map_map, Option.map_map]
    rfl
  · rw [hcommit]
    exact hprogress.reservations_commit

end OrderFlow.Inventory
