import OrderFlow.Inventory.BulkReserve

/-!
# The bulk stream among other clients

Every line of `ReserveStockBulk` is a transaction of its own, so that calls of
other clients take effect between any two of them.  The outcomes still tell
exactly which rows the stream has added for its orders.
-/

namespace OrderFlow.Inventory

open InventoryServicer

/-- A line, and the calls of other clients that take effect before it. -/
structure ArrivingLine where
  others : List ServiceCall
  line : StreamedLine

def sharedStep (state : InventoryDb × BulkLoop) (arriving : ArrivingLine) :
    InventoryDb × BulkLoop :=
  bulkStep (runCalls state.1 arriving.others, state.2) arriving.line

def InventoryServicer.reserveStockBulkShared (lines : List ArrivingLine)
    (db : InventoryDb) : InventoryDb × BulkReserveSummary :=
  let final := lines.foldl sharedStep (db, ⟨[], 0⟩)
  (final.1, final.2.summary)

/-- Without other clients this is the stream alone. -/
theorem reserveStockBulkShared_alone (lines : List StreamedLine)
    (db : InventoryDb) :
    reserveStockBulkShared (lines.map (ArrivingLine.mk [])) db =
      reserveStockBulk lines db := by
  have hfold : (lines.map (ArrivingLine.mk [])).foldl sharedStep (db, ⟨[], 0⟩) =
      lines.foldl bulkStep (db, ⟨[], 0⟩) := by
    rw [List.foldl_map]
    rfl
  rw [reserveStockBulkShared, hfold]
  rfl

/-- The tables after a stream, and its outcomes. -/
def runShared (db : InventoryDb) :
    List ArrivingLine → InventoryDb × List BulkItemOutcome
  | [] => (db, [])
  | arriving :: lines =>
      let answer := bulkLine (runCalls db arriving.others) arriving.line
      let rest := runShared answer.1 lines
      (rest.1, answer.2 :: rest.2)

theorem foldl_sharedStep (db : InventoryDb) (loop : BulkLoop)
    (lines : List ArrivingLine) :
    lines.foldl sharedStep (db, loop) =
      ((runShared db lines).1, (runShared db lines).2.foldl .record loop) := by
  induction lines generalizing db loop with
  | nil => rfl
  | cons arriving lines ih => exact ih _ _

theorem BulkLoop.foldl_record (loop : BulkLoop)
    (outcomes : List BulkItemOutcome) :
    outcomes.foldl .record loop =
      ⟨loop.results ++ outcomes,
        loop.reservedCount + outcomes.countP BulkItemOutcome.reserved⟩ := by
  induction outcomes generalizing loop with
  | nil => simp
  | cons outcome outcomes ih =>
      rw [List.foldl_cons, ih]
      cases hreserved : outcome.reserved <;>
        simp [record, hreserved, Nat.add_assoc, Nat.add_comm]

theorem reserveStockBulkShared_eq (db : InventoryDb)
    (lines : List ArrivingLine) :
    reserveStockBulkShared lines db = ((runShared db lines).1,
      BulkLoop.summary ⟨(runShared db lines).2,
        (runShared db lines).2.countP BulkItemOutcome.reserved⟩) := by
  rw [reserveStockBulkShared, foldl_sharedStep, BulkLoop.foldl_record]
  simp

/-! ## The answer -/

theorem bulkLine_echo (db : InventoryDb) (line : StreamedLine) :
    (bulkLine db line).2.orderRef = line.item.orderRef ∧
      (bulkLine db line).2.productId = line.item.productId := by
  rw [bulkLine_outcome, BulkReserveItem.outcome]
  split_ifs <;> exact ⟨rfl, rfl⟩

theorem runShared_echo (db : InventoryDb) (lines : List ArrivingLine) :
    (runShared db lines).2.map (fun outcome =>
        (outcome.orderRef, outcome.productId)) =
      lines.map fun arriving =>
        (arriving.line.item.orderRef, arriving.line.item.productId) := by
  induction lines generalizing db with
  | nil => rfl
  | cons arriving lines ih =>
      obtain ⟨horder, hproduct⟩ :=
        bulkLine_echo (runCalls db arriving.others) arriving.line
      rw [runShared, List.map_cons, List.map_cons, ih, horder, hproduct]

/-! ## The rows of one order -/

theorem bulkLine_ids_nodup {db : InventoryDb}
    (hids : (db.reservations.map StockReservation.id).Nodup)
    (line : StreamedLine) :
    ((bulkLine db line).1.reservations.map StockReservation.id).Nodup := by
  unfold bulkLine
  split_ifs
  · exact hids
  · exact submit_ids_nodup hids line.item.request line.clock

theorem runShared_ids_nodup {db : InventoryDb}
    (hids : (db.reservations.map StockReservation.id).Nodup)
    (lines : List ArrivingLine) :
    ((runShared db lines).1.reservations.map StockReservation.id).Nodup := by
  induction lines generalizing db with
  | nil => exact hids
  | cons arriving lines ih =>
      exact ih (bulkLine_ids_nodup (runCalls_ids_nodup hids _) arriving.line)

/-- What a reserved line of the order records. -/
def taken? (orderRef : CharField128)
    (answered : BulkReserveItem × BulkItemOutcome) : Option ReservedLine :=
  if answered.1.orderRef = orderRef ∧ answered.2.reserved = true then
    some (answered.1.reserveItem.line orderRef .empty)
  else none

/-- What an order holds, as the lines recorded. -/
def heldLines (db : InventoryDb) (orderRef : CharField128) :
    List ReservedLine :=
  (db.reservedForOrder orderRef).map StockReservation.line

theorem heldLines_bulkLine (db : InventoryDb) (line : StreamedLine)
    (orderRef : CharField128) :
    heldLines (bulkLine db line).1 orderRef = heldLines db orderRef ++
      (taken? orderRef (line.item, (bulkLine db line).2)).toList := by
  rw [taken?]
  cases hreserved : (bulkLine db line).2.reserved with
  | false =>
      rw [bulkLine_failed hreserved]
      simp
  | true =>
      have hrows := (bulkLine_reserved hreserved).reservations
      rw [heldLines, InventoryDb.reservedForOrder, hrows, List.filter_append,
        List.map_append]
      by_cases horder : line.item.orderRef = orderRef
      · subst horder
        have hrow : (line.row db).orderRef = line.item.orderRef := rfl
        have hstatus : (line.row db).status = .reserved := rfl
        rw [if_pos ⟨rfl, rfl⟩, ← line.line_row db]
        simp [heldLines, InventoryDb.reservedForOrder, hrow, hstatus]
      · have hrow : (line.row db).orderRef ≠ orderRef := horder
        rw [if_neg fun hboth => horder hboth.1]
        simp [heldLines, InventoryDb.reservedForOrder, hrow]

/-- A stream adds to an order what its reserved lines record, in order. -/
theorem heldLines_runShared {db : InventoryDb}
    (hids : (db.reservations.map StockReservation.id).Nodup)
    {lines : List ArrivingLine} {orderRef : CharField128}
    (hothers : ∀ arriving ∈ lines, ∀ call ∈ arriving.others,
      call.ForOthers orderRef) :
    heldLines (runShared db lines).1 orderRef = heldLines db orderRef ++
      ((lines.map fun arriving => arriving.line.item).zip
        (runShared db lines).2).filterMap (taken? orderRef) := by
  induction lines generalizing db with
  | nil => simp [runShared]
  | cons arriving lines ih =>
      have hsame : heldLines (runCalls db arriving.others) orderRef =
          heldLines db orderRef := by
        rw [heldLines, reservedForOrder_runCalls hids
          (hothers arriving List.mem_cons_self), heldLines]
      rw [runShared, ih (bulkLine_ids_nodup (runCalls_ids_nodup hids _) _)
        fun other hother => hothers other (List.mem_cons_of_mem _ hother),
        heldLines_bulkLine, hsame, List.append_assoc]
      congr 1
      rw [List.map_cons, List.zip_cons_cons, List.filterMap_cons]
      cases taken? orderRef (arriving.line.item,
        (bulkLine (runCalls db arriving.others) arriving.line).2) <;> rfl

end OrderFlow.Inventory
