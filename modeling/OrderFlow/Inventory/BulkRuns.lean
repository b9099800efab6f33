import OrderFlow.Inventory.SharedStream

/-!
# Runs of the bulk stream

The loop of `ReserveStockBulk` as a recursion over its lines, with what it
echoes, and the streams of which nothing is reserved.
-/

namespace OrderFlow.Inventory

open InventoryServicer

/-- The tables after a stream, and its outcomes. -/
def runLines (db : InventoryDb) :
    List StreamedLine → InventoryDb × List BulkItemOutcome
  | [] => (db, [])
  | line :: lines =>
      let rest := runLines (bulkLine db line).1 lines
      (rest.1, (bulkLine db line).2 :: rest.2)

/-- A stream alone is a stream among no calls of others. -/
theorem runLines_eq_shared (db : InventoryDb) (lines : List StreamedLine) :
    runLines db lines = runShared db (lines.map (ArrivingLine.mk [])) := by
  induction lines generalizing db with
  | nil => rfl
  | cons line lines ih =>
      rw [runLines, ih]
      rfl

theorem reserveStockBulk_eq (db : InventoryDb) (lines : List StreamedLine) :
    reserveStockBulk lines db = ((runLines db lines).1,
      BulkLoop.summary ⟨(runLines db lines).2,
        (runLines db lines).2.countP BulkItemOutcome.reserved⟩) := by
  rw [← reserveStockBulkShared_alone, reserveStockBulkShared_eq,
    ← runLines_eq_shared]

theorem runLines_echo (db : InventoryDb) (lines : List StreamedLine) :
    (runLines db lines).2.map (fun outcome =>
        (outcome.orderRef, outcome.productId)) =
      lines.map fun line => (line.item.orderRef, line.item.productId) := by
  rw [runLines_eq_shared, runShared_echo, List.map_map]
  rfl

/-! ## Streams of which nothing is reserved -/

/-- The product of a line has the quantity in stock. -/
def Servable (db : InventoryDb) (item : BulkReserveItem) : Prop :=
  ∃ available, db.available? item.productId = some available ∧
    item.quantity ≤ available

instance (db : InventoryDb) (item : BulkReserveItem) :
    Decidable (Servable db item) :=
  decidable_of_iff ((db.available? item.productId).any
      (fun available => item.quantity ≤ available) = true)
    (by simp [Servable, Option.any_eq_true])

/-- Nothing of a stream is reserved when none of its lines can be served from
the stock it finds. -/
theorem runLines_failed_iff {db : InventoryDb} {lines : List StreamedLine}
    (hvalid : ∀ line ∈ lines,
      line.item.orderRef ≠ .empty ∧ 0 < line.item.quantity) :
    (∀ outcome ∈ (runLines db lines).2, outcome.reserved = false) ↔
      ∀ line ∈ lines, ¬ Servable db line.item := by
  induction lines with
  | nil => simp [runLines]
  | cons line lines ih =>
      rw [List.forall_mem_cons] at hvalid
      have hhead : (bulkLine db line).2.reserved = false ↔
          ¬ Servable db line.item := by
        rw [bulkLine_outcome, ← Bool.not_eq_true,
          BulkReserveItem.outcome_reserved_iff]
        simp [Servable, hvalid.1]
      rw [runLines, List.forall_mem_cons, List.forall_mem_cons, hhead]
      apply and_congr_right
      intro hunserved
      -- the line has changed nothing, so the rest finds the same stock
      rw [bulkLine_failed (hhead.mpr hunserved)]
      exact ih hvalid.2

theorem runLines_unchanged {db : InventoryDb} {lines : List StreamedLine}
    (hfailed : ∀ outcome ∈ (runLines db lines).2, outcome.reserved = false) :
    (runLines db lines).1 = db := by
  induction lines with
  | nil => rfl
  | cons line lines ih =>
      rw [runLines, List.forall_mem_cons] at hfailed
      rw [runLines]
      rw [bulkLine_failed hfailed.1] at hfailed ⊢
      exact ih hfailed.2

end OrderFlow.Inventory
