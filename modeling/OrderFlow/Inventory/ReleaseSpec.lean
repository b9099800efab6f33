import OrderFlow.Inventory.Services
import Mathlib.Data.List.Induction

/-!
# What the release loop computes

Each row of the loop raises the balance of its product by its quantity and is
marked RELEASED.  The effect depends on the rows only, not on their order.
-/

namespace OrderFlow.Inventory

/-- What the loop of `release_stock` has done after `rows`. -/
structure ReleaseProgress (db : InventoryDb) (rows : List StockReservation)
    (tx : Tx) : Prop where
  inserted : tx.inserted = []
  released : tx.released = rows.map StockReservation.id
  writes : ∀ productId, tx.writes productId =
    if productId ∈ rows.map StockReservation.productId then
      (db.available? productId).map fun available =>
        available + quantityOf rows productId
    else none

theorem quantityOf_concat (rows : List StockReservation)
    (row : StockReservation) (productId : ℤ) :
    quantityOf (rows ++ [row]) productId =
      quantityOf rows productId +
        if row.productId = productId then row.quantity else 0 := by
  rw [quantityOf, quantityOf, groupedSum.append, groupedSum.cons,
    groupedSum.nil, add_zero]

/-- The total of some rows and of the others. -/
theorem quantityOf_filter_add (keep : StockReservation → Bool)
    (rows : List StockReservation) (productId : ℤ) :
    quantityOf (rows.filter keep) productId +
        quantityOf (rows.filter fun row => !keep row) productId =
      quantityOf rows productId :=
  groupedSum.filter_add_filter_not keep rows productId

theorem quantityOf_perm {first second : List StockReservation}
    (hperm : first.Perm second) (productId : ℤ) :
    quantityOf first productId = quantityOf second productId :=
  groupedSum.perm hperm productId

theorem quantityOf_eq_zero {rows : List StockReservation} {productId : ℤ}
    (hproduct : productId ∉ rows.map StockReservation.productId) :
    quantityOf rows productId = 0 :=
  groupedSum.eq_zero_of_forall_ne fun row hrow hsame =>
    hproduct (List.mem_map.mpr ⟨row, hrow, hsame⟩)

/-- Every balance has risen by the quantity of the rows of its product. -/
theorem ReleaseProgress.balance {db : InventoryDb}
    {rows : List StockReservation} {tx : Tx}
    (hprogress : ReleaseProgress db rows tx) (productId : ℤ) :
    tx.available? db productId = (db.available? productId).map
      fun available => available + quantityOf rows productId := by
  rw [Tx.available?, hprogress.writes]
  by_cases hproduct : productId ∈ rows.map StockReservation.productId
  · rw [if_pos hproduct]
    cases db.available? productId <;> rfl
  · rw [if_neg hproduct, quantityOf_eq_zero hproduct]
    simp

theorem addBack_inserted (db : InventoryDb) (tx : Tx)
    (row : StockReservation) : (addBack db tx row).inserted = tx.inserted := by
  rw [addBack]
  cases tx.available? db row.productId <;> rfl

theorem addBack_released (db : InventoryDb) (tx : Tx)
    (row : StockReservation) : (addBack db tx row).released = tx.released := by
  rw [addBack]
  cases tx.available? db row.productId <;> rfl

theorem addBack_writes {db : InventoryDb} {rows : List StockReservation}
    {tx : Tx} (hprogress : ReleaseProgress db rows tx)
    (row : StockReservation) (productId : ℤ) :
    (addBack db tx row).writes productId =
      if productId ∈ (rows ++ [row]).map StockReservation.productId then
        (db.available? productId).map fun available =>
          available + quantityOf (rows ++ [row]) productId
      else none := by
  have hbalance := hprogress.balance row.productId
  rw [quantityOf_concat, addBack]
  by_cases hsame : row.productId = productId
  · subst hsame
    cases hread : tx.available? db row.productId with
    | none =>
        rw [hread] at hbalance
        have hmissing : db.available? row.productId = none := by
          simpa using hbalance.symm
        simp [hprogress.writes, hmissing]
    | some available =>
        rw [hread] at hbalance
        obtain ⟨committed, hcommitted, hsum⟩ :=
          Option.map_eq_some_iff.mp hbalance.symm
        simp [Tx.write, hcommitted, ← hsum, add_assoc]
  · have hne : productId ≠ row.productId := Ne.symm hsame
    cases hread : tx.available? db row.productId with
    | none => simp [hprogress.writes, hsame, hne]
    | some available => simp [Tx.write, hprogress.writes, hsame, hne]

theorem releaseLoop_progress (db : InventoryDb)
    (rows : List StockReservation) :
    ReleaseProgress db rows (releaseLoop db .start rows) := by
  induction rows using List.reverseRecOn with
  | nil => exact ⟨rfl, rfl, fun productId => by simp [Tx.start]⟩
  | append_singleton rows row ih =>
      rw [releaseLoop_concat]
      refine ⟨?_, ?_, fun productId => ?_⟩
      · exact (addBack_inserted db _ row).trans ih.inserted
      · simp [releaseLine, Tx.release, addBack_released, ih.released]
      · exact addBack_writes ih row productId

/-! ## The tables after a release -/

/-- A release only changes the status of its rows. -/
theorem reservations_releaseBody (db : InventoryDb)
    (rows : List StockReservation) :
    (releaseBody db rows).1.reservations =
      db.reservations.map (releaseLoop db .start rows).applyToRow := by
  rw [releaseBody, InventoryDb.commit, (releaseLoop_progress db rows).inserted,
    List.append_nil]

theorem mem_released_iff (db : InventoryDb) (rows : List StockReservation)
    (id : RowId) :
    id ∈ (releaseLoop db .start rows).released ↔
      id ∈ rows.map StockReservation.id := by
  rw [(releaseLoop_progress db rows).released]

/-- A query for RESERVED rows after a release: the rows found before, without
those released. -/
theorem filter_releaseBody (db : InventoryDb) (rows : List StockReservation)
    (keep : StockReservation → Bool)
    (hstable : ∀ row, keep ((releaseLoop db .start rows).applyToRow row) =
      (keep row && decide (row.id ∉ (releaseLoop db .start rows).released))) :
    (releaseBody db rows).1.reservations.filter keep =
      (db.reservations.filter keep).filter fun row =>
        row.id ∉ rows.map StockReservation.id := by
  have hfilter := db.filter_commit (releaseLoop db .start rows) keep hstable
  rw [(releaseLoop_progress db rows).inserted, List.filter_nil,
    List.append_nil] at hfilter
  rw [releaseBody, hfilter]
  simp only [mem_released_iff]

@[simp]
theorem releaseBody_ids (db : InventoryDb) (rows : List StockReservation) :
    (releaseBody db rows).1.reservations.map StockReservation.id =
      db.reservations.map StockReservation.id := by
  simp [reservations_releaseBody, Function.comp_def]

/-- The order of the rows is not seen in the committed state. -/
theorem commit_releaseLoop_perm (db : InventoryDb)
    {first second : List StockReservation} (hperm : first.Perm second) :
    db.commit (releaseLoop db .start first) =
      db.commit (releaseLoop db .start second) := by
  have hfirst := releaseLoop_progress db first
  have hsecond := releaseLoop_progress db second
  have hwrites : (releaseLoop db .start first).writes =
      (releaseLoop db .start second).writes := by
    funext productId
    have hmem : productId ∈ first.map StockReservation.productId ↔
        productId ∈ second.map StockReservation.productId :=
      (hperm.map _).mem_iff
    rw [hfirst.writes, hsecond.writes, quantityOf_perm hperm]
    simp only [hmem]
  have hreleased : ∀ id, id ∈ (releaseLoop db .start first).released ↔
      id ∈ (releaseLoop db .start second).released := by
    intro id
    rw [hfirst.released, hsecond.released]
    exact (hperm.map _).mem_iff
  have hproduct : (releaseLoop db .start first).applyToProduct =
      (releaseLoop db .start second).applyToProduct := by
    funext product
    rw [Tx.applyToProduct, Tx.applyToProduct, hwrites]
  have hrow : (releaseLoop db .start first).applyToRow =
      (releaseLoop db .start second).applyToRow := by
    funext row
    simp only [Tx.applyToRow, hreleased]
  rw [InventoryDb.commit, InventoryDb.commit, hfirst.inserted,
    hsecond.inserted, hproduct, hrow]

end OrderFlow.Inventory
