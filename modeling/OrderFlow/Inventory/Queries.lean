import OrderFlow.Inventory.Feasibility
import OrderFlow.Inventory.ReleaseSpec

/-!
# The RESERVED rows of a key and of an order

What a reservation and a release do to the two queries the services make on
the reservations, `activeForKey` and `reservedForOrder`.
-/

namespace OrderFlow.Inventory

theorem mem_reservedForOrder_iff {db : InventoryDb} {orderRef : CharField128}
    {row : StockReservation} :
    row ∈ db.reservedForOrder orderRef ↔ row ∈ db.reservations ∧
      row.orderRef = orderRef ∧ row.status = .reserved := by
  simp [InventoryDb.reservedForOrder]

/-- Where the order and the key of the RESERVED rows go together, so do the
two queries. -/
theorem reservedForOrder_eq_activeForKey {db : InventoryDb}
    {key : CharField128}
    (hsame : ∀ row ∈ db.reservations, row.status = .reserved →
      (row.orderRef = key ↔ row.idempotencyKey = key)) :
    db.reservedForOrder key = db.activeForKey key := by
  apply List.filter_congr
  intro row hrow
  rw [decide_eq_decide]
  apply and_congr_left
  exact hsame row hrow

theorem hasActive_of_mem {db : InventoryDb} {key : CharField128}
    {row : StockReservation} (hrow : row ∈ db.activeForKey key) :
    db.hasActive key row.productId = true := by
  obtain ⟨hmem, hkey, hstatus⟩ := mem_activeForKey_iff.mp hrow
  exact List.any_eq_true.mpr ⟨row, hmem, decide_eq_true ⟨hkey, rfl, hstatus⟩⟩

/-! ## After a reservation -/

section Reserve

variable {db : InventoryDb} {call : ReserveCall}
variable {done accepted : List ReserveItem} {loop : ReserveLoop}

/-- New rows that a query finds, all of them. -/
theorem ReserveCall.filter_rows_eq_self (call : ReserveCall)
    (items : List ReserveItem) {keep : StockReservation → Bool}
    (hkeep : ∀ item line, keep (call.row item line) = true) :
    (call.rows items).filter keep = call.rows items := by
  rw [List.filter_eq_self]
  intro row hrow
  obtain ⟨item, _, line, rfl⟩ := ReserveCall.mem_rows hrow
  exact hkeep item line

theorem ReserveCall.filter_rows_eq_nil (call : ReserveCall)
    (items : List ReserveItem) {keep : StockReservation → Bool}
    (hkeep : ∀ item line, keep (call.row item line) = false) :
    (call.rows items).filter keep = [] := by
  rw [List.filter_eq_nil_iff]
  intro row hrow
  obtain ⟨item, _, line, rfl⟩ := ReserveCall.mem_rows hrow
  rw [hkeep item line]
  exact Bool.false_ne_true

theorem Progress.filter_commit
    (hprogress : Progress db call done accepted loop)
    (keep : StockReservation → Bool) :
    (db.commit loop.tx).reservations.filter keep =
      db.reservations.filter keep ++ (call.rows accepted).filter keep := by
  rw [hprogress.reservations_commit, List.filter_append]

/-- A successful reservation adds its rows to those of its key. -/
theorem Progress.activeForKey
    (hprogress : Progress db call done accepted loop) :
    (db.commit loop.tx).activeForKey call.idempotencyKey =
      db.activeForKey call.idempotencyKey ++ call.rows accepted := by
  rw [InventoryDb.activeForKey, hprogress.filter_commit,
    call.filter_rows_eq_self accepted fun item line => by
      simp [ReserveCall.row]]
  rfl

theorem Progress.activeForKey_other
    (hprogress : Progress db call done accepted loop) {key : CharField128}
    (hkey : call.idempotencyKey ≠ key) :
    (db.commit loop.tx).activeForKey key = db.activeForKey key := by
  rw [InventoryDb.activeForKey, hprogress.filter_commit,
    call.filter_rows_eq_nil accepted fun item line => by
      simp [ReserveCall.row, hkey], List.append_nil]
  rfl

/-- A successful reservation adds its rows to those of its order. -/
theorem Progress.reservedForOrder
    (hprogress : Progress db call done accepted loop) :
    (db.commit loop.tx).reservedForOrder call.orderRef =
      db.reservedForOrder call.orderRef ++ call.rows accepted := by
  rw [InventoryDb.reservedForOrder, hprogress.filter_commit,
    call.filter_rows_eq_self accepted fun item line => by
      simp [ReserveCall.row]]
  rfl

theorem Progress.reservedForOrder_other
    (hprogress : Progress db call done accepted loop)
    {orderRef : CharField128} (horder : call.orderRef ≠ orderRef) :
    (db.commit loop.tx).reservedForOrder orderRef =
      db.reservedForOrder orderRef := by
  rw [InventoryDb.reservedForOrder, hprogress.filter_commit,
    call.filter_rows_eq_nil accepted fun item line => by
      simp [ReserveCall.row, horder], List.append_nil]
  rfl

end Reserve

theorem activeForKey_reserveBody_other {db : InventoryDb} {call : ReserveCall}
    {key : CharField128} (hkey : call.idempotencyKey ≠ key) :
    (reserveBody db call).1.activeForKey key = db.activeForKey key := by
  rcases reserveBody_cases db call with
    ⟨hsame, _⟩ | ⟨_, loop, hprogress, hcommit⟩
  · rw [hsame]
  · rw [hcommit, hprogress.activeForKey_other hkey]

theorem reservedForOrder_reserveBody_other {db : InventoryDb}
    {call : ReserveCall} {orderRef : CharField128}
    (horder : call.orderRef ≠ orderRef) :
    (reserveBody db call).1.reservedForOrder orderRef =
      db.reservedForOrder orderRef := by
  rcases reserveBody_cases db call with
    ⟨hsame, _⟩ | ⟨_, loop, hprogress, hcommit⟩
  · rw [hsame]
  · rw [hcommit, hprogress.reservedForOrder_other horder]

/-- A whole `reserve_stock` call either changed nothing, or was accepted while
its key was not active. -/
theorem reserveStock_cases (db : InventoryDb) (call : ReserveCall) :
    (reserveStock db call).1 = db ∨
      (reserveStock db call).2.success = true ∧
        (call.idempotencyKey ≠ .empty →
          db.activeForKey call.idempotencyKey = []) ∧
        ∃ loop, Progress db call (sortedItems call.items)
          (sortedItems call.items) loop ∧
            (reserveStock db call).1 = db.commit loop.tx := by
  rw [reserveStock]
  by_cases hitems : call.items = []
  · rw [if_pos hitems]
    exact .inl rfl
  rw [if_neg hitems]
  cases hreplay : replay? db call.idempotencyKey with
  | some outcome => exact .inl rfl
  | none =>
      rcases reserveBody_cases db call with
        ⟨hsame, _⟩ | ⟨hsuccess, loop, hprogress, hcommit⟩
      · exact .inl hsame
      · exact .inr ⟨hsuccess, (replay?_eq_none_iff _ _).mp hreplay, loop,
          hprogress, hcommit⟩

theorem reserveStock_failed {db : InventoryDb} {call : ReserveCall}
    (hfailed : (reserveStock db call).2.success = false) :
    (reserveStock db call).1 = db := by
  rcases reserveStock_cases db call with hsame | ⟨hsuccess, _⟩
  · exact hsame
  · exact absurd (hsuccess.symm.trans hfailed) Bool.noConfusion

/-- A replay lists the active rows of the key, the latest first. -/
theorem reserveStock_replay_eq {db : InventoryDb} {call : ReserveCall}
    (hitems : call.items ≠ []) (hkey : call.idempotencyKey ≠ .empty)
    (hactive : db.activeForKey call.idempotencyKey ≠ []) :
    reserveStock db call = (db, ⟨true,
      (priorReservations db call.idempotencyKey).map fun row =>
        ⟨row.productId, true, ""⟩⟩) := by
  rw [reserveStock, if_neg hitems, replay?_active hkey hactive]

/-- A replay changes nothing and answers with the active rows of the key. -/
theorem reserveStock_replay {db : InventoryDb} {call : ReserveCall}
    (hitems : call.items ≠ []) (hkey : call.idempotencyKey ≠ .empty)
    (hactive : db.activeForKey call.idempotencyKey ≠ []) :
    (reserveStock db call).1 = db ∧
      (reserveStock db call).2.success = true ∧
      ((reserveStock db call).2.results.map ItemOutcome.productId).Perm
        ((db.activeForKey call.idempotencyKey).map
          StockReservation.productId) := by
  have hperm : (priorReservations db call.idempotencyKey).Perm
      (db.activeForKey call.idempotencyKey) := List.perm_insertionSort _ _
  rw [reserveStock_replay_eq hitems hkey hactive]
  refine ⟨rfl, rfl, ?_⟩
  rw [List.map_map]
  exact hperm.map _

/-- After a success the key is active. -/
theorem activeForKey_ne_nil_of_success {db : InventoryDb} {call : ReserveCall}
    (hkey : call.idempotencyKey ≠ .empty)
    (hsuccess : (reserveStock db call).2.success = true) :
    (reserveStock db call).1.activeForKey call.idempotencyKey ≠ [] := by
  have hitems : call.items ≠ [] := by
    intro hempty
    rw [reserveStock, if_pos hempty] at hsuccess
    exact Bool.false_ne_true hsuccess
  by_cases hactive : db.activeForKey call.idempotencyKey = []
  · rw [reserveStock_eq_body hitems fun _ => hactive] at hsuccess ⊢
    obtain ⟨loop, hprogress, hcommit⟩ := reserveBody_success hsuccess
    rw [hcommit, hprogress.activeForKey, hactive, List.nil_append]
    intro hempty
    have hlength := call.length_rows (sortedItems call.items)
    rw [hempty, (perm_sortedItems call.items).length_eq] at hlength
    exact hitems (List.length_eq_zero_iff.mp hlength.symm)
  · rw [(reserveStock_replay hitems hkey hactive).1]
    exact hactive

theorem activeForKey_reserveStock_other {db : InventoryDb}
    {call : ReserveCall} {key : CharField128}
    (hkey : call.idempotencyKey ≠ key) :
    (reserveStock db call).1.activeForKey key = db.activeForKey key := by
  rcases reserveStock_cases db call with
    hsame | ⟨_, _, loop, hprogress, hcommit⟩
  · rw [hsame]
  · rw [hcommit, hprogress.activeForKey_other hkey]

theorem reservedForOrder_reserveStock_other {db : InventoryDb}
    {call : ReserveCall} {orderRef : CharField128}
    (horder : call.orderRef ≠ orderRef) :
    (reserveStock db call).1.reservedForOrder orderRef =
      db.reservedForOrder orderRef := by
  rcases reserveStock_cases db call with
    hsame | ⟨_, _, loop, hprogress, hcommit⟩
  · rw [hsame]
  · rw [hcommit, hprogress.reservedForOrder_other horder]

/-- A row after a reservation was there before or is one of its own. -/
theorem Progress.mem_commit {db : InventoryDb} {call : ReserveCall}
    {done accepted : List ReserveItem} {loop : ReserveLoop}
    (hprogress : Progress db call done accepted loop)
    {row : StockReservation}
    (hrow : row ∈ (db.commit loop.tx).reservations) :
    row ∈ db.reservations ∨
      ∃ item ∈ accepted, ∃ line, row = call.row item line := by
  rw [hprogress.reservations_commit, List.mem_append] at hrow
  exact hrow.imp_right ReserveCall.mem_rows

theorem mem_reserveStock {db : InventoryDb} {call : ReserveCall}
    {row : StockReservation}
    (hrow : row ∈ (reserveStock db call).1.reservations) :
    row ∈ db.reservations ∨
      ∃ item ∈ sortedItems call.items, ∃ line, row = call.row item line := by
  rcases reserveStock_cases db call with
    hsame | ⟨_, _, loop, hprogress, hcommit⟩
  · rw [hsame] at hrow
    exact .inl hrow
  · rw [hcommit] at hrow
    exact hprogress.mem_commit hrow

/-! ## After a release -/

/-- A release takes its rows away from every key. -/
theorem activeForKey_releaseBody (db : InventoryDb)
    (rows : List StockReservation) (key : CharField128) :
    (releaseBody db rows).1.activeForKey key =
      (db.activeForKey key).filter fun row =>
        row.id ∉ rows.map StockReservation.id := by
  apply filter_releaseBody
  intro row
  simp only [Tx.applyToRow_idempotencyKey, Tx.applyToRow_status_reserved_iff]
  rw [Bool.eq_iff_iff]
  simp only [decide_eq_true_eq, Bool.and_eq_true]
  tauto

/-- A release takes its rows away from every order. -/
theorem reservedForOrder_releaseBody (db : InventoryDb)
    (rows : List StockReservation) (orderRef : CharField128) :
    (releaseBody db rows).1.reservedForOrder orderRef =
      (db.reservedForOrder orderRef).filter fun row =>
        row.id ∉ rows.map StockReservation.id := by
  apply filter_releaseBody
  intro row
  simp only [Tx.applyToRow_orderRef, Tx.applyToRow_status_reserved_iff]
  rw [Bool.eq_iff_iff]
  simp only [decide_eq_true_eq, Bool.and_eq_true]
  tauto

/-- A row after a release has the order and the key it had before, and if it
is still RESERVED it was so before. -/
theorem mem_releaseBody {db : InventoryDb} {rows : List StockReservation}
    {row : StockReservation}
    (hrow : row ∈ (releaseBody db rows).1.reservations) :
    ∃ before ∈ db.reservations, row.orderRef = before.orderRef ∧
      row.idempotencyKey = before.idempotencyKey ∧
      (row.status = .reserved → before.status = .reserved) := by
  rw [reservations_releaseBody] at hrow
  obtain ⟨before, hbefore, rfl⟩ := List.mem_map.mp hrow
  refine ⟨before, hbefore, Tx.applyToRow_orderRef _ before,
    Tx.applyToRow_idempotencyKey _ before, fun hstatus => ?_⟩
  rw [Tx.applyToRow_status_reserved_iff] at hstatus
  exact hstatus.2

/-- The rows `release_stock` works through are the RESERVED ones. -/
theorem mem_map_releaseRows (db : InventoryDb) (orderRef : CharField128)
    (id : RowId) :
    id ∈ (orderByProductId (db.reservedForOrder orderRef)).map
        StockReservation.id ↔
      id ∈ (db.reservedForOrder orderRef).map StockReservation.id :=
  ((perm_orderByProductId _).map _).mem_iff

/-- Nothing stays RESERVED for the order. -/
theorem reservedForOrder_releaseStock (db : InventoryDb)
    (orderRef : CharField128) :
    (releaseStock db orderRef).1.reservedForOrder orderRef = [] := by
  rw [releaseStock, reservedForOrder_releaseBody, List.filter_eq_nil_iff]
  intro row hrow hkept
  apply of_decide_eq_true hkept
  rw [mem_map_releaseRows]
  exact List.mem_map_of_mem hrow

/-- What a query finds besides the rows of the order stays. -/
theorem filter_not_released {db : InventoryDb}
    (hids : (db.reservations.map StockReservation.id).Nodup)
    {orderRef : CharField128} {rows : List StockReservation}
    (hrows : ∀ row ∈ rows, row ∈ db.reservations ∧ row.orderRef ≠ orderRef) :
    rows.filter (fun row => decide (row.id ∉
      (orderByProductId (db.reservedForOrder orderRef)).map
        StockReservation.id)) = rows := by
  rw [List.filter_eq_self]
  intro row hrow
  rw [decide_eq_true_eq, mem_map_releaseRows]
  intro hid
  obtain ⟨other, hother, hsame⟩ := List.mem_map.mp hid
  obtain ⟨hmem, horder, _⟩ := mem_reservedForOrder_iff.mp hother
  obtain ⟨hrowMem, hrowOrder⟩ := hrows row hrow
  apply hrowOrder
  rw [← List.inj_on_of_nodup_map hids hmem hrowMem hsame]
  exact horder

theorem reservedForOrder_releaseStock_other {db : InventoryDb}
    (hids : (db.reservations.map StockReservation.id).Nodup)
    {orderRef other : CharField128} (hne : other ≠ orderRef) :
    (releaseStock db orderRef).1.reservedForOrder other =
      db.reservedForOrder other := by
  rw [releaseStock, reservedForOrder_releaseBody]
  apply filter_not_released hids
  intro row hrow
  obtain ⟨hmem, horder, _⟩ := mem_reservedForOrder_iff.mp hrow
  exact ⟨hmem, horder ▸ hne⟩

/-- The rows of a key that all belong to another order stay. -/
theorem activeForKey_releaseStock_other {db : InventoryDb}
    (hids : (db.reservations.map StockReservation.id).Nodup)
    {orderRef key : CharField128}
    (hother : ∀ row ∈ db.activeForKey key, row.orderRef ≠ orderRef) :
    (releaseStock db orderRef).1.activeForKey key = db.activeForKey key := by
  rw [releaseStock, activeForKey_releaseBody]
  apply filter_not_released hids
  intro row hrow
  exact ⟨(mem_activeForKey_iff.mp hrow).1, hother row hrow⟩

/-- The rows of a key that all belong to the order go. -/
theorem activeForKey_releaseStock_own {db : InventoryDb}
    {orderRef key : CharField128}
    (hown : ∀ row ∈ db.activeForKey key, row.orderRef = orderRef) :
    (releaseStock db orderRef).1.activeForKey key = [] := by
  rw [releaseStock, activeForKey_releaseBody, List.filter_eq_nil_iff]
  intro row hrow hkept
  obtain ⟨hmem, _, hstatus⟩ := mem_activeForKey_iff.mp hrow
  apply of_decide_eq_true hkept
  rw [mem_map_releaseRows]
  exact List.mem_map_of_mem
    (mem_reservedForOrder_iff.mpr ⟨hmem, hown row hrow, hstatus⟩)

/-- What was held for the order is available again. -/
theorem available?_releaseStock (db : InventoryDb) (orderRef : CharField128)
    (productId : ℤ) :
    (releaseStock db orderRef).1.available? productId =
      (db.available? productId).map fun available =>
        available + quantityOf (db.reservedForOrder orderRef) productId := by
  rw [releaseStock, releaseBody, InventoryDb.available?_commit,
    (releaseLoop_progress db _).balance,
    quantityOf_perm (perm_orderByProductId _)]

/-! ## All rows of an order -/

/-- The rows of an order, RESERVED or not.  A row is inserted together with
the decrement of its product and is never deleted. -/
def InventoryDb.rowsForOrder (db : InventoryDb) (orderRef : CharField128) :
    List StockReservation :=
  db.reservations.filter fun row => row.orderRef = orderRef

theorem mem_rowsForOrder_iff {db : InventoryDb} {orderRef : CharField128}
    {row : StockReservation} :
    row ∈ db.rowsForOrder orderRef ↔
      row ∈ db.reservations ∧ row.orderRef = orderRef := by
  simp [InventoryDb.rowsForOrder]

theorem reservedForOrder_eq_filter (db : InventoryDb)
    (orderRef : CharField128) :
    db.reservedForOrder orderRef =
      (db.rowsForOrder orderRef).filter fun row => row.status = .reserved := by
  rw [InventoryDb.rowsForOrder, List.filter_filter]
  apply List.filter_congr
  intro row _
  rw [Bool.decide_and, Bool.and_comm]

theorem Progress.rowsForOrder {db : InventoryDb} {call : ReserveCall}
    {done accepted : List ReserveItem} {loop : ReserveLoop}
    (hprogress : Progress db call done accepted loop) :
    (db.commit loop.tx).rowsForOrder call.orderRef =
      db.rowsForOrder call.orderRef ++ call.rows accepted := by
  rw [InventoryDb.rowsForOrder, hprogress.filter_commit,
    call.filter_rows_eq_self accepted fun item line => by
      simp [ReserveCall.row]]
  rfl

theorem rowsForOrder_releaseBody (db : InventoryDb)
    (rows : List StockReservation) (orderRef : CharField128) :
    (releaseBody db rows).1.rowsForOrder orderRef =
      (db.rowsForOrder orderRef).map
        (releaseLoop db .start rows).applyToRow := by
  rw [InventoryDb.rowsForOrder, reservations_releaseBody, List.filter_map]
  simp only [Function.comp_def, Tx.applyToRow_orderRef]
  rfl

/-! ## Primary keys -/

theorem reserveStock_ids_nodup {db : InventoryDb} {call : ReserveCall}
    (hids : (db.reservations.map StockReservation.id).Nodup)
    (hunused : ∀ row ∈ db.reservations, row.id.call ≠ call.number) :
    ((reserveStock db call).1.reservations.map StockReservation.id).Nodup := by
  rcases reserveStock_cases db call with
    hsame | ⟨_, _, loop, hprogress, hcommit⟩
  · rwa [hsame]
  · rw [hcommit, hprogress.reservations_commit, List.map_append,
      List.nodup_append]
    refine ⟨hids, call.rows_ids_nodup _, ?_⟩
    rintro _ hold _ hnew rfl
    obtain ⟨row, hrow, hsame⟩ := List.mem_map.mp hold
    obtain ⟨added, hadded, rfl⟩ := List.mem_map.mp hnew
    obtain ⟨item, _, line, rfl⟩ := ReserveCall.mem_rows hadded
    apply hunused row hrow
    rw [hsame]
    rfl

theorem releaseStock_ids (db : InventoryDb) (orderRef : CharField128) :
    (releaseStock db orderRef).1.reservations.map StockReservation.id =
      db.reservations.map StockReservation.id :=
  releaseBody_ids db _

end OrderFlow.Inventory
