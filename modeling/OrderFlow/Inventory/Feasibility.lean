import OrderFlow.Inventory.ReserveSpec

/-!
# When a reservation succeeds

`reserve_stock` without overlap, as a whole: a refused call changes nothing, a
successful one moves exactly the requested quantities from stock into RESERVED
rows, and it succeeds exactly when the per-product totals are covered, except
that a keyed call that names a product twice collides with itself in the
partial unique index.
-/

namespace OrderFlow.Inventory

/-- The rows a fresh database holds after the seed migration. -/
def seededDb : InventoryDb where
  products :=
    [⟨1, "SKU-WIDGET", "Standard Widget", 100⟩,
      ⟨2, "SKU-GADGET", "Premium Gadget", 50⟩,
      ⟨3, "SKU-GIZMO", "Limited Gizmo", 10⟩]
  reservations := []

theorem seededDb_wellFormed : seededDb.WellFormed where
  ids_nodup := List.nodup_nil
  available_nonneg productId available havailable := by
    obtain ⟨product, hproduct, rfl⟩ :=
      InventoryDb.exists_product_of_available? havailable
    exact (by decide : ∀ product ∈ seededDb.products,
      0 ≤ product.availableQuantity) product hproduct
  quantity_nonneg _ hrow := absurd hrow List.not_mem_nil

/-- What one row records of the line it was made for. -/
structure ReservedLine where
  productId : ℤ
  quantity : ℤ
  orderRef : CharField128
  idempotencyKey : CharField128
  status : Status
  deriving DecidableEq

def StockReservation.line (row : StockReservation) : ReservedLine :=
  ⟨row.productId, row.quantity, row.orderRef, row.idempotencyKey, row.status⟩

/-- The RESERVED line of an item under an order and a key. -/
def ReserveItem.line (orderRef idempotencyKey : CharField128)
    (item : ReserveItem) : ReservedLine :=
  ⟨item.productId, item.quantity, orderRef, idempotencyKey, .reserved⟩

def ReserveCall.line (call : ReserveCall) (item : ReserveItem) :
    ReservedLine :=
  item.line call.orderRef call.idempotencyKey

theorem ReserveCall.map_line_rows (call : ReserveCall)
    (items : List ReserveItem) :
    (call.rows items).map StockReservation.line = items.map call.line := by
  induction items using List.reverseRecOn with
  | nil => rfl
  | append_singleton items item ih =>
      rw [call.rows_concat, List.map_append, List.map_append, ih]
      rfl

theorem ReserveCall.map_productId_rows (call : ReserveCall)
    (items : List ReserveItem) :
    (call.rows items).map StockReservation.productId =
      items.map ReserveItem.productId := by
  calc (call.rows items).map StockReservation.productId
      = ((call.rows items).map StockReservation.line).map
          ReservedLine.productId := by
        rw [List.map_map]
        rfl
    _ = items.map ReserveItem.productId := by
        rw [call.map_line_rows, List.map_map]
        rfl

/-! ## The transaction body -/

/-- A refused transaction is rolled back. -/
theorem reserveBody_refused {db : InventoryDb} {call : ReserveCall}
    (hrefused : (reserveBody db call).2.success = false) :
    (reserveBody db call).1 = db := by
  unfold reserveBody at hrefused ⊢
  cases hloop : reserveLoop db call .start (sortedItems call.items) with
  | error error => rfl
  | ok loop =>
      rw [hloop] at hrefused
      have hallOk : loop.allOk = false := hrefused
      simp [ReserveLoop.finish, hallOk]

/-- A successful transaction accepted every line and was committed. -/
theorem reserveBody_success {db : InventoryDb} {call : ReserveCall}
    (hsuccess : (reserveBody db call).2.success = true) :
    ∃ loop, Progress db call (sortedItems call.items)
        (sortedItems call.items) loop ∧
      (reserveBody db call).1 = db.commit loop.tx := by
  unfold reserveBody at hsuccess ⊢
  cases hloop : reserveLoop db call .start (sortedItems call.items) with
  | error error =>
      rw [hloop] at hsuccess
      exact absurd hsuccess Bool.false_ne_true
  | ok loop =>
      rw [hloop] at hsuccess
      have hallOk : loop.allOk = true := hsuccess
      obtain ⟨accepted, hprogress⟩ := reserveLoop_progress hloop
      have hall : accepted = sortedItems call.items :=
        hprogress.allOk.mp hallOk
      subst hall
      exact ⟨loop, hprogress, by simp [ReserveLoop.finish, hallOk]⟩

theorem reserveBody_feasible {db : InventoryDb} {call : ReserveCall}
    (hsuccess : (reserveBody db call).2.success = true) :
    Feasible db call.items := by
  obtain ⟨loop, hprogress, _⟩ := reserveBody_success hsuccess
  rw [← feasible_sortedItems_iff]
  exact hprogress.feasible (hprogress.allOk.mpr rfl)

/-- A keyed call succeeds for pairwise distinct products only. -/
theorem reserveBody_keyed_nodup {db : InventoryDb} {call : ReserveCall}
    (hsuccess : (reserveBody db call).2.success = true)
    (hkey : call.idempotencyKey ≠ .empty) :
    (call.items.map ReserveItem.productId).Nodup := by
  obtain ⟨loop, hprogress, _⟩ := reserveBody_success hsuccess
  have hsorted := (hprogress.index hkey).1
  exact ((perm_sortedItems call.items).map _).nodup_iff.mp hsorted

theorem reserveBody_of_feasible {db : InventoryDb} {call : ReserveCall}
    (hfeasible : Feasible db call.items)
    (hindex : IndexFree db call.idempotencyKey call.items) :
    (reserveBody db call).2.success = true := by
  have hperm := perm_sortedItems call.items
  have hsorted : IndexFree db call.idempotencyKey (sortedItems call.items) := by
    intro hkey
    obtain ⟨hnodup, hactive⟩ := hindex hkey
    exact ⟨(hperm.map _).nodup_iff.mpr hnodup,
      fun item hitem => hactive item (hperm.mem_iff.mp hitem)⟩
  obtain ⟨final, hrun, hallOk⟩ : ∃ final,
      reserveLoop db call .start (sortedItems call.items) = .ok final ∧
        final.allOk = true :=
    (Progress.start db call).run_of_feasible
      ((feasible_sortedItems_iff db call.items).mpr hfeasible) hsorted
  simpa [reserveBody, hrun, ReserveLoop.finish] using hallOk

/-- A reservation either committed the writes of an accepted request, or left
no trace. -/
theorem reserveBody_cases (db : InventoryDb) (call : ReserveCall) :
    (reserveBody db call).1 = db ∧
        (reserveBody db call).2.success = false ∨
      (reserveBody db call).2.success = true ∧
        ∃ loop, Progress db call (sortedItems call.items)
          (sortedItems call.items) loop ∧
            (reserveBody db call).1 = db.commit loop.tx := by
  cases hsuccess : (reserveBody db call).2.success with
  | false => exact .inl ⟨reserveBody_refused hsuccess, rfl⟩
  | true => exact .inr ⟨rfl, reserveBody_success hsuccess⟩

/-! ## Effect of a success -/

/-- The tables after a successful reservation: every balance drops by the sum
requested for its product, one RESERVED row per line is added, and nothing
else changes. -/
structure ReservedBy (db : InventoryDb) (call : ReserveCall)
    (after : InventoryDb) : Prop where
  products : ∀ productId, after.product? productId =
    (db.product? productId).map fun product =>
      { product with
        availableQuantity :=
          product.availableQuantity - requested call.items productId }
  catalog : after.products.map (fun product => (product.id, product.sku,
      product.name)) =
    db.products.map fun product => (product.id, product.sku, product.name)
  reservations : ∃ added, after.reservations = db.reservations ++ added ∧
    (added.map StockReservation.line).Perm (call.items.map call.line)

/-- An accepted request only adds rows. -/
theorem Progress.reservations_commit {db : InventoryDb} {call : ReserveCall}
    {done accepted : List ReserveItem} {loop : ReserveLoop}
    (hprogress : Progress db call done accepted loop) :
    (db.commit loop.tx).reservations =
      db.reservations ++ call.rows accepted := by
  have hkeep : loop.tx.applyToRow = id := funext fun row =>
    Tx.applyToRow_of_not_mem (by simp [hprogress.released])
  rw [InventoryDb.commit, hprogress.inserted, hkeep, List.map_id]

theorem Progress.reservedBy {db : InventoryDb} {call : ReserveCall}
    {loop : ReserveLoop} (hprogress : Progress db call
      (sortedItems call.items) (sortedItems call.items) loop) :
    ReservedBy db call (db.commit loop.tx) where
  products productId := by
    rw [InventoryDb.product?_commit]
    cases hfound : db.product? productId with
    | none => rfl
    | some product =>
        have hid : product.id = productId := by
          simpa using List.find?_some hfound
        have hbalance := hprogress.balance productId
        rw [requested_perm (perm_sortedItems call.items)] at hbalance
        simp only [Tx.available?, InventoryDb.available?, hfound,
          Option.map_some, Option.some.injEq] at hbalance
        simp [Tx.applyToProduct, hid, hbalance]
  catalog := by
    simp [InventoryDb.commit, Tx.applyToProduct, Function.comp_def]
  reservations := by
    refine ⟨call.rows (sortedItems call.items), ?_, ?_⟩
    · exact hprogress.reservations_commit
    · rw [call.map_line_rows]
      exact (perm_sortedItems call.items).map _

theorem reserveBody_reservedBy {db : InventoryDb} {call : ReserveCall}
    (hsuccess : (reserveBody db call).2.success = true) :
    ReservedBy db call (reserveBody db call).1 := by
  obtain ⟨loop, hprogress, hcommitted⟩ := reserveBody_success hsuccess
  rw [hcommitted]
  exact hprogress.reservedBy

/-! ## `reserve_stock` with a key that is not active -/

theorem mem_activeForKey_iff {db : InventoryDb} {key : CharField128}
    {row : StockReservation} :
    row ∈ db.activeForKey key ↔ row ∈ db.reservations ∧
      row.idempotencyKey = key ∧ row.status = .reserved := by
  simp [InventoryDb.activeForKey]

theorem hasActive_eq_false_of_activeForKey {db : InventoryDb}
    {key : CharField128} (hinactive : db.activeForKey key = [])
    (productId : ℤ) : db.hasActive key productId = false := by
  rw [InventoryDb.hasActive, List.any_eq_false]
  intro row hrow hmatch
  obtain ⟨hkey, _, hstatus⟩ := of_decide_eq_true hmatch
  have hmem : row ∈ db.activeForKey key :=
    mem_activeForKey_iff.mpr ⟨hrow, hkey, hstatus⟩
  rw [hinactive] at hmem
  exact List.not_mem_nil hmem

/-- A key with active rows is answered with them. -/
theorem replay?_active {db : InventoryDb} {key : CharField128}
    (hkey : key ≠ .empty) (hactive : db.activeForKey key ≠ []) :
    replay? db key = some ⟨true, (priorReservations db key).map fun row =>
      ⟨row.productId, true, ""⟩⟩ := by
  have hperm : (priorReservations db key).Perm (db.activeForKey key) :=
    List.perm_insertionSort _ _
  rw [replay?, if_neg hkey]
  cases hprior : priorReservations db key with
  | nil =>
      rw [hprior] at hperm
      exact absurd hperm.symm.eq_nil hactive
  | cons row rows => rfl

/-- A replay is a success. -/
theorem replay?_success {db : InventoryDb} {key : CharField128}
    {outcome : ReservationOutcome} (hreplay : replay? db key = some outcome) :
    outcome.success = true := by
  rw [replay?] at hreplay
  by_cases hempty : key = .empty
  · simp [hempty] at hreplay
  rw [if_neg hempty] at hreplay
  cases hprior : priorReservations db key with
  | nil => simp [hprior] at hreplay
  | cons row rows =>
      rw [hprior] at hreplay
      exact Option.some.inj hreplay ▸ rfl

theorem replay?_eq_none_iff (db : InventoryDb) (key : CharField128) :
    replay? db key = none ↔ (key ≠ .empty → db.activeForKey key = []) := by
  by_cases hkey : key = .empty
  · simp [replay?, hkey]
  by_cases hactive : db.activeForKey key = []
  · simp [replay?, priorReservations, hkey, hactive]
  · simp [replay?_active hkey hactive, hkey, hactive]

theorem reserveStock_eq_body {db : InventoryDb} {call : ReserveCall}
    (hitems : call.items ≠ [])
    (hkey : call.idempotencyKey ≠ .empty →
      db.activeForKey call.idempotencyKey = []) :
    reserveStock db call = reserveBody db call := by
  rw [reserveStock, if_neg hitems, (replay?_eq_none_iff _ _).mpr hkey]

/-- A keyed request succeeds when it is feasible and names no product twice. -/
theorem reserveStock_success_iff {db : InventoryDb} {call : ReserveCall}
    (hitems : call.items ≠ []) (hkey : call.idempotencyKey ≠ .empty)
    (hinactive : db.activeForKey call.idempotencyKey = []) :
    (reserveStock db call).2.success = true ↔
      Feasible db call.items ∧
        (call.items.map ReserveItem.productId).Nodup := by
  rw [reserveStock_eq_body hitems fun _ => hinactive]
  constructor
  · intro hsuccess
    exact ⟨reserveBody_feasible hsuccess,
      reserveBody_keyed_nodup hsuccess hkey⟩
  · rintro ⟨hfeasible, hnodup⟩
    exact reserveBody_of_feasible hfeasible fun _ => ⟨hnodup, fun item _ =>
      hasActive_eq_false_of_activeForKey hinactive item.productId⟩

end OrderFlow.Inventory
