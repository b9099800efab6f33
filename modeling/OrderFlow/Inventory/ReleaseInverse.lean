import OrderFlow.Inventory.Breakdown
import OrderFlow.Inventory.History

/-!
# Release undoes reserve

The release of an order that holds the rows of a reservation gives back what
the reservation took, marks its rows and touches nothing else.  After it the
order and its key are as free as before the reservation.
-/

namespace OrderFlow.Inventory

/-! ## A call for an order and a key that hold nothing -/

/-- Nothing is RESERVED for the order, and the key, if any, is not active. -/
structure Vacant (orderRef key : CharField128) (db : InventoryDb) : Prop where
  order : db.reservedForOrder orderRef = []
  key : key ≠ .empty → db.activeForKey key = []

/-- The rule of a first call: it succeeds when the totals are covered and a
keyed request names no product twice, with exactly the requested effect, and
otherwise changes nothing. -/
structure ReservesAfresh (db : InventoryDb) (call : ReserveCall) : Prop where
  success_iff : (reserveStock db call).2.success = true ↔
    Feasible db call.items ∧ (call.idempotencyKey ≠ .empty →
      (call.items.map ReserveItem.productId).Nodup)
  reserved : (reserveStock db call).2.success = true →
    ReservedBy db call (reserveStock db call).1
  refused : (reserveStock db call).2.success = false →
    (reserveStock db call).1 = db

theorem Vacant.reservesAfresh {db : InventoryDb} {call : ReserveCall}
    (hvacant : Vacant call.orderRef call.idempotencyKey db)
    (hitems : call.items ≠ []) : ReservesAfresh db call := by
  have hbody := reserveStock_eq_body hitems hvacant.key
  constructor
  · rw [hbody]
    constructor
    · exact fun hsuccess =>
        ⟨reserveBody_feasible hsuccess, reserveBody_keyed_nodup hsuccess⟩
    · rintro ⟨hfeasible, hnodup⟩
      exact reserveBody_of_feasible hfeasible fun hkey =>
        ⟨hnodup hkey, fun item _ => hasActive_eq_false_of_activeForKey
          (hvacant.key hkey) item.productId⟩
  · rw [hbody]
    exact reserveBody_reservedBy
  · exact reserveStock_failed

/-- What a successful call leaves for a vacant order. -/
theorem Vacant.reserved {db : InventoryDb} {call : ReserveCall}
    (hvacant : Vacant call.orderRef call.idempotencyKey db)
    (hsuccess : (reserveStock db call).2.success = true) :
    (reserveStock db call).1.reservedForOrder call.orderRef =
        call.rows (sortedItems call.items) ∧
      (call.idempotencyKey ≠ .empty →
        (reserveStock db call).1.activeForKey call.idempotencyKey =
          call.rows (sortedItems call.items)) ∧
      call.items ≠ [] := by
  have hitems : call.items ≠ [] := by
    intro hempty
    rw [reserveStock, if_pos hempty] at hsuccess
    exact Bool.false_ne_true hsuccess
  rw [reserveStock_eq_body hitems hvacant.key] at hsuccess ⊢
  obtain ⟨loop, hprogress, hcommit⟩ := reserveBody_success hsuccess
  rw [hcommit, hprogress.reservedForOrder, hvacant.order, List.nil_append]
  refine ⟨rfl, fun hkey => ?_, hitems⟩
  rw [hprogress.activeForKey, hvacant.key hkey, List.nil_append]

/-! ## The effect of a release on the tables -/

theorem InventoryDb.commit_start (db : InventoryDb) : db.commit .start = db := by
  have hproduct : Tx.start.applyToProduct = id := rfl
  have hrow : Tx.start.applyToRow = id :=
    funext fun row => Tx.applyToRow_of_not_mem List.not_mem_nil
  rw [commit, hproduct, hrow, List.map_id, List.map_id]
  exact congrArg (InventoryDb.mk db.products) (List.append_nil _)

/-- A release that finds nothing changes nothing. -/
theorem releaseStock_of_nil {db : InventoryDb} {orderRef : CharField128}
    (hnone : db.reservedForOrder orderRef = []) :
    releaseStock db orderRef = (db, ⟨false, 0⟩) := by
  rw [releaseStock, hnone]
  exact Prod.ext db.commit_start rfl

theorem product?_releaseStock (db : InventoryDb) (orderRef : CharField128)
    (productId : ℤ) :
    (releaseStock db orderRef).1.product? productId =
      (db.product? productId).map fun product =>
        { product with
          availableQuantity := product.availableQuantity +
            quantityOf (db.reservedForOrder orderRef) productId } := by
  have havailable := available?_releaseStock db orderRef productId
  rw [InventoryDb.available?, InventoryDb.available?] at havailable
  rw [releaseStock, releaseBody, InventoryDb.product?_commit] at havailable ⊢
  cases hfound : db.product? productId with
  | none => rfl
  | some product =>
      simp only [hfound, Option.map_some, Option.some.injEq] at havailable ⊢
      rw [← havailable]
      rfl

/-- The RESERVED rows of the order, and no others, become RELEASED. -/
theorem reservations_releaseStock {db : InventoryDb}
    (hids : (db.reservations.map StockReservation.id).Nodup)
    (orderRef : CharField128) :
    (releaseStock db orderRef).1.reservations =
      db.reservations.map fun row =>
        if row.orderRef = orderRef ∧ row.status = .reserved then
          { row with status := .released }
        else row := by
  rw [releaseStock, reservations_releaseBody]
  apply List.map_congr_left
  intro row hrow
  have hmem : row.id ∈ (releaseLoop db .start
      (orderByProductId (db.reservedForOrder orderRef))).released ↔
        row.orderRef = orderRef ∧ row.status = .reserved := by
    rw [mem_released_iff, mem_map_releaseRows]
    constructor
    · intro hid
      obtain ⟨other, hother, hsame⟩ := List.mem_map.mp hid
      obtain ⟨hmem, hfields⟩ := mem_reservedForOrder_iff.mp hother
      rwa [← List.inj_on_of_nodup_map hids hmem hrow hsame]
    · exact fun hfields => List.mem_map_of_mem
        (mem_reservedForOrder_iff.mpr ⟨hrow, hfields⟩)
  rw [Tx.applyToRow]
  simp only [hmem]

/-! ## The inverse -/

/-- The release of an order that holds the lines of `call`, on tables that
other orders may have changed since.  Repeated it is a no-op, and the same
reservation can be made afresh. -/
structure Undoes (db : InventoryDb) (call : ReserveCall) : Prop where
  answer : (releaseStock db call.orderRef).2 = ⟨true, call.items.length⟩
  products : ∀ productId,
    (releaseStock db call.orderRef).1.product? productId =
      (db.product? productId).map fun product =>
        { product with
          availableQuantity :=
            product.availableQuantity + requested call.items productId }
  catalog : (releaseStock db call.orderRef).1.products.map
      (fun product => (product.id, product.sku, product.name)) =
    db.products.map fun product => (product.id, product.sku, product.name)
  reservations : (releaseStock db call.orderRef).1.reservations =
    db.reservations.map fun row =>
      if row.orderRef = call.orderRef ∧ row.status = .reserved then
        { row with status := .released }
      else row
  again : releaseStock (releaseStock db call.orderRef).1 call.orderRef =
    ((releaseStock db call.orderRef).1, ⟨false, 0⟩)
  afresh : ∀ number clock, ReservesAfresh (releaseStock db call.orderRef).1
    { call with number := number, clock := clock }

theorem undoes_of_reserved {db : InventoryDb} {call : ReserveCall}
    (hids : (db.reservations.map StockReservation.id).Nodup)
    (hitems : call.items ≠ [])
    (horder : db.reservedForOrder call.orderRef =
      call.rows (sortedItems call.items))
    (hkey : call.idempotencyKey ≠ .empty →
      db.activeForKey call.idempotencyKey =
        call.rows (sortedItems call.items)) : Undoes db call := by
  have hperm := perm_sortedItems call.items
  have hlength : (orderByProductId
      (db.reservedForOrder call.orderRef)).length = call.items.length := by
    rw [(perm_orderByProductId _).length_eq, horder, call.length_rows,
      hperm.length_eq]
  have hnone := reservedForOrder_releaseStock db call.orderRef
  have hvacant : Vacant call.orderRef call.idempotencyKey
      (releaseStock db call.orderRef).1 := by
    refine ⟨hnone, fun hkeyed => activeForKey_releaseStock_own ?_⟩
    rw [hkey hkeyed]
    intro row hrow
    obtain ⟨item, _, line, rfl⟩ := ReserveCall.mem_rows hrow
    rfl
  refine
    { answer := ?_
      products := fun productId => ?_
      catalog := ?_
      reservations := reservations_releaseStock hids call.orderRef
      again := releaseStock_of_nil hnone
      afresh := fun number clock => @Vacant.reservesAfresh _
        { call with number := number, clock := clock } hvacant hitems }
  · rw [releaseStock, releaseBody, hlength]
    refine congrArg₂ ReleaseOutcome.mk (decide_eq_true fun hempty => ?_) rfl
    rw [hempty] at hlength
    exact hitems (List.length_eq_zero_iff.mp hlength.symm)
  · rw [product?_releaseStock, horder, call.quantityOf_rows,
      requested_perm hperm]
  · simp [releaseStock, releaseBody, InventoryDb.commit, Tx.applyToProduct,
      Function.comp_def]

end OrderFlow.Inventory
