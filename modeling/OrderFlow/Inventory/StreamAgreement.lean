import OrderFlow.Inventory.BulkRuns

/-!
# One transaction or one per line

The unary call sorts its lines and takes them in one transaction, the stream
takes them as they arrive, one transaction each.  Both are the same greedy
check against decreasing balances, which succeeds on every line exactly when
the totals are covered, whatever the order.
-/

namespace OrderFlow.Inventory

open InventoryServicer

/-! ## The greedy check -/

/-- Every balance has dropped by what `items` request of it. -/
def Spends (db : InventoryDb) (items : List ReserveItem)
    (after : InventoryDb) : Prop :=
  ∀ productId, after.available? productId =
    (db.available? productId).map fun available =>
      available - requested items productId

theorem Spends.nil (db : InventoryDb) : Spends db [] db := by
  intro productId
  simp [requested]

theorem requested_append (first second : List ReserveItem) (productId : ℤ) :
    requested (first ++ second) productId =
      requested first productId + requested second productId :=
  groupedSum.append ReserveItem.productId ReserveItem.quantity first second
    productId

theorem requested_cons (item : ReserveItem) (items : List ReserveItem)
    (productId : ℤ) : requested (item :: items) productId =
      requested [item] productId + requested items productId :=
  requested_append [item] items productId

theorem requested_singleton_self (item : ReserveItem) :
    requested [item] item.productId = item.quantity := by
  simp [requested, groupedSum.cons]

theorem Spends.append {db next after : InventoryDb}
    {first second : List ReserveItem} (hfirst : Spends db first next)
    (hsecond : Spends next second after) :
    Spends db (first ++ second) after := by
  intro productId
  rw [hsecond, hfirst, Option.map_map]
  congr 1
  funext available
  rw [requested_append]
  exact sub_sub available _ _

/-- The first line of a request that fits is reserved. -/
theorem Feasible.head {db : InventoryDb} {item : ReserveItem}
    {items : List ReserveItem} (hfeasible : Feasible db (item :: items)) :
    (verdict (db.available? item.productId) item).reserved = true := by
  obtain ⟨hpositive, available, havailable, hcovered⟩ :=
    hfeasible item List.mem_cons_self
  have hrest : 0 ≤ requested items item.productId :=
    groupedSum.nonneg (fun other hother =>
      (hfeasible other (List.mem_cons_of_mem item hother)).1.le) _
  rw [requested_cons, requested_singleton_self] at hcovered
  exact (verdict_reserved_iff _ _).mpr
    ⟨hpositive, available, havailable, by omega⟩

/-- The other lines fit what the first one leaves. -/
theorem Feasible.tail {db after : InventoryDb} {item : ReserveItem}
    {items : List ReserveItem} (hfeasible : Feasible db (item :: items))
    (hspends : Spends db [item] after) : Feasible after items := by
  intro other hother
  obtain ⟨hquantity, available, havailable, hcovered⟩ :=
    hfeasible other (List.mem_cons_of_mem item hother)
  rw [requested_cons] at hcovered
  refine ⟨hquantity, available - requested [item] other.productId, ?_,
    by omega⟩
  rw [hspends, havailable]
  rfl

/-- A line that is reserved, before lines that fit what it leaves. -/
theorem Feasible.cons {db after : InventoryDb} {item : ReserveItem}
    {items : List ReserveItem}
    (hreserved : (verdict (db.available? item.productId) item).reserved = true)
    (hspends : Spends db [item] after) (hfeasible : Feasible after items) :
    Feasible db (item :: items) := by
  obtain ⟨hpositive, available, havailable, henough⟩ :=
    (verdict_reserved_iff _ _).mp hreserved
  have htail : ∀ other ∈ items, ∃ stock,
      db.available? other.productId = some stock ∧
        requested (item :: items) other.productId ≤ stock := by
    intro other hother
    obtain ⟨_, left, hleft, hcovered⟩ := hfeasible other hother
    rw [hspends, Option.map_eq_some_iff] at hleft
    obtain ⟨stock, hstock, rfl⟩ := hleft
    refine ⟨stock, hstock, ?_⟩
    rw [requested_cons]
    omega
  intro other hother
  rcases List.mem_cons.mp hother with rfl | hlater
  · refine ⟨hpositive, available, havailable, ?_⟩
    by_cases hagain : ∃ same ∈ items, same.productId = other.productId
    · -- a later line for the same product has checked the total already
      obtain ⟨same, hsame, hproduct⟩ := hagain
      obtain ⟨stock, hstock, hcovered⟩ := htail same hsame
      rw [hproduct] at hstock hcovered
      rwa [Option.some.inj (havailable.symm.trans hstock)]
    · have hnone : requested items other.productId = 0 :=
        groupedSum.eq_zero_of_forall_ne fun same hsame hproduct =>
          hagain ⟨same, hsame, hproduct⟩
      rw [requested_cons, requested_singleton_self, hnone, add_zero]
      exact henough
  · exact ⟨(hfeasible other hlater).1, htail other hlater⟩

/-! ## The stream -/

/-- The items of a stream. -/
def streamedItems (lines : List StreamedLine) : List ReserveItem :=
  lines.map fun line => line.item.reserveItem

theorem bulkLine_verdict {db : InventoryDb} {line : StreamedLine}
    (horder : line.item.orderRef ≠ .empty) :
    (bulkLine db line).2.reserved =
      (verdict (db.available? line.item.productId)
        line.item.reserveItem).reserved := by
  rw [bulkLine_outcome, BulkReserveItem.outcome, if_neg horder]

/-- Every line of a stream is reserved when its totals are covered. -/
theorem runLines_reserved_iff {db : InventoryDb} {lines : List StreamedLine}
    (horders : ∀ line ∈ lines, line.item.orderRef ≠ .empty) :
    (∀ outcome ∈ (runLines db lines).2, outcome.reserved = true) ↔
      Feasible db (streamedItems lines) := by
  induction lines generalizing db with
  | nil => simp [runLines, streamedItems, Feasible]
  | cons line lines ih =>
      have hverdict := @bulkLine_verdict db _
        (horders line List.mem_cons_self)
      rw [runLines, List.forall_mem_cons, ih fun other hother =>
        horders other (List.mem_cons_of_mem line hother)]
      constructor
      · rintro ⟨hreserved, hrest⟩
        exact hrest.cons (hverdict ▸ hreserved)
          (bulkLine_reserved hreserved).available
      · intro hfeasible
        have hreserved : (bulkLine db line).2.reserved = true :=
          hverdict.trans hfeasible.head
        exact ⟨hreserved,
          hfeasible.tail (bulkLine_reserved hreserved).available⟩

/-- What a stream whose lines were all reserved has taken. -/
theorem runLines_allReserved {db : InventoryDb} {lines : List StreamedLine}
    (hreserved : ∀ outcome ∈ (runLines db lines).2, outcome.reserved = true) :
    Spends db (streamedItems lines) (runLines db lines).1 ∧
      ∃ added, (runLines db lines).1.reservations = db.reservations ++ added ∧
        added.map StockReservation.line = lines.map fun line =>
          line.item.reserveItem.line line.item.orderRef .empty := by
  induction lines generalizing db with
  | nil => exact ⟨Spends.nil db, [], (List.append_nil _).symm, rfl⟩
  | cons line lines ih =>
      rw [runLines, List.forall_mem_cons] at hreserved
      obtain ⟨hhead, htail⟩ := hreserved
      have htaken := bulkLine_reserved hhead
      obtain ⟨hspends, added, hrows, hlines⟩ := ih htail
      refine ⟨@Spends.append _ _ _ [line.item.reserveItem] _
        htaken.available hspends, line.row db :: added, ?_, ?_⟩
      · rw [runLines, hrows, htaken.reservations, List.append_assoc]
        rfl
      · rw [List.map_cons, List.map_cons, hlines, line.line_row]

/-! ## Agreement -/

/-- The RESERVED rows, as what they record. -/
def InventoryDb.reservedLines (db : InventoryDb) : List ReservedLine :=
  (db.reservations.filter fun row => row.status = .reserved).map
    StockReservation.line

theorem InventoryDb.reservedLines_append {db after : InventoryDb}
    {added : List StockReservation}
    (hrows : after.reservations = db.reservations ++ added)
    (hstatus : ∀ line ∈ added.map StockReservation.line,
      line.status = .reserved) :
    after.reservedLines =
      db.reservedLines ++ added.map StockReservation.line := by
  have hall : (added.filter fun row => row.status = .reserved) = added := by
    apply List.filter_eq_self.mpr
    intro row hrow
    exact decide_eq_true (hstatus _ (List.mem_map_of_mem hrow))
  rw [reservedLines, hrows, List.filter_append, List.map_append, hall]
  rfl

/-- The stream of a list of items under one order. -/
def StreamOf (orderRef : CharField128) (items : List ReserveItem)
    (lines : List StreamedLine) : Prop :=
  lines.map StreamedLine.item =
    items.map fun item => ⟨orderRef, item.productId, item.quantity⟩

theorem StreamOf.orderRef {orderRef : CharField128}
    {items : List ReserveItem} {lines : List StreamedLine}
    (hstream : StreamOf orderRef items lines) :
    ∀ line ∈ lines, line.item.orderRef = orderRef := by
  intro line hline
  have hmem : line.item ∈ lines.map StreamedLine.item :=
    List.mem_map_of_mem hline
  rw [hstream] at hmem
  obtain ⟨item, _, hitem⟩ := List.mem_map.mp hmem
  rw [← hitem]

theorem StreamOf.lines {orderRef : CharField128} {items : List ReserveItem}
    {lines : List StreamedLine} (hstream : StreamOf orderRef items lines) :
    (lines.map fun line =>
        line.item.reserveItem.line line.item.orderRef .empty) =
      items.map fun item => item.line orderRef .empty := by
  calc (lines.map fun line =>
        line.item.reserveItem.line line.item.orderRef .empty)
      = (lines.map StreamedLine.item).map fun item =>
          item.reserveItem.line item.orderRef .empty := by
        rw [List.map_map]
        rfl
    _ = items.map fun item => item.line orderRef .empty := by
        rw [hstream, List.map_map]
        rfl

theorem StreamOf.streamedItems {orderRef : CharField128}
    {items : List ReserveItem} {lines : List StreamedLine}
    (hstream : StreamOf orderRef items lines) : streamedItems lines = items := by
  calc Inventory.streamedItems lines
      = (lines.map StreamedLine.item).map BulkReserveItem.reserveItem := by
        rw [List.map_map]
        rfl
    _ = items.map id := by
        rw [hstream, List.map_map]
        rfl
    _ = items := List.map_id items

/-- The unary answer and the streamed one, on the same tables. -/
structure Agree (unary : InventoryDb × ReservationOutcome)
    (stream : InventoryDb × BulkReserveSummary) : Prop where
  success_iff : unary.2.success = true ↔
    ∀ outcome ∈ stream.2.results, outcome.reserved = true
  available : unary.2.success = true → ∀ productId,
    unary.1.available? productId = stream.1.available? productId
  rows : unary.2.success = true →
    unary.1.reservedLines.Perm stream.1.reservedLines

/-- A keyless unary call and the stream of its lines, in any order, agree. -/
theorem unary_agrees_with_stream (db : InventoryDb) {orderRef : CharField128}
    (horder : orderRef ≠ .empty) {items permuted : List ReserveItem}
    (hitems : items ≠ []) (hperm : permuted.Perm items) (clock : ℕ → ℕ)
    {lines : List StreamedLine} (hstream : StreamOf orderRef permuted lines) :
    Agree (ReserveStockRequest.submit ⟨orderRef, items, .empty⟩ db clock)
      (reserveStockBulk lines db) := by
  have hbody : ReserveStockRequest.submit ⟨orderRef, items, .empty⟩ db clock =
      reserveBody db (ReserveStockRequest.toCall ⟨orderRef, items, .empty⟩ db
        clock) :=
    reserveStock_eq_body hitems fun hkey => absurd rfl hkey
  have hfeasible : (∀ outcome ∈ (runLines db lines).2,
      outcome.reserved = true) ↔ Feasible db items := by
    rw [runLines_reserved_iff fun line hline => by
      rw [hstream.orderRef line hline]; exact horder]
    rw [hstream.streamedItems]
    exact ⟨.perm hperm, .perm hperm.symm⟩
  have hiff : (reserveBody db (ReserveStockRequest.toCall
      ⟨orderRef, items, .empty⟩ db clock)).2.success = true ↔
        Feasible db items :=
    ⟨reserveBody_feasible, fun hfits =>
      reserveBody_of_feasible hfits fun hkey => absurd rfl hkey⟩
  rw [hbody, reserveStockBulk_eq]
  refine ⟨hiff.trans hfeasible.symm, fun hsuccess productId => ?_,
    fun hsuccess => ?_⟩
  · have hspends := (runLines_allReserved
      (hfeasible.mpr (hiff.mp hsuccess))).1 productId
    have hproduct := (reserveBody_reservedBy hsuccess).products productId
    rw [hspends, hstream.streamedItems, requested_perm hperm,
      InventoryDb.available?, InventoryDb.available?, hproduct,
      Option.map_map, Option.map_map]
    rfl
  · obtain ⟨_, streamed, hstreamed, hlines⟩ :=
      runLines_allReserved (hfeasible.mpr (hiff.mp hsuccess))
    obtain ⟨added, hadded, hrows⟩ :=
      (reserveBody_reservedBy hsuccess).reservations
    rw [hstream.lines] at hlines
    have hboth : (added.map StockReservation.line).Perm
        (streamed.map StockReservation.line) := by
      rw [hlines]
      exact hrows.trans (hperm.map _).symm
    have hstatus : ∀ line ∈ streamed.map StockReservation.line,
        line.status = .reserved := by
      rw [hlines]
      intro line hline
      obtain ⟨item, _, rfl⟩ := List.mem_map.mp hline
      rfl
    rw [InventoryDb.reservedLines_append hadded fun line hline =>
        hstatus line (hboth.mem_iff.mp hline),
      InventoryDb.reservedLines_append hstreamed hstatus]
    exact hboth.append_left _

/-- All ten gizmos, and two lines for the same widget around them. -/
def gizmoStream : List StreamedLine :=
  [⟨⟨.ofText "order-1", 1, 3⟩, id⟩, ⟨⟨.ofText "order-1", 3, 10⟩, id⟩,
    ⟨⟨.ofText "order-1", 1, 2⟩, id⟩]

theorem unary_agrees_with_gizmoStream :
    Agree (ReserveStockRequest.submit
        ⟨.ofText "order-1", [⟨1, 2⟩, ⟨1, 3⟩, ⟨3, 10⟩], .empty⟩ seededDb id)
      (reserveStockBulk gizmoStream seededDb) :=
  @unary_agrees_with_stream seededDb _ (by decide) _
    [⟨1, 3⟩, ⟨3, 10⟩, ⟨1, 2⟩] (by decide) (by decide) id _ rfl

end OrderFlow.Inventory
