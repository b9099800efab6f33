import OrderFlow.Core.Regroup
import OrderFlow.Orders.BulkOrders

/-!
# What each stage of a batch computes

The stream carries the lines of the orders in order, the table regroups the
outcomes by order, the tally sorts the orders into three statuses, the commit
adds what is saved, and the releases are calls like those of any other client.
-/

namespace OrderFlow.Orders

open OrderFlow.Grpc
open OrderFlow.Inventory

/-! ## The stream -/

/-- The message of a line. -/
def lineMessage (line : CharField128 × ℤ × ℤ) : BulkReserveItem :=
  ⟨line.1, line.2.1, line.2.2⟩

theorem requestGen_of_fits {lines : List (CharField128 × ℤ × ℤ)}
    (hfits : ∀ line ∈ lines, InInt64 line.2.1 ∧ InInt32 line.2.2) :
    requestGen lines = (lines.map lineMessage, true) := by
  induction lines with
  | nil => rfl
  | cons line lines ih =>
      rw [List.forall_mem_cons] at hfits
      rw [requestGen, if_pos hfits.1, ih hfits.2]
      rfl

/-- Only a batch whose lines all fit comes to the end of the generator. -/
theorem fits_of_requestGen {lines : List (CharField128 × ℤ × ℤ)}
    (hend : (requestGen lines).2 = true) :
    ∀ line ∈ lines, InInt64 line.2.1 ∧ InInt32 line.2.2 := by
  induction lines with
  | nil => exact fun _ hline => absurd hline List.not_mem_nil
  | cons line lines ih =>
      rw [requestGen] at hend
      split_ifs at hend with hfits
      exact List.forall_mem_cons.mpr ⟨hfits, ih hend⟩

/-- The generator yields the messages of some first lines. -/
theorem requestGen_prefix (lines : List (CharField128 × ℤ × ℤ)) :
    (requestGen lines).1 <+: lines.map lineMessage := by
  induction lines with
  | nil => exact List.prefix_rfl
  | cons line lines ih =>
      rw [requestGen]
      split_ifs
      · exact List.prefix_cons_inj _ |>.mpr ih
      · exact List.nil_prefix

theorem Surroundings.items_arriving (surroundings : Surroundings) (sent : ℕ)
    (items : List BulkReserveItem) :
    (surroundings.arriving sent items).map (fun arriving =>
      arriving.line.item) = items := by
  induction items generalizing sent with
  | nil => rfl
  | cons item items ih => exact congrArg (item :: ·) (ih (sent + 1))

theorem Surroundings.others_arriving {surroundings : Surroundings}
    {sent : ℕ} {items : List BulkReserveItem} {arriving : ArrivingLine}
    (hmem : arriving ∈ surroundings.arriving sent items) :
    ∃ number, arriving.others = surroundings.beforeLine number := by
  induction items generalizing sent with
  | nil => exact absurd hmem List.not_mem_nil
  | cons item items ih =>
      rcases List.mem_cons.mp hmem with rfl | htail
      · exact ⟨sent, rfl⟩
      · exact ih htail

/-- The stream of the orders: an order after the other, line by line. -/
theorem BulkRequest.lines_flattened (request : BulkRequest) :
    (request.lines.map lineMessage).map (fun item =>
        (item.orderRef, (⟨item.productId, item.quantity⟩ : OrderItem))) =
      flattened Order.id Order.items request.orders := by
  rw [lines, flattened, List.map_map, List.map_flatMap]
  simp [lineMessage, Function.comp_def]

/-! ## Regrouping -/

/-- `ItemResultOut` of a streamed outcome. -/
def itemResultOut (outcome : BulkItemOutcome) : ItemOutcome :=
  ⟨outcome.productId, outcome.reserved, outcome.reason⟩

/-- The outcomes of one order, in the order of the stream. -/
def outcomesOf (results : List BulkItemOutcome) (orderRef : CharField128) :
    List ItemOutcome :=
  (selected BulkItemOutcome.orderRef results orderRef).map
    itemResultOut

theorem outcomesByRef_eq {refs : List CharField128}
    {results : List BulkItemOutcome}
    (hrefs : ∀ outcome ∈ results, outcome.orderRef ∈ refs) :
    outcomesByRef refs results = some (outcomesOf results) := by
  have hfold : ∀ (table : CharField128 → List ItemOutcome)
      (results : List BulkItemOutcome),
      (∀ outcome ∈ results, outcome.orderRef ∈ refs) →
      results.foldlM
        (fun table (r : BulkItemOutcome) =>
          if r.orderRef ∈ refs then
            some (Function.update table r.orderRef
              (table r.orderRef ++ [⟨r.productId, r.reserved, r.reason⟩]))
          else none)
        table = some fun orderRef => table orderRef ++ outcomesOf results orderRef := by
    intro table results
    induction results generalizing table with
    | nil => simp [outcomesOf, selected]
    | cons outcome results ih =>
        intro hall
        rw [List.forall_mem_cons] at hall
        rw [List.foldlM_cons, if_pos hall.1]
        refine (ih _ hall.2).trans ?_
        congr 1
        funext orderRef
        by_cases hsame : outcome.orderRef = orderRef
        · subst hsame
          simp [outcomesOf, selected, itemResultOut]
        · simp [outcomesOf, selected, hsame, Function.update_of_ne (Ne.symm hsame)]
  simpa [outcomesByRef] using hfold (fun _ => []) results hrefs

/-! ## The tally -/

/-- The status of an order with these outcomes. -/
def statusOf (items : List ItemOutcome) : BulkStatus :=
  if items ≠ [] ∧ items.all ItemOutcome.reserved then .persisted
  else if items.any ItemOutcome.reserved then .partlyReserved
  else .failed

theorem statusOf_persisted_iff {items : List ItemOutcome} (hitems : items ≠ []) :
    statusOf items = .persisted ↔ ∀ item ∈ items, item.reserved = true := by
  rw [statusOf]
  split_ifs with hall hany
  · simpa using hall.2
  · simpa [hitems] using hall
  · simpa [hitems] using hall

theorem statusOf_failed_iff {items : List ItemOutcome} (hitems : items ≠ []) :
    statusOf items = .failed ↔ ∀ item ∈ items, item.reserved = false := by
  rw [statusOf]
  split_ifs with hall hany
  · obtain ⟨item, hitem⟩ := List.exists_mem_of_ne_nil items hitems
    have hreserved := List.all_eq_true.mp hall.2 item hitem
    exact iff_of_false (by simp) fun hnone =>
      Bool.false_ne_true ((hnone item hitem).symm.trans hreserved)
  · obtain ⟨item, hitem, hreserved⟩ := List.any_eq_true.mp hany
    exact iff_of_false (by simp) fun hnone =>
      Bool.false_ne_true ((hnone item hitem).symm.trans hreserved)
  · simpa using hany

/-- The orders of a batch that come out with the status. -/
def withStatus (outcomes : CharField128 → List ItemOutcome)
    (status : BulkStatus) (orders : List Order) : List Order :=
  orders.filter fun order => statusOf (outcomes order.id) = status

/-- The result of an order. -/
def resultOf (outcomes : CharField128 → List ItemOutcome) (order : Order) :
    BulkOrderResult :=
  ⟨order.id, statusOf (outcomes order.id), outcomes order.id⟩

theorem foldl_tally (outcomes : CharField128 → List ItemOutcome)
    (tally : Tally) (orders : List Order) :
    orders.foldl (Tally.next outcomes) tally =
      ⟨tally.added ++ withStatus outcomes .persisted orders,
        tally.persistedCount + (withStatus outcomes .persisted orders).length,
        tally.strandedRefs ++
          (withStatus outcomes .partlyReserved orders).map Order.id,
        tally.results ++ orders.map (resultOf outcomes)⟩ := by
  induction orders generalizing tally with
  | nil => simp [withStatus]
  | cons order orders ih =>
      rw [List.foldl_cons, ih, Tally.next]
      have hresult : resultOf outcomes order =
          ⟨order.id, statusOf (outcomes order.id), outcomes order.id⟩ := rfl
      rw [List.map_cons, hresult]
      simp only [withStatus, List.filter_cons, statusOf]
      split_ifs <;> simp_all [Nat.add_assoc, Nat.add_comm]

/-! ## The commit -/

theorem insertAll?_of_fresh {orders : OrderDb} {added : List Order}
    (hnodup : (added.map Order.id).Nodup)
    (hfresh : ∀ order ∈ added, orders.get? order.id = none) :
    OrderDb.insertAll? orders added = some (orders ++ added) := by
  induction added generalizing orders with
  | nil => simp [OrderDb.insertAll?]
  | cons order rest ih =>
      rw [List.map_cons, List.nodup_cons] at hnodup
      rw [List.forall_mem_cons] at hfresh
      rw [OrderDb.insertAll?, OrderDb.insert?, if_pos hfresh.1,
        Option.bind_some, ih hnodup.2]
      · simp
      · intro other hother
        rw [OrderDb.get?_eq_none_iff]
        intro saved hsaved
        rcases List.mem_append.mp hsaved with hold | hnew
        · exact (OrderDb.get?_eq_none_iff _ _).mp (hfresh.2 other hother)
            saved hold
        · rw [List.mem_singleton.mp hnew]
          exact fun hsame => hnodup.1 (hsame ▸ List.mem_map_of_mem hother)

/-! ## The releases -/

theorem BulkRequest.id_ne_empty {request : BulkRequest} {order : Order}
    (horder : order ∈ request.orders) : order.id ≠ .empty := by
  obtain ⟨draw, hdraw, rfl⟩ := List.mem_mapIdx.mp horder
  intro hempty
  have hlength : (request.uuid draw).val.length = 0 :=
    congrArg (fun text : CharField128 => text.val.length) hempty
  rw [(request.uuid draw).property] at hlength
  exact absurd hlength (by decide)

section Releases

variable {surroundings : Surroundings} {faults : BulkFaults}
variable {db : InventoryDb} {orderRef : CharField128}

theorem releaseQuietly_eq (horder : orderRef ≠ .empty) :
    releaseQuietly surroundings faults db orderRef =
      if (faults.release orderRef).executed then
        (releaseStock (runCalls db (surroundings.beforeRelease orderRef))
          orderRef).1
      else runCalls db (surroundings.beforeRelease orderRef) := by
  rw [releaseQuietly, Grpc.call_fst, InventoryServicer.releaseStock_eq horder]

theorem releaseQuietly_ids_nodup
    (hids : (db.reservations.map StockReservation.id).Nodup)
    (horder : orderRef ≠ .empty) :
    ((releaseQuietly surroundings faults db orderRef).reservations.map
      StockReservation.id).Nodup := by
  have hbefore := runCalls_ids_nodup hids
    (surroundings.beforeRelease orderRef)
  rw [releaseQuietly_eq horder]
  split_ifs
  · rw [releaseStock_ids]
    exact hbefore
  · exact hbefore

/-- A release leaves the rows of every other order alone. -/
theorem reservedForOrder_releaseQuietly_other {other : CharField128}
    (hids : (db.reservations.map StockReservation.id).Nodup)
    (horder : orderRef ≠ .empty) (hne : orderRef ≠ other)
    (hothers : ∀ call ∈ surroundings.beforeRelease orderRef,
      call.ForOthers other) :
    (releaseQuietly surroundings faults db orderRef).reservedForOrder other =
      db.reservedForOrder other := by
  have hbefore := reservedForOrder_runCalls hids hothers
  rw [releaseQuietly_eq horder]
  split_ifs
  · rw [reservedForOrder_releaseStock_other (runCalls_ids_nodup hids _)
      hne.symm]
    exact hbefore
  · exact hbefore

theorem reservedForOrder_releases_other {refs : List CharField128}
    {other : CharField128}
    (hids : (db.reservations.map StockReservation.id).Nodup)
    (hrefs : ∀ orderRef ∈ refs, orderRef ≠ .empty) (hother : other ∉ refs)
    (hothers : ∀ orderRef, ∀ call ∈ surroundings.beforeRelease orderRef,
      call.ForOthers other) :
    (refs.foldl (releaseQuietly surroundings faults) db).reservedForOrder
      other = db.reservedForOrder other := by
  induction refs generalizing db with
  | nil => rfl
  | cons orderRef refs ih =>
      rw [List.forall_mem_cons] at hrefs
      rw [List.mem_cons, not_or] at hother
      rw [List.foldl_cons, ih (releaseQuietly_ids_nodup hids hrefs.1) hrefs.2
        hother.2]
      exact reservedForOrder_releaseQuietly_other hids hrefs.1
        (Ne.symm hother.1) (hothers orderRef)

/-- An order whose release was executed holds nothing at the end, whatever
became of the releases of the others. -/
theorem reservedForOrder_releases {refs : List CharField128}
    {own : CharField128}
    (hids : (db.reservations.map StockReservation.id).Nodup)
    (hrefs : ∀ orderRef ∈ refs, orderRef ≠ .empty) (hnodup : refs.Nodup)
    (hown : own ∈ refs) (hexecuted : (faults.release own).executed = true)
    (hothers : ∀ orderRef, ∀ call ∈ surroundings.beforeRelease orderRef,
      call.ForOthers own) :
    (refs.foldl (releaseQuietly surroundings faults) db).reservedForOrder
      own = [] := by
  induction refs generalizing db with
  | nil => exact absurd hown List.not_mem_nil
  | cons orderRef refs ih =>
      rw [List.forall_mem_cons] at hrefs
      rw [List.nodup_cons] at hnodup
      rw [List.foldl_cons]
      have hkept := @releaseQuietly_ids_nodup surroundings faults _ _ hids
        hrefs.1
      rcases List.mem_cons.mp hown with rfl | htail
      · rw [reservedForOrder_releases_other hkept hrefs.2 hnodup.1 hothers,
          releaseQuietly_eq hrefs.1, if_pos hexecuted]
        exact reservedForOrder_releaseStock _ own
      · exact ih hkept hrefs.2 hnodup.2 htail

end Releases

end OrderFlow.Orders
