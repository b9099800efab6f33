import OrderFlow.Inventory.IdempotencyKey
import OrderFlow.Orders.CreateOrder

/-!
# What a failed request leaves behind

Two databases and no common transaction: a request that fails half way has to
be repaired by the release.  The two results of this file say for which faults
that works, once for faults of the session after a successful reserve and once
for a reserve call whose answer is lost.
-/

namespace OrderFlow.Orders

open OrderFlow.Grpc
open OrderFlow.Inventory

/-- Inventory can serve the request: every total is covered, and no product is
named twice, which the unique index would reject. -/
def Reservable (request : CreateRequest) (db : InventoryDb) : Prop :=
  Feasible db request.reserveItems ∧
    (request.reserveItems.map ReserveItem.productId).Nodup

instance (request : CreateRequest) (db : InventoryDb) :
    Decidable (Reservable request db) :=
  inferInstanceAs (Decidable (_ ∧ _))

section Reserve

variable {request : CreateRequest} {db : InventoryDb}

theorem reserve_success_iff
    (hinactive : db.activeForKey request.orderRef = []) :
    (reserveStock db (request.call db)).2.success = true ↔
      Reservable request db :=
  reserveStock_success_iff request.reserveItems_ne request.orderRef_ne
    hinactive

/-- What a successful reserve of a fresh order has done. -/
structure Reserved (request : CreateRequest) (db after : InventoryDb) :
    Prop where
  rows : after.reservedForOrder request.orderRef =
    db.reservedForOrder request.orderRef ++
      (request.call db).rows (sortedItems request.reserveItems)
  available : ∀ productId, after.available? productId =
    (db.available? productId).map fun available =>
      available - requested request.reserveItems productId

theorem reserved_of_success
    (hinactive : db.activeForKey request.orderRef = [])
    (hsuccess : (reserveStock db (request.call db)).2.success = true) :
    Reserved request db (reserveStock db (request.call db)).1 := by
  rw [reserveStock_eq_body request.reserveItems_ne fun _ => hinactive]
    at hsuccess ⊢
  obtain ⟨loop, hprogress, hcommit⟩ := reserveBody_success hsuccess
  rw [hcommit]
  refine ⟨hprogress.reservedForOrder, fun productId => ?_⟩
  rw [InventoryDb.available?_commit, hprogress.balance,
    requested_perm (perm_sortedItems _)]
  rfl

theorem rows_ne_nil (request : CreateRequest) (db : InventoryDb) :
    (request.call db).rows (sortedItems request.reserveItems) ≠ [] := by
  have hlength :
      ((request.call db).rows (sortedItems request.reserveItems)).length =
        request.reserveItems.length := by
    rw [ReserveCall.length_rows, (perm_sortedItems _).length_eq]
  intro hempty
  rw [hempty] at hlength
  exact request.reserveItems_ne (List.length_eq_zero_iff.mp hlength.symm)

/-- Releasing a fresh order gives back exactly what it took. -/
theorem Reserved.available?_releaseStock {after : InventoryDb}
    (hreserved : Reserved request db after)
    (hnone : db.reservedForOrder request.orderRef = []) (productId : ℤ) :
    (releaseStock after request.orderRef).1.available? productId =
      db.available? productId := by
  have hheld : quantityOf (after.reservedForOrder request.orderRef) productId =
      requested request.reserveItems productId := by
    rw [hreserved.rows, hnone, List.nil_append,
      (request.call db).quantityOf_rows, requested_perm (perm_sortedItems _)]
  rw [Inventory.available?_releaseStock, hreserved.available, hheld,
    Option.map_map]
  cases db.available? productId with
  | none => rfl
  | some available => simp

end Reserve

/-! ## Faults after a successful reserve -/

/-- The two databases agree about a request that was fresh in `before`: it is
saved and its stock is RESERVED, or it is not saved and nothing is held. -/
def Reconciled (before after : World) (request : CreateRequest) : Prop :=
  (after.orders.get? request.orderRef ≠ none ∧
    WholeBatch request.orderRef request.orderRef request.reserveItems
      (after.inventory.reservedForOrder request.orderRef)) ∨
  (after.orders.get? request.orderRef = none ∧
    after.inventory.reservedForOrder request.orderRef = [] ∧
    ∀ productId, after.inventory.available? productId =
      before.inventory.available? productId)

theorem get?_concat {orders : OrderDb} {order : Order}
    (hfresh : orders.get? order.id = none) :
    OrderDb.get? (orders ++ [order]) order.id = some order := by
  rw [OrderDb.get?, List.find?_append]
  rw [OrderDb.get?] at hfresh
  rw [hfresh]
  simp

section Reconciled

variable {world : World} {request : CreateRequest}

theorem reconciled_unchanged
    (hfresh : world.orders.get? request.orderRef = none)
    (hnone : world.inventory.reservedForOrder request.orderRef = []) :
    Reconciled world world request :=
  .inr ⟨hfresh, hnone, fun _ => rfl⟩

/-- The stock is still held: the order has to be there. -/
theorem reconciled_reserved_iff {orders : OrderDb} {after : InventoryDb}
    (hreserved : Reserved request world.inventory after)
    (hnone : world.inventory.reservedForOrder request.orderRef = []) :
    Reconciled world ⟨orders, after⟩ request ↔
      orders.get? request.orderRef ≠ none := by
  have hrows : after.reservedForOrder request.orderRef =
      (request.call world.inventory).rows
        (sortedItems request.reserveItems) := by
    rw [hreserved.rows, hnone, List.nil_append]
  constructor
  · rintro (⟨hsaved, _⟩ | ⟨_, hempty, _⟩)
    · exact hsaved
    · exact absurd (hrows.symm.trans hempty) (rows_ne_nil request _)
  · intro hsaved
    refine .inl ⟨hsaved, ?_⟩
    change WholeBatch _ _ _ (after.reservedForOrder request.orderRef)
    rw [hrows]
    exact wholeBatch_rows (request.call world.inventory)

/-- The stock was given back: the order must not be there. -/
theorem reconciled_released_iff {orders : OrderDb} {after : InventoryDb}
    (hreserved : Reserved request world.inventory after)
    (hnone : world.inventory.reservedForOrder request.orderRef = []) :
    Reconciled world ⟨orders, (releaseStock after request.orderRef).1⟩
        request ↔
      orders.get? request.orderRef = none := by
  constructor
  · rintro (⟨_, hbatch⟩ | ⟨hunsaved, _⟩)
    · change WholeBatch _ _ _
        ((releaseStock after request.orderRef).1.reservedForOrder _) at hbatch
      rw [reservedForOrder_releaseStock] at hbatch
      exact absurd rfl (hbatch.ne_nil request.reserveItems_ne)
    · exact hunsaved
  · intro hunsaved
    exact .inr ⟨hunsaved, reservedForOrder_releaseStock after _,
      hreserved.available?_releaseStock hnone⟩

theorem get?_saved (hfresh : world.orders.get? request.orderRef = none) :
    OrderDb.get? (world.orders ++ [request.order]) request.orderRef =
      some request.order := by
  have hid : request.order.id = request.orderRef := rfl
  rw [← hid] at hfresh ⊢
  exact get?_concat hfresh

theorem get?_saved_iff {faults : Faults}
    (hfresh : world.orders.get? request.orderRef = none) :
    OrderDb.get? (if faults.saves then world.orders ++ [request.order]
      else world.orders) request.orderRef = none ↔ faults.saves = false := by
  cases faults.saves with
  | false => simpa using hfresh
  | true =>
      simp [get?_saved hfresh]

end Reconciled

/-- After a reserve and a fault in the session the databases agree exactly
when the release goes out for an order that was not saved, and for no other:
a commit that is durable must not be followed by one, one that is not must
be. -/
theorem reconciled_iff {world : World} {request : CreateRequest}
    {faults : Faults} (hreserve : faults.reserve = .answered)
    (hrelease : faults.release = .answered)
    (hfresh : world.orders.get? request.orderRef = none)
    (hnone : world.inventory.reservedForOrder request.orderRef = [])
    (hinactive : world.inventory.activeForKey request.orderRef = []) :
    Reconciled world (createOrder world request faults).1 request ↔
      (¬ request.Encodable ∨ ¬ Reservable request world.inventory ∨
        faults.raises = false ∨ faults.saves = faults.rollbackRaises) := by
  have hsuccess_iff := reserve_success_iff hinactive
  have hcase := createOrder_case world request faults
  generalize createOrder world request faults = result at hcase ⊢
  cases hcase with
  | existing order hexisting =>
      exact absurd (hfresh.symm.trans hexisting) (by simp)
  | notEncodable _ hencodable =>
      exact iff_of_true (reconciled_unchanged hfresh hnone) (.inl hencodable)
  | notAnswered error executed _ _ hfailed =>
      exact absurd (hreserve.symm.trans hfailed) (by simp)
  | rejected _ _ _ hfailed =>
      rw [reserveStock_failed hfailed]
      refine iff_of_true (reconciled_unchanged hfresh hnone) (.inr (.inl ?_))
      rw [← hsuccess_iff, hfailed]
      exact Bool.false_ne_true
  | persisted _ _ _ hsuccess hraises =>
      refine iff_of_true ?_ (.inr (.inr (.inl hraises)))
      rw [reconciled_reserved_iff (reserved_of_success hinactive hsuccess)
        hnone]
      simp [get?_saved hfresh]
  | rollbackFailed _ hencodable _ hsuccess hraises hrollback =>
      rw [reconciled_reserved_iff (reserved_of_success hinactive hsuccess)
        hnone, Ne, get?_saved_iff hfresh]
      simp [hencodable, hsuccess_iff.mp hsuccess, hraises, hrollback]
  | compensated _ hencodable _ hsuccess hraises hrollback =>
      rw [hrelease, Grpc.call_answered,
        InventoryServicer.releaseStock_eq request.orderRef_ne,
        reconciled_released_iff (reserved_of_success hinactive hsuccess)
          hnone, get?_saved_iff hfresh]
      simp [hencodable, hsuccess_iff.mp hsuccess, hraises, hrollback]

def freshWorld : World := ⟨[], seededDb⟩

/-- The commit is durable and the refresh after it raises: the order stays
and its stock is released. -/
theorem refreshFault_not_reconciled :
    freshWorld.orders.get? twoWidgets.orderRef = none ∧
      seededDb.reservedForOrder twoWidgets.orderRef = [] ∧
      seededDb.activeForKey twoWidgets.orderRef = [] ∧
      (createOrder freshWorld twoWidgets { refreshRaises := true }).1.orders =
        [twoWidgets.order] ∧
      (createOrder freshWorld twoWidgets
        { refreshRaises := true }).1.inventory.reservedForOrder
          twoWidgets.orderRef = [] ∧
      ¬ Reconciled freshWorld
        (createOrder freshWorld twoWidgets { refreshRaises := true }).1
        twoWidgets := by
  have hsaved : (createOrder freshWorld twoWidgets
      { refreshRaises := true }).1.orders = [twoWidgets.order] := by decide
  have hreleased : (createOrder freshWorld twoWidgets
      { refreshRaises := true }).1.inventory.reservedForOrder
        twoWidgets.orderRef = [] := by decide
  refine ⟨by decide, by decide, by decide, hsaved, hreleased, ?_⟩
  rintro (⟨_, hbatch⟩ | ⟨hunsaved, _⟩)
  · rw [hreleased] at hbatch
    exact hbatch.ne_nil twoWidgets.reserveItems_ne rfl
  · rw [hsaved] at hunsaved
    exact absurd hunsaved (by decide)

/-- A commit that fails is repaired. -/
theorem commitFault_reconciled :
    Reconciled freshWorld
      (createOrder freshWorld twoWidgets { commit := .notSaved }).1
      twoWidgets :=
  (reconciled_iff rfl rfl (by decide) (by decide) (by decide)).mpr
    (.inr (.inr (.inr (by decide))))

/-! ## A reserve call whose answer is lost -/

/-- Nothing was saved, and nothing is held for the order that was not held
before. -/
def StrandsNothing (before after : World) (orderRef : CharField128) : Prop :=
  after.orders = before.orders ∧
    ∀ row ∈ after.inventory.reservedForOrder orderRef,
      row ∈ before.inventory.reservedForOrder orderRef

theorem strandsNothing_lost_iff {world : World} {request : CreateRequest}
    (executed : Bool) :
    StrandsNothing world
        ⟨world.orders,
          if executed then
            (reserveStock world.inventory (request.call world.inventory)).1
          else world.inventory⟩ request.orderRef ↔
      (executed = false ∨
        world.inventory.activeForKey request.orderRef ≠ [] ∨
          ¬ Reservable request world.inventory) := by
  cases executed with
  | false => exact iff_of_true ⟨rfl, fun _ hrow => hrow⟩ (.inl rfl)
  | true =>
      simp only [if_true, Bool.true_eq_false, false_or]
      by_cases hinactive : world.inventory.activeForKey request.orderRef = []
      · cases hsuccess : (reserveStock world.inventory
            (request.call world.inventory)).2.success with
        | false =>
            rw [reserveStock_failed hsuccess]
            refine iff_of_true ⟨rfl, fun _ hrow => hrow⟩ (.inr ?_)
            rw [← reserve_success_iff hinactive, hsuccess]
            exact Bool.false_ne_true
        | true =>
            have hreservable := (reserve_success_iff hinactive).mp hsuccess
            refine iff_of_false ?_ (by simp [hinactive, hreservable])
            rintro ⟨_, hheld⟩
            have hrows := (reserved_of_success hinactive hsuccess).rows
            obtain ⟨row, hrow⟩ := List.exists_mem_of_ne_nil _
              (rows_ne_nil request world.inventory)
            -- the row is new, so it was not there before
            have hbefore := hheld row (by
              rw [hrows]
              exact List.mem_append_right _ hrow)
            obtain ⟨item, _, line, rfl⟩ := ReserveCall.mem_rows hrow
            exact request.call_unused world.inventory _
              (mem_reservedForOrder_iff.mp hbefore).1 rfl
      · have hreplayed : (reserveStock world.inventory
            (request.call world.inventory)).1 = world.inventory :=
          (reserveStock_replay request.reserveItems_ne request.orderRef_ne
            hinactive).1
        rw [hreplayed]
        exact iff_of_true ⟨rfl, fun _ hrow => hrow⟩ (.inl hinactive)

/-- The error path of the reserve call sends no release: it ends with the
HTTP error of the status, and is safe exactly when the server did not reserve
anything. -/
theorem lost_reserve_strands_iff {world : World} {request : CreateRequest}
    {faults : Faults} {error : RpcError} {executed : Bool}
    (hreserve : faults.reserve = .failed error executed)
    (hfresh : world.orders.get? request.orderRef = none)
    (hencodable : request.Encodable) :
    (createOrder world request faults).2 =
        .done (.http ⟨grpcToHttpStatus error.code,
          .text ("inventory unavailable: " ++ error.code.name)⟩) ∧
      (StrandsNothing world (createOrder world request faults).1
          request.orderRef ↔
        (executed = false ∨
          world.inventory.activeForKey request.orderRef ≠ [] ∨
            ¬ Reservable request world.inventory)) := by
  have hcase := createOrder_case world request faults
  generalize createOrder world request faults = result at hcase ⊢
  cases hcase with
  | existing order hexisting =>
      exact absurd (hfresh.symm.trans hexisting) (by simp)
  | notEncodable _ hnot => exact absurd hencodable hnot
  | rejected _ _ hanswered =>
      exact absurd (hreserve.symm.trans hanswered) (by simp)
  | persisted _ _ hanswered =>
      exact absurd (hreserve.symm.trans hanswered) (by simp)
  | rollbackFailed _ _ hanswered =>
      exact absurd (hreserve.symm.trans hanswered) (by simp)
  | compensated _ _ hanswered =>
      exact absurd (hreserve.symm.trans hanswered) (by simp)
  | notAnswered other ran _ _ hfailed =>
      obtain ⟨rfl, rfl⟩ := Delivery.failed.inj (hreserve.symm.trans hfailed)
      exact ⟨rfl, strandsNothing_lost_iff executed⟩

/-- Two widgets without a key, whose reserve call times out on the client
after the server has done its work. -/
def keylessWidgets : CreateRequest := { twoWidgets with idempotencyKey := none }

def timedOut (executed : Bool) : Faults :=
  { reserve := .failed ⟨.deadlineExceeded, "Deadline Exceeded"⟩ executed }

theorem keylessWidgets_stranded :
    freshWorld.orders.get? keylessWidgets.orderRef = none ∧
      keylessWidgets.Encodable ∧
      (createOrder freshWorld keylessWidgets (timedOut true)).2 =
        .done (.http ⟨504,
          .text "inventory unavailable: DEADLINE_EXCEEDED"⟩) ∧
      (createOrder freshWorld keylessWidgets
        (timedOut true)).1.inventory.reservedQuantity 1 = 2 ∧
      ¬ StrandsNothing freshWorld
        (createOrder freshWorld keylessWidgets (timedOut true)).1
        keylessWidgets.orderRef := by
  refine ⟨by decide, by decide, by decide, by decide, ?_⟩
  intro hnothing
  have hheld : (createOrder freshWorld keylessWidgets
      (timedOut true)).1.inventory.reservedForOrder keylessWidgets.orderRef =
        [⟨⟨1, 0⟩, 1, keylessWidgets.orderRef, keylessWidgets.orderRef, 2,
          .reserved, 0⟩] := by decide
  have hbefore := hnothing.2 _ (hheld ▸ List.mem_cons_self)
  exact List.not_mem_nil hbefore

/-- The same request is safe when it did not reach the server. -/
theorem keylessWidgets_notExecuted :
    StrandsNothing freshWorld
      (createOrder freshWorld keylessWidgets (timedOut false)).1
      keylessWidgets.orderRef :=
  (lost_reserve_strands_iff rfl (by decide) (by decide)).2.mpr (.inl rfl)

end OrderFlow.Orders
