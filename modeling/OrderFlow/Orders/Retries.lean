import OrderFlow.Inventory.IdempotencyKey
import OrderFlow.Orders.CreateOrder

/-!
# Retries with one idempotency key

A client sends the same payload with the same key again and again, each time
against other faults, while requests for other keys run in between.  Whatever
an attempt has left behind, a stranded reservation, a released one or a saved
order, the next attempt takes it up: one order at most, and stock taken once.
-/

namespace OrderFlow.Orders

open OrderFlow.Grpc
open OrderFlow.Inventory

/-! ## What inventory holds for a key -/

/-- Inventory-db as far as a request with this key and order is concerned. -/
structure Kept (key : CharField128) (items : List ReserveItem)
    (db : InventoryDb) : Prop where
  ids_nodup : (db.reservations.map StockReservation.id).Nodup
  rows : NoneOrWhole key key items db
  same : ∀ row ∈ db.reservations, row.status = .reserved →
    (row.orderRef = key ↔ row.idempotencyKey = key)

section Kept

variable {key : CharField128} {items : List ReserveItem} {db : InventoryDb}

/-- A reservation whose rows belong to the key and to the order, or to
neither. -/
theorem Kept.of_reserve (hkept : Kept key items db) {call : ReserveCall}
    (hcall : call.orderRef = key ↔ call.idempotencyKey = key)
    (hunused : ∀ row ∈ db.reservations, row.id.call ≠ call.number)
    (hrows : NoneOrWhole key key items (reserveStock db call).1) :
    Kept key items (reserveStock db call).1 where
  ids_nodup := reserveStock_ids_nodup hkept.ids_nodup hunused
  rows := hrows
  same row hrow hstatus := by
    rcases mem_reserveStock hrow with hold | ⟨item, _, line, rfl⟩
    · exact hkept.same row hold hstatus
    · exact hcall

/-- A reserve of the request leaves its batch whole. -/
theorem Kept.reserve (hkept : Kept key items db) (hkey : key ≠ .empty)
    {call : ReserveCall} (horder : call.orderRef = key)
    (hcallKey : call.idempotencyKey = key) (hitems : call.items = items)
    (hunused : ∀ row ∈ db.reservations, row.id.call ≠ call.number) :
    Kept key items (reserveStock db call).1 := by
  apply hkept.of_reserve (iff_of_true horder hcallKey) hunused
  rcases reserveStock_cases db call with
    hsame | ⟨_, hinactive, loop, hprogress, hcommit⟩
  · rw [hsame]
    exact hkept.rows
  · subst hcallKey hitems
    have hbatch := wholeBatch_rows call
    rw [horder] at hbatch
    right
    rw [hcommit, hprogress.activeForKey, hinactive hkey, List.nil_append]
    exact hbatch

theorem Kept.reserve_other (hkept : Kept key items db)
    {call : ReserveCall} (horder : call.orderRef ≠ key)
    (hcallKey : call.idempotencyKey ≠ key)
    (hunused : ∀ row ∈ db.reservations, row.id.call ≠ call.number) :
    Kept key items (reserveStock db call).1 := by
  apply hkept.of_reserve (iff_of_false horder hcallKey) hunused
  rw [NoneOrWhole, activeForKey_reserveStock_other hcallKey]
  exact hkept.rows

/-- Rows keep their order and key when they are released. -/
theorem Kept.of_release (hkept : Kept key items db) (orderRef : CharField128)
    (hrows : NoneOrWhole key key items (releaseStock db orderRef).1) :
    Kept key items (releaseStock db orderRef).1 where
  ids_nodup := by
    rw [releaseStock_ids]
    exact hkept.ids_nodup
  rows := hrows
  same row hrow hstatus := by
    obtain ⟨before, hbefore, horder, hkey, hreserved⟩ := mem_releaseBody hrow
    rw [horder, hkey]
    exact hkept.same before hbefore (hreserved hstatus)

theorem Kept.activeForKey_releaseStock (hkept : Kept key items db) :
    (releaseStock db key).1.activeForKey key = [] :=
  activeForKey_releaseStock_own fun _ hrow => hkept.rows.orderRef_eq hrow

theorem Kept.release_own (hkept : Kept key items db) :
    Kept key items (releaseStock db key).1 :=
  hkept.of_release key (.inl hkept.activeForKey_releaseStock)

theorem Kept.activeForKey_releaseStock_other (hkept : Kept key items db)
    {orderRef : CharField128} (horder : orderRef ≠ key) :
    (releaseStock db orderRef).1.activeForKey key =
      db.activeForKey key := by
  apply Inventory.activeForKey_releaseStock_other hkept.ids_nodup
  intro row hrow
  rw [hkept.rows.orderRef_eq hrow]
  exact horder.symm

theorem Kept.release_other (hkept : Kept key items db)
    {orderRef : CharField128} (horder : orderRef ≠ key) :
    Kept key items (releaseStock db orderRef).1 := by
  apply hkept.of_release orderRef
  rw [NoneOrWhole, hkept.activeForKey_releaseStock_other horder]
  exact hkept.rows

end Kept

/-! ## The two databases -/

/-- What holds of a key between any two requests. -/
structure Joint (key : CharField128) (items : List ReserveItem)
    (order : Order) (world : World) : Prop where
  inventory : Kept key items world.inventory
  orders : world.orders.filter (fun saved => saved.id = key) = [] ∨
    world.orders.filter (fun saved => saved.id = key) = [order] ∧
      WholeBatch key key items (world.inventory.activeForKey key)

theorem filter_of_unsaved {orders : OrderDb} {key : CharField128}
    (hunsaved : orders.get? key = none) :
    orders.filter (fun saved => saved.id = key) = [] := by
  rw [OrderDb.get?_eq_none_iff] at hunsaved
  rw [List.filter_eq_nil_iff]
  intro saved hsaved hid
  exact hunsaved saved hsaved (of_decide_eq_true hid)

theorem Joint.of_unsaved {key : CharField128} {items : List ReserveItem}
    {order : Order} {world : World}
    (hinventory : Kept key items world.inventory)
    (hunsaved : world.orders.get? key = none) :
    Joint key items order world where
  inventory := hinventory
  orders := .inl (filter_of_unsaved hunsaved)

/-- The order that a lookup of the key finds is the one order of the key. -/
theorem Joint.orders_of_get? {key : CharField128} {items : List ReserveItem}
    {order found : Order} {world : World} (hjoint : Joint key items order world)
    (hfound : world.orders.get? key = some found) :
    world.orders.filter (fun saved => saved.id = key) = [found] := by
  obtain ⟨hmem, hid⟩ := OrderDb.get?_eq_some hfound
  have hlisted : found ∈ world.orders.filter (fun saved => saved.id = key) :=
    List.mem_filter.mpr ⟨hmem, decide_eq_true hid⟩
  rcases hjoint.orders with hnone | ⟨hone, _⟩
  · rw [hnone] at hlisted
    exact absurd hlisted List.not_mem_nil
  · rw [hone] at hlisted ⊢
    rw [List.mem_singleton.mp hlisted]

/-! ## The client that retries -/

/-- One payload under one key. -/
structure Retry where
  payload : OrderCreate
  key : CharField128
  key_ne : key ≠ .empty

/-- What may happen to one attempt. -/
structure AttemptFaults where
  reserve : Delivery
  commitFails : Bool
  release : Delivery
  deriving DecidableEq

def AttemptFaults.toFaults (faults : AttemptFaults) : Faults where
  reserve := faults.reserve
  commit := if faults.commitFails then .notSaved else .none
  release := faults.release

namespace Retry

/-- One attempt; the uuid it would fall back to and the timestamps differ from
attempt to attempt. -/
def request (retry : Retry) (uuid : Uuid4) (clock : ℕ → ℕ) :
    CreateRequest where
  payload := retry.payload
  idempotencyKey := some retry.key
  uuid := uuid
  clock := clock

def items (retry : Retry) : List ReserveItem :=
  retry.payload.items.map OrderItemIn.toReserveItem

def order (retry : Retry) : Order where
  id := retry.key
  items := retry.payload.items.map fun item =>
    ⟨item.productId, item.quantity⟩

variable (retry : Retry) (uuid : Uuid4) (clock : ℕ → ℕ)

@[simp]
theorem request_orderRef :
    (retry.request uuid clock).orderRef = retry.key := by
  simp [request, CreateRequest.orderRef, retry.key_ne]

@[simp]
theorem request_order : (retry.request uuid clock).order = retry.order := by
  rw [CreateRequest.order, request_orderRef]
  rfl

end Retry

section Attempt

variable {retry : Retry} {world : World} {uuid : Uuid4} {clock : ℕ → ℕ}

theorem Kept.attempt {db : InventoryDb}
    (hkept : Kept retry.key retry.items db) (uuid : Uuid4) (clock : ℕ → ℕ) :
    Kept retry.key retry.items
      (reserveStock db ((retry.request uuid clock).call db)).1 :=
  hkept.reserve retry.key_ne (retry.request_orderRef uuid clock)
    (retry.request_orderRef uuid clock) rfl
    ((retry.request uuid clock).call_unused db)

/-- A success answer is worth the whole batch, also when it is a replay. -/
theorem Kept.attempt_success {db : InventoryDb}
    (hkept : Kept retry.key retry.items db)
    (hsuccess : (reserveStock db
      ((retry.request uuid clock).call db)).2.success = true) :
    WholeBatch retry.key retry.key retry.items ((reserveStock db
      ((retry.request uuid clock).call db)).1.activeForKey retry.key) := by
  rcases (hkept.attempt uuid clock).rows with hnone | hbatch
  · have hactive := activeForKey_ne_nil_of_success
      (retry.request uuid clock).orderRef_ne hsuccess
    rw [← retry.request_orderRef uuid clock] at hnone
    exact absurd hnone hactive
  · exact hbatch

/-- One attempt, whatever the faults, keeps the two databases in step, and an
order it returns is the one order of the key. -/
theorem Joint.attempt
    (hjoint : Joint retry.key retry.items retry.order world)
    (uuid : Uuid4) (clock : ℕ → ℕ) (faults : AttemptFaults) :
    Joint retry.key retry.items retry.order
        (createOrder world (retry.request uuid clock) faults.toFaults).1 ∧
      ∀ order, (createOrder world (retry.request uuid clock)
          faults.toFaults).2 = .done (.returned order) →
        (createOrder world (retry.request uuid clock)
          faults.toFaults).1.orders.filter
            (fun saved => saved.id = retry.key) = [order] := by
  have hreserved := hjoint.inventory.attempt uuid clock
  have hcase := createOrder_case world (retry.request uuid clock)
    faults.toFaults
  generalize createOrder world (retry.request uuid clock) faults.toFaults =
    result at hcase ⊢
  cases hcase with
  | existing found hexisting =>
      rw [retry.request_orderRef] at hexisting
      refine ⟨hjoint, ?_⟩
      rintro order hreturned
      obtain rfl := Exit.returned.inj (Phase.done.inj hreturned)
      exact hjoint.orders_of_get? hexisting
  | notEncodable hfresh hencodable =>
      exact ⟨hjoint, by simp⟩
  | notAnswered error executed hfresh =>
      rw [retry.request_orderRef] at hfresh
      refine ⟨.of_unsaved ?_ hfresh, by simp⟩
      cases executed with
      | true => exact hreserved
      | false => exact hjoint.inventory
  | rejected hfresh =>
      rw [retry.request_orderRef] at hfresh
      exact ⟨.of_unsaved hreserved hfresh, by simp⟩
  | persisted hfresh hencodable hanswered hsuccess hraises =>
      rw [retry.request_orderRef] at hfresh
      have hone : (world.orders ++ [retry.order]).filter
          (fun saved => saved.id = retry.key) = [retry.order] := by
        rw [List.filter_append, filter_of_unsaved hfresh]
        simp [Retry.order]
      rw [retry.request_order]
      refine ⟨⟨hreserved, .inr ⟨hone, ?_⟩⟩, ?_⟩
      · exact hjoint.inventory.attempt_success hsuccess
      · rintro order hreturned
        obtain rfl := Exit.returned.inj (Phase.done.inj hreturned)
        exact hone
  | rollbackFailed _ _ _ _ _ hrollback =>
      exact absurd hrollback Bool.false_ne_true
  | compensated hfresh _ _ _ hraises =>
      rw [retry.request_orderRef] at hfresh ⊢
      have hunsaved : faults.toFaults.saves = false := by
        revert hraises
        simp only [AttemptFaults.toFaults, Faults.raises, Faults.saves]
        cases faults.commitFails <;> simp
      refine ⟨.of_unsaved ?_ (by simpa [hunsaved] using hfresh), by simp⟩
      rcases call_state (InventoryServicer.releaseStock retry.key)
        faults.toFaults.release (reserveStock world.inventory
          ((retry.request uuid clock).call world.inventory)).1 with
        hsame | hreleased
      · rw [hsame]
        exact hreserved
      · rw [hreleased, InventoryServicer.releaseStock_eq retry.key_ne]
        exact hreserved.release_own

end Attempt

/-! ## Requests for other keys -/

section Others

variable {key : CharField128} {items : List ReserveItem} {order : Order}
variable {world : World}

/-- The key is out of reach: inventory keeps its rows as they are. -/
structure Untouched (key : CharField128) (items : List ReserveItem)
    (db after : InventoryDb) : Prop where
  kept : Kept key items after
  rows : after.activeForKey key = db.activeForKey key

theorem Untouched.refl {db : InventoryDb} (hkept : Kept key items db) :
    Untouched key items db db :=
  ⟨hkept, rfl⟩

theorem Untouched.trans {db middle after : InventoryDb}
    (hfirst : Untouched key items db middle)
    (hsecond : Untouched key items middle after) :
    Untouched key items db after :=
  ⟨hsecond.kept, hsecond.rows.trans hfirst.rows⟩

theorem Kept.untouched_reserve {db : InventoryDb}
    (hkept : Kept key items db) {message : ReserveStockRequest}
    (horder : message.orderRef ≠ key)
    (hkey : message.idempotencyKey ≠ key) (clock : ℕ → ℕ) :
    Untouched key items db (reserveStock db (message.toCall db clock)).1 where
  kept := hkept.reserve_other horder hkey db.call_ne_nextCall
  rows := activeForKey_reserveStock_other hkey

theorem Kept.untouched_release {db : InventoryDb}
    (hkept : Kept key items db) {orderRef : CharField128}
    (horder : orderRef ≠ key) :
    Untouched key items db (releaseStock db orderRef).1 where
  kept := hkept.release_other horder
  rows := hkept.activeForKey_releaseStock_other horder

theorem Joint.untouched (hjoint : Joint key items order world)
    {after : InventoryDb}
    (huntouched : Untouched key items world.inventory after)
    {orders : OrderDb}
    (horders : orders.filter (fun saved => saved.id = key) =
      world.orders.filter fun saved => saved.id = key) :
    Joint key items order ⟨orders, after⟩ where
  inventory := huntouched.kept
  orders := by
    change orders.filter _ = [] ∨ orders.filter _ = [order] ∧
      WholeBatch key key items (after.activeForKey key)
    rw [horders, huntouched.rows]
    exact hjoint.orders

theorem filter_save_other {orders : OrderDb} {saved : Order}
    (hother : saved.id ≠ key) :
    (orders ++ [saved]).filter (fun order => order.id = key) =
      orders.filter fun order => order.id = key := by
  simp [List.filter_append, hother]

/-- A whole `create_order` request for another key, with any faults. -/
theorem Joint.createOrder_other (hjoint : Joint key items order world)
    {request : CreateRequest} (hother : request.orderRef ≠ key)
    (faults : Faults) :
    Joint key items order (createOrder world request faults).1 := by
  have hreserved : Untouched key items world.inventory (reserveStock
      world.inventory (request.call world.inventory)).1 :=
    hjoint.inventory.untouched_reserve hother hother request.clock
  have hsaved : (if faults.saves then world.orders ++ [request.order]
      else world.orders).filter (fun saved => saved.id = key) =
        world.orders.filter fun saved => saved.id = key := by
    cases faults.saves with
    | true => exact filter_save_other hother
    | false => rfl
  have hcase := createOrder_case world request faults
  generalize createOrder world request faults = result at hcase ⊢
  cases hcase with
  | existing found hexisting => exact hjoint
  | notEncodable => exact hjoint
  | notAnswered error executed =>
      cases executed with
      | true => exact hjoint.untouched hreserved rfl
      | false => exact hjoint
  | rejected => exact hjoint.untouched hreserved rfl
  | persisted =>
      exact hjoint.untouched hreserved (filter_save_other hother)
  | rollbackFailed => exact hjoint.untouched hreserved hsaved
  | compensated =>
      refine hjoint.untouched ?_ hsaved
      rcases call_state (InventoryServicer.releaseStock request.orderRef)
        faults.release (reserveStock world.inventory
          (request.call world.inventory)).1 with hsame | hreleased
      · rw [hsame]
        exact hreserved
      · rw [hreleased,
          InventoryServicer.releaseStock_eq request.orderRef_ne]
        exact hreserved.trans (hreserved.kept.untouched_release hother)

end Others

/-! ## Any sequence of requests -/

/-- One request after the other: attempts with the key, and whatever else the
two services are asked for. -/
inductive Event where
  | attempt (uuid : Uuid4) (clock : ℕ → ℕ) (faults : AttemptFaults)
  | createOrder (request : CreateRequest) (faults : Faults)
  | reserveStock (message : ReserveStockRequest) (clock : ℕ → ℕ)
  | releaseStock (orderRef : CharField128)
  | saveOrder (order : Order)

def Event.apply (retry : Retry) (world : World) : Event → World
  | .attempt uuid clock faults =>
      (Orders.createOrder world (retry.request uuid clock) faults.toFaults).1
  | .createOrder request faults => (Orders.createOrder world request faults).1
  | .reserveStock message clock =>
      { world with
        inventory := (InventoryServicer.reserveStock message clock
          world.inventory).1 }
  | .releaseStock orderRef =>
      { world with
        inventory :=
          (InventoryServicer.releaseStock orderRef world.inventory).1 }
  | .saveOrder order =>
      { world with orders := (world.orders.insert? order).getD world.orders }

/-- Everything but the attempts is for other keys. -/
def Event.ForOthers (key : CharField128) : Event → Prop
  | .attempt _ _ _ => True
  | .createOrder request _ => request.orderRef ≠ key
  | .reserveStock message _ =>
      message.orderRef ≠ key ∧ message.idempotencyKey ≠ key
  | .releaseStock orderRef => orderRef ≠ key
  | .saveOrder order => order.id ≠ key

def runEvents (retry : Retry) (world : World) (events : List Event) : World :=
  events.foldl (Event.apply retry) world

theorem Joint.apply {retry : Retry} {world : World}
    (hjoint : Joint retry.key retry.items retry.order world) {event : Event}
    (hothers : event.ForOthers retry.key) :
    Joint retry.key retry.items retry.order (event.apply retry world) := by
  cases event with
  | attempt uuid clock faults => exact (hjoint.attempt uuid clock faults).1
  | createOrder request faults =>
      exact hjoint.createOrder_other hothers faults
  | reserveStock message clock =>
      refine hjoint.untouched ?_ rfl
      rw [InventoryServicer.reserveStock]
      split
      · exact .refl hjoint.inventory
      split
      · exact .refl hjoint.inventory
      · exact hjoint.inventory.untouched_reserve hothers.1 hothers.2 clock
  | releaseStock orderRef =>
      refine hjoint.untouched ?_ rfl
      rw [InventoryServicer.releaseStock]
      split
      · exact .refl hjoint.inventory
      · exact hjoint.inventory.untouched_release hothers
  | saveOrder order =>
      refine hjoint.untouched (.refl hjoint.inventory) ?_
      rw [OrderDb.insert?]
      split
      · exact filter_save_other hothers
      · rfl

theorem Joint.run {retry : Retry} {world : World} {events : List Event}
    (hjoint : Joint retry.key retry.items retry.order world)
    (hothers : ∀ event ∈ events, event.ForOthers retry.key) :
    Joint retry.key retry.items retry.order
      (runEvents retry world events) := by
  induction events generalizing world with
  | nil => exact hjoint
  | cons event events ih =>
      apply ih (hjoint.apply (hothers event List.mem_cons_self))
      exact fun other hother =>
        hothers other (List.mem_cons_of_mem event hother)

/-! ## Orders are never lost -/

theorem createOrder_orders (world : World) (request : CreateRequest)
    (faults : Faults) :
    world.orders ⊆ (createOrder world request faults).1.orders := by
  have hsaved : world.orders ⊆ if faults.saves then
      world.orders ++ [request.order] else world.orders := by
    cases faults.saves with
    | true => exact List.subset_append_left _ _
    | false => exact List.Subset.refl _
  have hcase := createOrder_case world request faults
  generalize createOrder world request faults = result at hcase ⊢
  cases hcase with
  | existing => exact List.Subset.refl _
  | notEncodable => exact List.Subset.refl _
  | notAnswered => exact List.Subset.refl _
  | rejected => exact List.Subset.refl _
  | persisted => exact List.subset_append_left _ _
  | rollbackFailed => exact hsaved
  | compensated => exact hsaved

theorem Event.apply_orders (retry : Retry) (world : World) (event : Event) :
    world.orders ⊆ (event.apply retry world).orders := by
  cases event with
  | attempt uuid clock faults =>
      exact createOrder_orders world _ faults.toFaults
  | createOrder request faults => exact createOrder_orders world request faults
  | reserveStock => exact List.Subset.refl _
  | releaseStock => exact List.Subset.refl _
  | saveOrder order =>
      rw [Event.apply, OrderDb.insert?]
      split
      · exact List.subset_append_left _ _
      · exact List.Subset.refl _

theorem runEvents_orders (retry : Retry) (world : World)
    (events : List Event) :
    world.orders ⊆ (runEvents retry world events).orders := by
  induction events generalizing world with
  | nil => exact List.Subset.refl _
  | cons event events ih =>
      exact List.Subset.trans (event.apply_orders retry world) (ih _)

theorem runEvents_append (retry : Retry) (world : World)
    (before later : List Event) :
    runEvents retry world (before ++ later) =
      runEvents retry (runEvents retry world before) later :=
  List.foldl_append

/-! ## At most one order, and stock at most once -/

/-- The key has its whole batch or nothing, its order has the batch, and there
is one order at most. -/
structure OnceKept (retry : Retry) (world : World) : Prop where
  rows : NoneOrWhole retry.key retry.key retry.items world.inventory
  reserved : world.inventory.reservedForOrder retry.key =
    world.inventory.activeForKey retry.key
  backed : ∀ order ∈ world.orders, order.id = retry.key →
    WholeBatch retry.key retry.key retry.items
      (world.inventory.activeForKey retry.key)
  unique : (world.orders.filter fun order => order.id = retry.key).length ≤ 1

theorem Joint.onceKept {retry : Retry} {world : World}
    (hjoint : Joint retry.key retry.items retry.order world) :
    OnceKept retry world where
  rows := hjoint.inventory.rows
  reserved := reservedForOrder_eq_activeForKey hjoint.inventory.same
  backed order horder hid := by
    rcases hjoint.orders with hnone | ⟨_, hbatch⟩
    · rw [List.filter_eq_nil_iff] at hnone
      exact absurd (decide_eq_true hid) (hnone order horder)
    · exact hbatch
  unique := by
    rcases hjoint.orders with hnone | ⟨hone, _⟩
    · rw [hnone]
      exact Nat.zero_le 1
    · rw [hone]
      exact le_refl 1

theorem Unused.joint {retry : Retry} {world : World}
    (hunused : Unused retry.key world)
    (hids : (world.inventory.reservations.map StockReservation.id).Nodup) :
    Joint retry.key retry.items retry.order world := by
  apply Joint.of_unsaved _ hunused.unsaved
  constructor
  · exact hids
  · left
    rw [InventoryDb.activeForKey, List.filter_eq_nil_iff]
    intro row hrow hactive
    exact (hunused.unreserved row hrow).2 (of_decide_eq_true hactive).1
  · intro row hrow _
    have hrowUnused := hunused.unreserved row hrow
    exact iff_of_false hrowUnused.1 hrowUnused.2

/-- Whatever is tried with the key before and later, and whatever happens to
other keys in between: the key is kept once, the orders stay, and an attempt
that returns an order returns the one order of the key. -/
theorem retries_once {retry : Retry} {world : World} {before : List Event}
    (hids : (world.inventory.reservations.map StockReservation.id).Nodup)
    (hunused : Unused retry.key world)
    (hbefore : ∀ event ∈ before, event.ForOthers retry.key) :
    OnceKept retry (runEvents retry world before) ∧
      (∀ later order, order ∈ (runEvents retry world before).orders →
        order ∈ (runEvents retry world (before ++ later)).orders) ∧
      ∀ uuid clock (faults : AttemptFaults) order,
        (createOrder (runEvents retry world before)
          (retry.request uuid clock) faults.toFaults).2 =
            .done (.returned order) →
        (createOrder (runEvents retry world before)
          (retry.request uuid clock) faults.toFaults).1.orders.filter
            (fun saved => saved.id = retry.key) = [order] := by
  have hjoint := (hunused.joint hids).run hbefore
  refine ⟨hjoint.onceKept, ?_, ?_⟩
  · intro later order horder
    rw [runEvents_append]
    exact runEvents_orders retry _ later horder
  · intro uuid clock faults
    exact (hjoint.attempt uuid clock faults).2

/-- Two widgets, tried three times: the first answer is lost, then the commit
fails and the release does not get through, and the third attempt saves the
order.  One gadget is reserved for another order in between. -/
def widgetRetry : Retry where
  payload := twoWidgets.payload
  key := twoWidgets.orderRef
  key_ne := twoWidgets.orderRef_ne

def lostThenFailed : List Event :=
  [.attempt twoWidgets.uuid id
      ⟨.failed ⟨.deadlineExceeded, "Deadline Exceeded"⟩ true, false,
        .answered⟩,
    .reserveStock ⟨(.ofText "order-2"), [⟨2, 1⟩], (.ofText "order-2")⟩
      id,
    .attempt twoWidgets.uuid id
      ⟨.answered, true, .failed ⟨.unavailable, "no route"⟩ false⟩]

def calm : AttemptFaults := ⟨.answered, false, .answered⟩

theorem retries_once_widgets :
    (runEvents widgetRetry ⟨[], seededDb⟩
      lostThenFailed).inventory.reservedQuantity 1 = 2 ∧
      OnceKept widgetRetry
        (runEvents widgetRetry ⟨[], seededDb⟩ lostThenFailed) ∧
      (createOrder (runEvents widgetRetry ⟨[], seededDb⟩ lostThenFailed)
        (widgetRetry.request twoWidgets.uuid id) calm.toFaults).1.orders.filter
          (fun saved => saved.id = widgetRetry.key) =
            [widgetRetry.order] := by
  have hunused : Unused widgetRetry.key ⟨[], seededDb⟩ :=
    ⟨rfl, fun row hrow => absurd hrow List.not_mem_nil⟩
  have hothers : ∀ event ∈ lostThenFailed,
      event.ForOthers widgetRetry.key := by
    intro event hevent
    simp only [lostThenFailed, List.mem_cons, List.not_mem_nil,
      or_false] at hevent
    rcases hevent with rfl | rfl | rfl
    · trivial
    · exact ⟨by decide, by decide⟩
    · trivial
  have honce := retries_once (by decide) hunused hothers
  exact ⟨by decide, honce.1,
    honce.2.2 twoWidgets.uuid id calm widgetRetry.order (by decide)⟩

end OrderFlow.Orders
