import OrderFlow.Orders.Compensation
import OrderFlow.Orders.EdgeHistory

/-!
# What a request leaves behind at each await

Under one reference the two databases hold an order, or none, and RESERVED
rows.  In between the awaits of a request the two need not agree, but at each
await it is known how they may differ, as long as nothing fails that the code
cannot make good.
-/

namespace OrderFlow.Inventory

/-- The call is not for one of the references, and does not use one as its
key. -/
def ServiceCall.Foreign (ours : CharField128 → Prop) : ServiceCall → Prop
  | .reserve request _ =>
      ¬ ours request.orderRef ∧ ¬ ours request.idempotencyKey
  | .release orderRef => ¬ ours orderRef

instance (ours : CharField128 → Prop) [DecidablePred ours]
    (call : ServiceCall) : Decidable (call.Foreign ours) := by
  cases call <;> unfold ServiceCall.Foreign <;> infer_instance

/-- A key of ours is used for the order of that name. -/
def ServiceCall.Keyed (ours : CharField128 → Prop) : ServiceCall → Prop
  | .reserve request _ => ours request.idempotencyKey →
      request.orderRef = request.idempotencyKey
  | .release _ => True

/-- What every call keeps. -/
structure InventoryDb.Tidy (ours : CharField128 → Prop) (db : InventoryDb) :
    Prop where
  ids_nodup : (db.reservations.map StockReservation.id).Nodup
  keyed : ∀ row ∈ db.reservations, ours row.idempotencyKey →
    row.orderRef = row.idempotencyKey

variable {ours : CharField128 → Prop} {db : InventoryDb}

theorem ServiceCall.Foreign.keyed {call : ServiceCall}
    (hforeign : call.Foreign ours) : call.Keyed ours := by
  cases call with
  | reserve request clock => exact fun hours => absurd hours hforeign.2
  | release orderRef => trivial

theorem ServiceCall.Foreign.forOthers {call : ServiceCall}
    (hforeign : call.Foreign ours) {orderRef : CharField128}
    (hours : ours orderRef) : call.ForOthers orderRef := by
  cases call with
  | reserve request clock =>
      rintro rfl
      exact hforeign.1 hours
  | release other =>
      rintro rfl
      exact hforeign hours

theorem InventoryDb.Tidy.apply (htidy : db.Tidy ours) {call : ServiceCall}
    (hkeyed : call.Keyed ours) : (call.apply db).Tidy ours where
  ids_nodup := call.apply_ids_nodup htidy.ids_nodup
  keyed := by
    intro row hrow hours
    cases call with
    | reserve request clock =>
        rcases mem_reserveStock hrow with hold | ⟨item, _, line, rfl⟩
        · exact htidy.keyed row hold hours
        · exact hkeyed hours
    | release orderRef =>
        obtain ⟨before, hbefore, horder, hkey, _⟩ := mem_releaseBody hrow
        rw [hkey] at hours ⊢
        rw [horder]
        exact htidy.keyed before hbefore hours

/-- A reference without RESERVED rows is not replayed. -/
theorem InventoryDb.Tidy.activeForKey (htidy : db.Tidy ours)
    {orderRef : CharField128} (hours : ours orderRef)
    (hnone : db.reservedForOrder orderRef = []) :
    db.activeForKey orderRef = [] := by
  rw [List.eq_nil_iff_forall_not_mem]
  intro row hrow
  obtain ⟨hmem, rfl, hstatus⟩ := mem_activeForKey_iff.mp hrow
  refine List.eq_nil_iff_forall_not_mem.mp hnone row
    (mem_reservedForOrder_iff.mpr ⟨hmem, htidy.keyed row hmem hours, hstatus⟩)

end OrderFlow.Inventory

namespace OrderFlow.Orders

open OrderFlow.Inventory

/-! ## What is said of a reference -/

/-- What the two databases hold under a reference. -/
structure Standing where
  saved : Option Order
  rows : List StockReservation

def World.standing (world : World) (orderRef : CharField128) : Standing :=
  ⟨world.orders.get? orderRef, world.inventory.reservedForOrder orderRef⟩

namespace Standing

/-- The rows hold the quantities of the order. -/
def Backs (standing : Standing) (order : Order) : Prop :=
  ∀ productId, quantityOf standing.rows productId =
    orderedQuantity order.items productId

/-- The order is saved and its stock is reserved, or neither. -/
def Agrees (standing : Standing) : Prop :=
  match standing.saved with
  | none => standing.rows = []
  | some order => standing.Backs order

theorem agrees_of_saved {standing : Standing} {order : Order}
    (hsaved : standing.saved = some order) (hbacks : standing.Backs order) :
    standing.Agrees := by
  rw [Agrees, hsaved]
  exact hbacks

theorem agrees_of_unsaved {standing : Standing}
    (hunsaved : standing.saved = none) (hnone : standing.rows = []) :
    standing.Agrees := by
  rw [Agrees, hunsaved]
  exact hnone

theorem Agrees.rows_eq_nil {standing : Standing} (hagrees : standing.Agrees)
    (hunsaved : standing.saved = none) : standing.rows = [] := by
  rwa [Agrees, hunsaved] at hagrees

/-- Rows that record the lines of the order. -/
theorem backs_of_lines {standing : Standing} {order : Order}
    {orderRef : CharField128}
    (hlines : standing.rows.map StockReservation.line =
      order.items.map (OrderItem.line orderRef)) : standing.Backs order := by
  intro productId
  calc quantityOf standing.rows productId
      = groupedSum ReservedLine.productId ReservedLine.quantity
          (standing.rows.map StockReservation.line) productId := by
        rw [groupedSum.map]
        rfl
    _ = orderedQuantity order.items productId := by
        rw [hlines, groupedSum.map]
        rfl

end Standing

/-! ## What a request does to the other references -/

/-- The tables stay tidy, and only the references `mine` are touched. -/
structure Touches (ours mine : CharField128 → Prop) (before after : World) :
    Prop where
  tidy : after.inventory.Tidy ours
  frame : ∀ orderRef, ¬ mine orderRef →
    after.standing orderRef = before.standing orderRef

section Touches

variable {ours mine : CharField128 → Prop} {world : World}

theorem Touches.none (htidy : world.inventory.Tidy ours) :
    Touches ours mine world world :=
  ⟨htidy, fun _ _ => rfl⟩

theorem Touches.call (htidy : world.inventory.Tidy ours)
    {call : ServiceCall} (hkeyed : call.Keyed ours)
    (hmine : ∀ orderRef, ¬ mine orderRef → call.ForOthers orderRef) :
    Touches ours mine world ⟨world.orders, call.apply world.inventory⟩ where
  tidy := htidy.apply hkeyed
  frame orderRef hother := congrArg (Standing.mk _)
    (call.reservedForOrder_apply htidy.ids_nodup (hmine orderRef hother))

theorem get?_append_other {orders : OrderDb} {added : List Order}
    {orderRef : CharField128} (hother : ∀ order ∈ added, order.id ≠ orderRef) :
    OrderDb.get? (orders ++ added) orderRef = orders.get? orderRef := by
  have hnone : added.find? (fun order => order.id = orderRef) = .none :=
    List.find?_eq_none.mpr fun order horder hsame =>
      hother order horder (of_decide_eq_true hsame)
  rw [OrderDb.get?, List.find?_append, hnone, Option.or_none, OrderDb.get?]

theorem get?_append_of_mem {orders : OrderDb} {added : List Order}
    (hnodup : (added.map Order.id).Nodup) {order : Order}
    (hfresh : orders.get? order.id = none) (horder : order ∈ added) :
    OrderDb.get? (orders ++ added) order.id = some order := by
  rw [OrderDb.get?] at hfresh
  rw [OrderDb.get?, List.find?_append, hfresh, Option.none_or]
  exact find?_of_nodup_keys hnodup horder

theorem Touches.save (htidy : world.inventory.Tidy ours) {added : List Order}
    (hmine : ∀ order ∈ added, mine order.id) :
    Touches ours mine world ⟨world.orders ++ added, world.inventory⟩ where
  tidy := htidy
  frame orderRef hother := by
    refine congrArg (Standing.mk · _) (get?_append_other ?_)
    rintro order horder rfl
    exact hother (hmine order horder)

end Touches

/-! ## A single order -/

/-- In what condition a request may leave its reference at each await. -/
def Phase.Leaves (request : CreateRequest) (standing : Standing) :
    Phase → Prop
  | .lookup => standing.Agrees
  | .reserve _ _ => standing.saved = none ∧ standing.rows = []
  | .persist _ => standing.saved = none ∧ standing.Backs request.order
  | .rollback _ => standing.saved = none
  | .release _ => standing.saved = none
  | .done _ => standing.Agrees

/-- Whatever goes wrong, the code can make good: a reserve that fails was not
executed, a commit that raises has not saved, and then the rollback and the
release work. -/
def Faults.Mendable (faults : Faults) : Prop :=
  (faults.reserve = .answered ∨ faults.reserve.executed = false) ∧
    (faults.saves = true → faults.raises = false) ∧
      faults.rollbackRaises = false ∧ faults.release.executed = true

instance (faults : Faults) : Decidable faults.Mendable :=
  inferInstanceAs (Decidable (_ ∧ _))

section Create

variable {ours : CharField128 → Prop} {request : CreateRequest}
variable {faults : Faults} {world : World}

theorem lookup_leaves
    (hagrees : (world.standing request.orderRef).Agrees) :
    (afterLookup request (world.orders.get? request.orderRef)).Leaves request
      (world.standing request.orderRef) := by
  cases hfound : world.orders.get? request.orderRef with
  | some order => exact hagrees
  | none =>
      rw [afterLookup_none]
      split_ifs
      · exact ⟨hfound, hagrees.rows_eq_nil hfound⟩
      · exact hagrees

/-- The calls of a request are for its own reference. -/
theorem touches_own (htidy : world.inventory.Tidy ours) {call : ServiceCall}
    (hcall : call = .reserve request.message request.clock ∨
      call = .release request.orderRef) :
    Touches ours (· = request.orderRef) world
      ⟨world.orders, call.apply world.inventory⟩ := by
  rcases hcall with rfl | rfl
  · exact .call htidy (fun _ => rfl) fun orderRef hother => Ne.symm hother
  · exact .call htidy trivial fun orderRef hother => Ne.symm hother

theorem reserve_leaves (htidy : world.inventory.Tidy ours)
    (hours : ours request.orderRef)
    (hdelivery : faults.reserve = .answered ∨ faults.reserve.executed = false)
    (hunsaved : (world.standing request.orderRef).saved = none)
    (hnone : (world.standing request.orderRef).rows = []) :
    Touches ours (· = request.orderRef) world
        (Orders.advance request faults world
          (.reserve request.message request.order)).1 ∧
      (Orders.advance request faults world
        (.reserve request.message request.order)).2.Leaves request
          ((Orders.advance request faults world
            (.reserve request.message request.order)).1.standing
              request.orderRef) := by
  have hinactive := htidy.activeForKey hours hnone
  rw [Orders.advance]
  cases hreserve : faults.reserve with
  | failed error executed =>
      obtain rfl : executed = false := by
        rcases hdelivery with hanswered | hexecuted
        · exact Grpc.Delivery.noConfusion (hreserve.symm.trans hanswered)
        · rwa [hreserve] at hexecuted
      exact ⟨.none htidy, Standing.agrees_of_unsaved hunsaved hnone⟩
  | answered =>
      have htouches := @touches_own ours request world htidy _ (.inl rfl)
      simp only [Grpc.call_answered, request.servicer_eq, afterReserve]
      refine ⟨htouches, ?_⟩
      cases hsuccess : (reserveStock world.inventory
          (request.call world.inventory)).2.success with
      | true =>
          refine ⟨hunsaved, fun productId => ?_⟩
          have hrows := (reserved_of_success hinactive hsuccess).rows
          have hheld : world.inventory.reservedForOrder request.orderRef = [] :=
            hnone
          rw [hheld, List.nil_append] at hrows
          have hbatch : WholeBatch request.orderRef request.orderRef
              request.reserveItems _ :=
            wholeBatch_rows (request.call world.inventory)
          change quantityOf ((reserveStock world.inventory
            (request.call world.inventory)).1.reservedForOrder _) _ = _
          rw [hrows, request.orderedQuantity_order]
          exact hbatch.quantityOf_eq productId
      | false =>
          simp only [Bool.false_eq_true, if_false]
          rw [reserveStock_failed hsuccess]
          exact Standing.agrees_of_unsaved hunsaved hnone

theorem persist_leaves (htidy : world.inventory.Tidy ours)
    (hmendable : faults.saves = true → faults.raises = false)
    (hunsaved : (world.standing request.orderRef).saved = none)
    (hbacks : (world.standing request.orderRef).Backs request.order) :
    Touches ours (· = request.orderRef) world
        (Orders.advance request faults world (.persist request.order)).1 ∧
      (Orders.advance request faults world
        (.persist request.order)).2.Leaves request
          ((Orders.advance request faults world
            (.persist request.order)).1.standing request.orderRef) := by
  have hfresh : world.orders.get? request.order.id = none := hunsaved
  rw [Orders.advance, persistOrder_of_fresh faults hfresh]
  cases hraises : faults.raises with
  | true =>
      have hsaves : faults.saves = false := by
        by_contra hsaved
        have hcalm := hmendable (by simpa using hsaved)
        exact Bool.false_ne_true (hcalm.symm.trans hraises)
      rw [hsaves]
      exact ⟨.none htidy, hunsaved⟩
  | false =>
      rw [Faults.saves_of_not_raises hraises, if_pos rfl]
      refine ⟨.save htidy ?_, ?_⟩
      · exact fun order horder => List.mem_singleton.mp horder ▸ rfl
      · refine @Standing.agrees_of_saved _ request.order ?_ hbacks
        exact get?_concat hfresh

theorem release_leaves (htidy : world.inventory.Tidy ours)
    (hexecuted : faults.release.executed = true)
    (hunsaved : (world.standing request.orderRef).saved = none) :
    Touches ours (· = request.orderRef) world
        (Orders.advance request faults world (.release request.order)).1 ∧
      (Orders.advance request faults world
        (.release request.order)).2.Leaves request
          ((Orders.advance request faults world
            (.release request.order)).1.standing request.orderRef) := by
  have hid : request.order.id = request.orderRef := rfl
  rw [Orders.advance, hid, Grpc.call_fst, if_pos hexecuted,
    InventoryServicer.releaseStock_eq request.orderRef_ne]
  exact ⟨touches_own htidy (.inr rfl), Standing.agrees_of_unsaved hunsaved
    (reservedForOrder_releaseStock _ _)⟩

/-- One await of a single order. -/
theorem advance_leaves (htidy : world.inventory.Tidy ours)
    (hours : ours request.orderRef) (hmendable : faults.Mendable)
    {phase : Phase} (hcarries : Carries request phase)
    (hleaves : phase.Leaves request (world.standing request.orderRef)) :
    Touches ours (· = request.orderRef) world
        (Orders.advance request faults world phase).1 ∧
      (Orders.advance request faults world phase).2.Leaves request
        ((Orders.advance request faults world phase).1.standing
          request.orderRef) := by
  obtain ⟨hreserve, hpersist, hrollback, hrelease⟩ := hmendable
  cases phase with
  | lookup => exact ⟨.none htidy, lookup_leaves hleaves⟩
  | reserve message order =>
      obtain ⟨rfl, rfl⟩ := hcarries
      exact reserve_leaves htidy hours hreserve hleaves.1 hleaves.2
  | persist order =>
      obtain rfl : order = request.order := hcarries
      exact persist_leaves htidy hpersist hleaves.1 hleaves.2
  | rollback order =>
      rw [Orders.advance, hrollback]
      exact ⟨.none htidy, hleaves⟩
  | release order =>
      obtain rfl : order = request.order := hcarries
      exact release_leaves htidy hrelease hleaves
  | done exit => exact ⟨.none htidy, hleaves⟩

end Create

/-! ## What a stream tells of an order -/

section Streamed

variable {request : BulkRequest} {items : List BulkReserveItem}
variable {outcomes : List BulkItemOutcome}

theorem order_items_ne {order : Order} (horder : order ∈ request.orders) :
    order.items ≠ [] := by
  obtain ⟨draw, hdraw, rfl⟩ := List.mem_mapIdx.mp horder
  exact fun hnone => (request.payload.orders[draw]).items_ne
    (List.map_eq_nil_iff.mp hnone)

theorem Follows.outcomesOf_ne_nil (hfollows : Follows request items outcomes)
    (hnodup : (request.orders.map Order.id).Nodup) {order : Order}
    (horder : order ∈ request.orders) : outcomesOf outcomes order.id ≠ [] := by
  intro hnone
  have hproducts := hfollows.outcomesOf_products hnodup horder
  rw [hnone] at hproducts
  exact order_items_ne horder (List.map_eq_nil_iff.mp hproducts.symm)

/-- An order that is to be saved has taken exactly its lines. -/
theorem Follows.taken_persisted (hfollows : Follows request items outcomes)
    (hnodup : (request.orders.map Order.id).Nodup) {order : Order}
    (horder : order ∈ request.orders)
    (hstatus : statusOf (outcomesOf outcomes order.id) = .persisted) :
    (items.zip outcomes).filterMap (taken? order.id) =
      order.items.map (OrderItem.line order.id) := by
  have hall := (statusOf_persisted_iff
    (hfollows.outcomesOf_ne_nil hnodup horder)).mp hstatus
  obtain ⟨hitems, houtcomes⟩ := hfollows.answered hnodup horder
  rw [filterMap_taken_of_all]
  · conv_rhs => rw [← hitems]
    rw [List.map_map]
    rfl
  · intro line hline
    have houtcome := List.mem_map_of_mem (f := Prod.snd) hline
    rw [houtcomes] at houtcome
    exact hall (itemResultOut line.2) (List.mem_map_of_mem houtcome)

/-- An order that has failed has taken nothing. -/
theorem Follows.taken_failed (hfollows : Follows request items outcomes)
    (hnodup : (request.orders.map Order.id).Nodup) {order : Order}
    (horder : order ∈ request.orders)
    (hstatus : statusOf (outcomesOf outcomes order.id) = .failed) :
    (items.zip outcomes).filterMap (taken? order.id) = [] := by
  have hnone := (statusOf_failed_iff
    (hfollows.outcomesOf_ne_nil hnodup horder)).mp hstatus
  obtain ⟨_, houtcomes⟩ := hfollows.answered hnodup horder
  apply filterMap_taken_of_none
  intro line hline
  have houtcome := List.mem_map_of_mem (f := Prod.snd) hline
  rw [houtcomes] at houtcome
  exact hnone (itemResultOut line.2) (List.mem_map_of_mem houtcome)

end Streamed

/-! ## A batch -/

namespace BulkRequest

/-- The references a batch works on. -/
def refs (request : BulkRequest) : List CharField128 :=
  request.orders.map Order.id

/-- The messages of a batch that have been answered, with their answers. -/
def answers (request : BulkRequest) (loop : BulkLoop) :
    List (BulkReserveItem × BulkItemOutcome) :=
  (requestGen request.lines).1.zip loop.results

end BulkRequest

namespace BulkPhase

/-- In what condition a batch may leave a reference at each await. -/
def Leaves (request : BulkRequest) (orderRef : CharField128)
    (standing : Standing) : BulkPhase → Prop
  | .streaming _ loop => standing.saved = none ∧
      standing.rows.map StockReservation.line =
        (request.answers loop).filterMap (taken? orderRef)
  | .commit tally => standing.saved = none ∧
      ∀ order ∈ request.orders, order.id = orderRef →
        (order ∈ tally.added → standing.Backs order) ∧
          (order ∉ tally.added → orderRef ∉ tally.strandedRefs →
            standing.rows = [])
  | .releasing refs _ => (orderRef ∈ refs → standing.saved = none) ∧
      (orderRef ∉ refs → standing.Agrees)
  | .done _ => standing.Agrees

/-- How far the stream has come. -/
structure Streamed (request : BulkRequest) (messages : List BulkReserveItem)
    (loop : BulkLoop) : Prop where
  rest : (requestGen request.lines).1.drop loop.results.length = messages
  echo : loop.results.map (fun outcome =>
      (outcome.orderRef, outcome.productId)) =
    ((requestGen request.lines).1.take loop.results.length).map fun item =>
      (item.orderRef, item.productId)

/-- What a batch carries along. -/
def Formed (request : BulkRequest) : BulkPhase → Prop
  | .streaming messages loop => Streamed request messages loop
  | .releasing refs _ => refs.Nodup ∧ ∀ orderRef ∈ refs, orderRef ∈ request.refs
  | .commit _ | .done _ => True

end BulkPhase

/-- Nothing fails that the code cannot make good: the stream ends early only
while nothing has been reserved, and the commit and the releases work. -/
def BulkRequest.Mendable (request : BulkRequest) :
    BulkPhase → BulkEvent → Prop
  | .streaming _ loop, .finish error =>
      (error.isNone = true ∧ (requestGen request.lines).2 = true) ∨
        ∀ outcome ∈ loop.results, outcome.reserved = false
  | _, .commit fault => fault = .none
  | _, .release delivery => delivery.executed = true
  | _, _ => True

instance (request : BulkRequest) (phase : BulkPhase) (event : BulkEvent) :
    Decidable (request.Mendable phase event) := by
  unfold BulkRequest.Mendable
  split <;> infer_instance

section Batch

variable {ours : CharField128 → Prop} {request : BulkRequest} {world : World}

theorem mem_refs_of_message {message : BulkReserveItem}
    (hmessage : message ∈ (requestGen request.lines).1) :
    message.orderRef ∈ request.refs := by
  have hgenerated := requestGen_prefix request.lines
  obtain ⟨line, hline, rfl⟩ := List.mem_map.mp (hgenerated.subset hmessage)
  obtain ⟨order, horder, hmem⟩ := List.mem_flatMap.mp hline
  obtain ⟨item, _, rfl⟩ := List.mem_map.mp hmem
  exact List.mem_map_of_mem horder

theorem ref_ne_empty {orderRef : CharField128}
    (href : orderRef ∈ request.refs) : orderRef ≠ .empty := by
  obtain ⟨order, horder, rfl⟩ := List.mem_map.mp href
  exact BulkRequest.id_ne_empty horder

theorem mem_tallied_stranded {outcomes : CharField128 → List ItemOutcome}
    {orderRef : CharField128} :
    orderRef ∈ (Edge.tallied request outcomes).strandedRefs ↔
      ∃ order ∈ request.orders, order.id = orderRef ∧
        statusOf (outcomes order.id) = .partlyReserved := by
  rw [Edge.tallied, foldl_tally]
  simp only [Tally.start, List.nil_append, List.mem_map, withStatus,
    List.mem_filter, decide_eq_true_eq]
  constructor
  · rintro ⟨order, ⟨horder, hstatus⟩, hid⟩
    exact ⟨order, horder, hid, hstatus⟩
  · rintro ⟨order, horder, hid, hstatus⟩
    exact ⟨order, ⟨horder, hstatus⟩, hid⟩

/-- The next message, in the list of all of them. -/
theorem BulkPhase.Streamed.split {message : BulkReserveItem}
    {messages : List BulkReserveItem} {loop : BulkLoop}
    (hstreamed : Streamed request (message :: messages) loop) :
    ∃ served, (requestGen request.lines).1 = served ++ message :: messages ∧
      served.length = loop.results.length := by
  have hlength : loop.results.length ≤ (requestGen request.lines).1.length := by
    by_contra hlong
    have hnone := List.drop_eq_nil_of_le (Nat.le_of_not_le hlong)
    exact List.cons_ne_nil _ _ (hstreamed.rest.symm.trans hnone)
  refine ⟨(requestGen request.lines).1.take loop.results.length, ?_, ?_⟩
  · rw [← hstreamed.rest, List.take_append_drop]
  · rw [List.length_take, min_eq_left hlength]

theorem Streamed.serve {message : BulkReserveItem}
    {messages : List BulkReserveItem} {loop : BulkLoop}
    (hstreamed : BulkPhase.Streamed request (message :: messages) loop)
    {outcome : BulkItemOutcome} (horder : outcome.orderRef = message.orderRef)
    (hproduct : outcome.productId = message.productId) :
    BulkPhase.Streamed request messages (loop.record outcome) ∧
      request.answers (loop.record outcome) =
        request.answers loop ++ [(message, outcome)] := by
  obtain ⟨served, hsplit, hlength⟩ := hstreamed.split
  obtain ⟨_, hecho⟩ := hstreamed
  rw [hsplit, ← hlength, List.take_left] at hecho
  have hresults : (loop.record outcome).results = loop.results ++ [outcome] :=
    rfl
  have hlonger : (served ++ [message]).length =
      (loop.results ++ [outcome]).length := by simp [hlength]
  have hall : served ++ message :: messages =
      (served ++ [message]) ++ messages := by simp
  refine ⟨⟨?_, ?_⟩, ?_⟩
  · rw [hsplit, hresults, ← hlonger, hall, List.drop_left]
  · rw [hsplit, hresults, ← hlonger, hall, List.take_left, List.map_append,
      List.map_append, hecho]
    simp [horder, hproduct]
  · have hserved : (served ++ message :: messages).zip loop.results =
        served.zip loop.results := by
      conv_lhs => rw [← List.append_nil loop.results, List.zip_append hlength]
      simp
    rw [BulkRequest.answers, BulkRequest.answers, hsplit, hserved, hresults,
      List.zip_append hlength]
    simp

/-- The next line of the stream. -/
theorem serve_leaves (hnamed : ¬ ours .empty)
    (htidy : world.inventory.Tidy ours) {message : BulkReserveItem}
    {messages : List BulkReserveItem} {loop : BulkLoop}
    (hformed : BulkPhase.Streamed request (message :: messages) loop)
    (hleaves : ∀ orderRef ∈ request.refs,
      (BulkPhase.streaming (message :: messages) loop).Leaves request orderRef
        (world.standing orderRef)) (clock : ℕ → ℕ) :
    Touches ours (· ∈ request.refs) world
        ⟨world.orders, (bulkLine world.inventory ⟨message, clock⟩).1⟩ ∧
      ∀ orderRef ∈ request.refs,
        (BulkPhase.streaming messages (loop.record
          (bulkLine world.inventory ⟨message, clock⟩).2)).Leaves request
            orderRef (World.standing ⟨world.orders,
              (bulkLine world.inventory ⟨message, clock⟩).1⟩ orderRef) := by
  have hmine : message.orderRef ∈ request.refs := by
    obtain ⟨served, hsplit, _⟩ := hformed.split
    exact mem_refs_of_message (by simp [hsplit])
  obtain ⟨horder, hproduct⟩ := bulkLine_echo world.inventory ⟨message, clock⟩
  obtain ⟨_, hanswers⟩ := Streamed.serve hformed horder hproduct
  constructor
  · rw [bulkLine_apply (ref_ne_empty hmine)]
    refine .call htidy (fun hours => absurd hours hnamed) ?_
    rintro orderRef hother rfl
    exact hother hmine
  · intro orderRef href
    obtain ⟨hunsaved, hlines⟩ := hleaves orderRef href
    refine ⟨hunsaved, ?_⟩
    rw [hanswers, List.filterMap_append, ← hlines]
    have hheld := heldLines_bulkLine world.inventory ⟨message, clock⟩ orderRef
    refine hheld.trans (congrArg _ ?_)
    rw [List.filterMap_cons, List.filterMap_nil]
    cases taken? orderRef
      (message, (bulkLine world.inventory ⟨message, clock⟩).2) <;> rfl

/-- From the answer to the commit. -/
theorem answer_leaves {loop : BulkLoop}
    (hnodup : request.refs.Nodup) (hend : (requestGen request.lines).2 = true)
    (hformed : BulkPhase.Streamed request [] loop)
    (hleaves : ∀ orderRef ∈ request.refs,
      (BulkPhase.streaming [] loop).Leaves request orderRef
        (world.standing orderRef)) :
    ∃ outcomes, request.afterAnswer loop.summary =
        .commit (Edge.tallied request outcomes) ∧
      ∀ orderRef ∈ request.refs,
        (BulkPhase.commit (Edge.tallied request outcomes)).Leaves request
          orderRef (world.standing orderRef) := by
  have hmessages : (requestGen request.lines).1 =
      request.lines.map lineMessage :=
    congrArg Prod.fst (requestGen_of_fits (fits_of_requestGen hend))
  have hfollows : Follows request (requestGen request.lines).1
      loop.results := by
    have hall := List.drop_eq_nil_iff.mp hformed.rest
    refine ⟨hmessages ▸ request.lines_flattened, ?_⟩
    have hecho := hformed.echo
    rwa [List.take_of_length_le hall] at hecho
  refine ⟨outcomesOf loop.results, ?_, ?_⟩
  · have hregroup := outcomesByRef_eq hfollows.known
    have hresults : loop.summary.results = loop.results := rfl
    simp only [BulkRequest.afterAnswer, hresults, hregroup]
    rfl
  · intro orderRef href
    obtain ⟨hunsaved, hlines⟩ := hleaves orderRef href
    refine ⟨hunsaved, ?_⟩
    rintro order horder rfl
    constructor
    · intro hadded
      apply Standing.backs_of_lines
      rw [hlines]
      exact hfollows.taken_persisted hnodup horder
        (mem_tallied_added.mp hadded).2
    · intro hnotAdded hnotStranded
      have hfailed : statusOf (outcomesOf loop.results order.id) =
          .failed := by
        cases hstatus : statusOf (outcomesOf loop.results order.id) with
        | persisted =>
            exact absurd (mem_tallied_added.mpr ⟨horder, hstatus⟩) hnotAdded
        | partlyReserved =>
            refine absurd ?_ hnotStranded
            rw [mem_tallied_stranded]
            exact ⟨order, horder, rfl, hstatus⟩
        | failed => rfl
      have hnone := hfollows.taken_failed hnodup horder hfailed
      rw [BulkRequest.answers, hnone] at hlines
      exact List.map_eq_nil_iff.mp hlines

/-- A stream that ends early has reserved nothing. -/
theorem cutShort_leaves {messages : List BulkReserveItem} {loop : BulkLoop}
    (hnone : ∀ outcome ∈ loop.results, outcome.reserved = false)
    {orderRef : CharField128}
    (hleaves : (BulkPhase.streaming messages loop).Leaves request orderRef
      (world.standing orderRef)) : (world.standing orderRef).Agrees := by
  obtain ⟨hunsaved, hlines⟩ := hleaves
  have htaken : (request.answers loop).filterMap (taken? orderRef) = [] := by
    apply filterMap_taken_of_none
    intro line hline
    have hanswer := (List.mem_filter.mp hline).1
    exact hnone line.2 (List.of_mem_zip hanswer).2
  rw [htaken] at hlines
  exact Standing.agrees_of_unsaved hunsaved (List.map_eq_nil_iff.mp hlines)

/-- What is left to do once the orders are saved. -/
theorem nextRelease_leaves {refs : List CharField128} {out : BulkOrderOut}
    {orderRef : CharField128} {standing : Standing}
    (hstranded : orderRef ∈ refs → standing.saved = none)
    (hsettled : orderRef ∉ refs → standing.Agrees) :
    (nextRelease out refs).Leaves request orderRef standing := by
  cases refs with
  | nil => exact hsettled List.not_mem_nil
  | cons head refs => exact ⟨hstranded, hsettled⟩

theorem nextRelease_settled {refs : List CharField128} {out : BulkOrderOut}
    {orderRef : CharField128} {standing : Standing} (hkept : orderRef ∉ refs)
    (hagrees : standing.Agrees) :
    (nextRelease out refs).Leaves request orderRef standing :=
  nextRelease_leaves (fun hstranded => absurd hstranded hkept) fun _ => hagrees

theorem commit_leaves (htidy : world.inventory.Tidy ours)
    (hnodup : request.refs.Nodup)
    {outcomes : CharField128 → List ItemOutcome}
    (hleaves : ∀ orderRef ∈ request.refs,
      (BulkPhase.commit (Edge.tallied request outcomes)).Leaves request
        orderRef (world.standing orderRef)) :
    ∃ saved, commitOrders .none world.orders
        (Edge.tallied request outcomes).added = (saved, false) ∧
      Touches ours (· ∈ request.refs) world ⟨saved, world.inventory⟩ ∧
      ∀ orderRef ∈ request.refs,
        (nextRelease (request.out (Edge.tallied request outcomes))
          (Edge.tallied request outcomes).strandedRefs).Leaves request
            orderRef (World.standing ⟨saved, world.inventory⟩ orderRef) := by
  have hids : ∀ order ∈ (Edge.tallied request outcomes).added,
      order.id ∈ request.refs := fun order horder =>
    List.mem_map_of_mem (mem_tallied_added.mp horder).1
  have haddedNodup : ((Edge.tallied request outcomes).added.map
      Order.id).Nodup := by
    rw [Edge.tallied, foldl_tally]
    exact hnodup.sublist (List.filter_sublist.map _)
  have hinsert := insertAll?_of_fresh haddedNodup fun order horder =>
    (hleaves order.id (hids order horder)).1
  have hcommit : commitOrders .none world.orders
      (Edge.tallied request outcomes).added =
        (world.orders ++ (Edge.tallied request outcomes).added, false) := by
    rw [commitOrders]
    exact hinsert ▸ rfl
  refine ⟨_, hcommit, .save htidy hids, ?_⟩
  intro orderRef href
  obtain ⟨hunsaved, hrows⟩ := hleaves orderRef href
  obtain ⟨order, horder, rfl⟩ := List.mem_map.mp href
  obtain ⟨hbacks, hnone⟩ := hrows order horder rfl
  by_cases hadded : order ∈ (Edge.tallied request outcomes).added
  · have hpersisted := (mem_tallied_added.mp hadded).2
    have hkept : order.id ∉ (Edge.tallied request outcomes).strandedRefs := by
      rw [mem_tallied_stranded]
      rintro ⟨other, _, hid, hstatus⟩
      rw [hid, hpersisted] at hstatus
      exact BulkStatus.noConfusion hstatus
    refine nextRelease_settled hkept ?_
    exact Standing.agrees_of_saved
      (get?_append_of_mem haddedNodup hunsaved hadded) (hbacks hadded)
  · have hunsavedStill : OrderDb.get? (world.orders ++
        (Edge.tallied request outcomes).added) order.id = none := by
      rw [get?_append_other]
      · exact hunsaved
      · intro other hother hid
        refine hadded ?_
        rwa [← List.inj_on_of_nodup_map hnodup
          (mem_tallied_added.mp hother).1 horder hid]
    refine nextRelease_leaves (fun _ => hunsavedStill) fun hkept => ?_
    exact Standing.agrees_of_unsaved hunsavedStill (hnone hadded hkept)

theorem release_leaves_batch (htidy : world.inventory.Tidy ours)
    {released : CharField128} {refs : List CharField128} {out : BulkOrderOut}
    (hformed : (BulkPhase.releasing (released :: refs) out).Formed request)
    (hleaves : ∀ orderRef ∈ request.refs,
      (BulkPhase.releasing (released :: refs) out).Leaves request orderRef
        (world.standing orderRef)) :
    Touches ours (· ∈ request.refs) world
        ⟨world.orders, (releaseStock world.inventory released).1⟩ ∧
      ∀ orderRef ∈ request.refs,
        (nextRelease out refs).Leaves request orderRef (World.standing
          ⟨world.orders, (releaseStock world.inventory released).1⟩
            orderRef) := by
  obtain ⟨hnodup, hown⟩ := hformed
  have hmine : released ∈ request.refs := hown released List.mem_cons_self
  have htouches : Touches ours (· = released) world
      ⟨world.orders, (releaseStock world.inventory released).1⟩ :=
    @Touches.call ours (· = released) world htidy (.release released) trivial
      fun orderRef hother => Ne.symm hother
  refine ⟨⟨htouches.tidy, fun orderRef hother => htouches.frame orderRef ?_⟩,
    fun orderRef href => ?_⟩
  · rintro rfl
    exact hother hmine
  · obtain ⟨hstranded, hsettled⟩ := hleaves orderRef href
    by_cases hreleased : orderRef = released
    · subst hreleased
      refine nextRelease_settled (List.nodup_cons.mp hnodup).1 ?_
      exact Standing.agrees_of_unsaved (hstranded List.mem_cons_self)
        (reservedForOrder_releaseStock _ _)
    · rw [htouches.frame orderRef hreleased]
      refine nextRelease_leaves (fun hleft => hstranded ?_) fun hleft => ?_
      · exact List.mem_cons_of_mem released hleft
      · exact hsettled (List.not_mem_cons_of_ne_of_not_mem hreleased hleft)

theorem nextRelease_formed {refs : List CharField128} (out : BulkOrderOut)
    (hrefs : refs.Nodup ∧ ∀ orderRef ∈ refs, orderRef ∈ request.refs) :
    (nextRelease out refs).Formed request := by
  cases refs with
  | nil => trivial
  | cons orderRef refs => exact hrefs

theorem stranded_formed (hnodup : request.refs.Nodup)
    (outcomes : CharField128 → List ItemOutcome) :
    (Edge.tallied request outcomes).strandedRefs.Nodup ∧
      ∀ orderRef ∈ (Edge.tallied request outcomes).strandedRefs,
        orderRef ∈ request.refs := by
  constructor
  · rw [Edge.tallied, foldl_tally]
    exact hnodup.sublist (List.filter_sublist.map _)
  · intro orderRef hstranded
    obtain ⟨order, horder, rfl, _⟩ := mem_tallied_stranded.mp hstranded
    exact List.mem_map_of_mem horder

/-- What one event of a batch may do. -/
structure Proceeds (ours : CharField128 → Prop) (request : BulkRequest)
    (world : World) (next : World × BulkPhase) : Prop where
  touches : Touches ours (· ∈ request.refs) world next.1
  formed : next.2.Formed request
  leaves : ∀ orderRef ∈ request.refs,
    next.2.Leaves request orderRef (next.1.standing orderRef)

/-- One event of a batch. -/
theorem advanceBulk_proceeds (hnamed : ¬ ours .empty)
    (htidy : world.inventory.Tidy ours) (hnodup : request.refs.Nodup)
    {phase : BulkPhase} {event : BulkEvent} {next : World × BulkPhase}
    (hsound : Edge.BatchSound request world.orders phase)
    (hformed : phase.Formed request) (hmendable : request.Mendable phase event)
    (hleaves : ∀ orderRef ∈ request.refs,
      phase.Leaves request orderRef (world.standing orderRef))
    (hnext : advanceBulk request world phase event = some next) :
    Proceeds ours request world next := by
  cases advanceBulk_moves hnext with
  | serve message messages loop clock =>
      obtain ⟨htouches, hafter⟩ :=
        serve_leaves hnamed htidy hformed hleaves clock
      obtain ⟨horder, hproduct⟩ :=
        bulkLine_echo world.inventory ⟨message, clock⟩
      exact ⟨htouches, (Streamed.serve hformed horder hproduct).1, hafter⟩
  | failed messages loop error =>
      rcases hmendable with ⟨hanswered, _⟩ | hnone
      · exact absurd hanswered (by simp)
      · exact ⟨.none htidy, trivial, fun orderRef href =>
          cutShort_leaves hnone (hleaves orderRef href)⟩
  | cancelled messages loop hend =>
      rcases hmendable with ⟨_, hsent⟩ | hnone
      · exact absurd (hend.symm.trans hsent) Bool.false_ne_true
      · exact ⟨.none htidy, trivial, fun orderRef href =>
          cutShort_leaves hnone (hleaves orderRef href)⟩
  | answered loop hend =>
      obtain ⟨outcomes, hcommit, hafter⟩ :=
        answer_leaves hnodup hend hformed hleaves
      rw [hcommit]
      exact ⟨.none htidy, trivial, hafter⟩
  | commit tally fault =>
      obtain rfl : fault = .none := hmendable
      obtain ⟨outcomes, rfl⟩ := hsound
      obtain ⟨saved, hcommit, htouches, hafter⟩ :=
        commit_leaves htidy hnodup hleaves
      rw [hcommit]
      exact ⟨htouches, nextRelease_formed _ (stranded_formed hnodup _), hafter⟩
  | release released refs out delivery =>
      have hexecuted : delivery.executed = true := hmendable
      have hown : released ∈ request.refs :=
        hformed.2 released List.mem_cons_self
      obtain ⟨htouches, hafter⟩ :=
        release_leaves_batch htidy hformed hleaves
      rw [Grpc.call_fst, if_pos hexecuted,
        InventoryServicer.releaseStock_eq (ref_ne_empty hown)]
      refine ⟨htouches, nextRelease_formed _ ?_, hafter⟩
      exact ⟨(List.nodup_cons.mp hformed.1).2, fun orderRef href =>
        hformed.2 orderRef (List.mem_cons_of_mem _ href)⟩

end Batch

end OrderFlow.Orders
