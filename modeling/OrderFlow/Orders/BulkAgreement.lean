import OrderFlow.Orders.BulkSpec

/-!
# Both databases after a batch

When the stream is answered and the commit goes through, every order of the
batch is told the outcomes of its own lines, is saved exactly when all of them
were reserved, and holds either exactly its lines or, if it was refused or its
release was executed, nothing.
-/

namespace OrderFlow.Orders

open OrderFlow.Grpc
open OrderFlow.Inventory

/-- Generated ids: no two alike, and known to neither database. -/
structure IdsFresh (request : BulkRequest) (world : World) : Prop where
  nodup : (request.orders.map Order.id).Nodup
  unsaved : ∀ order ∈ request.orders, world.orders.get? order.id = none
  unreserved : ∀ order ∈ request.orders,
    world.inventory.reservedForOrder order.id = []

/-- The other clients call for other orders. -/
structure Surroundings.Apart (surroundings : Surroundings)
    (request : BulkRequest) : Prop where
  lines : ∀ order ∈ request.orders, ∀ sent,
    ∀ call ∈ surroundings.beforeLine sent, call.ForOthers order.id
  releases : ∀ order ∈ request.orders, ∀ orderRef,
    ∀ call ∈ surroundings.beforeRelease orderRef, call.ForOthers order.id

/-- What the RESERVED row of an order line records. -/
def OrderItem.line (orderRef : CharField128) (item : OrderItem) :
    ReservedLine :=
  ⟨item.productId, item.quantity, orderRef, .empty, .reserved⟩

/-! ## The lines of one order -/

/-- The order a streamed line belongs to. -/
def answeredRef (answered : BulkReserveItem × BulkItemOutcome) : CharField128 :=
  answered.1.orderRef

theorem filterMap_taken_of_all {orderRef : CharField128}
    {answered : List (BulkReserveItem × BulkItemOutcome)}
    (hall : ∀ line ∈ selected answeredRef answered orderRef,
      line.2.reserved = true) :
    answered.filterMap (taken? orderRef) =
      (selected answeredRef answered orderRef).map fun line =>
        line.1.reserveItem.line orderRef .empty := by
  induction answered with
  | nil => rfl
  | cons line answered ih =>
      rw [List.filterMap_cons, taken?]
      by_cases horder : line.1.orderRef = orderRef
      · have hcons : selected answeredRef (line :: answered) orderRef =
            line :: selected answeredRef answered orderRef :=
          List.filter_cons_of_pos (decide_eq_true horder)
        rw [hcons, List.forall_mem_cons] at hall
        rw [if_pos ⟨horder, hall.1⟩, hcons, List.map_cons, ih hall.2]
      · have hcons : selected answeredRef (line :: answered) orderRef =
            selected answeredRef answered orderRef :=
          List.filter_cons_of_neg fun hsame =>
            horder (of_decide_eq_true hsame)
        rw [hcons] at hall
        rw [if_neg fun hboth => horder hboth.1, hcons]
        exact ih hall

theorem filterMap_taken_of_none {orderRef : CharField128}
    {answered : List (BulkReserveItem × BulkItemOutcome)}
    (hnone : ∀ line ∈ selected answeredRef answered orderRef,
      line.2.reserved = false) :
    answered.filterMap (taken? orderRef) = [] := by
  rw [List.filterMap_eq_nil_iff]
  intro line hline
  rw [taken?, if_neg]
  rintro ⟨horder, hreserved⟩
  have hselected : line ∈ selected answeredRef answered orderRef :=
    List.mem_filter.mpr ⟨hline, decide_eq_true horder⟩
  exact Bool.false_ne_true ((hnone line hselected).symm.trans hreserved)

/-- The outcomes of a batch follow its lines. -/
structure Follows (request : BulkRequest) (items : List BulkReserveItem)
    (outcomes : List BulkItemOutcome) : Prop where
  lines : items.map (fun item =>
      (item.orderRef, (⟨item.productId, item.quantity⟩ : OrderItem))) =
    flattened Order.id Order.items request.orders
  echo : outcomes.map (fun outcome => (outcome.orderRef, outcome.productId)) =
    items.map fun item => (item.orderRef, item.productId)

section Follows

variable {request : BulkRequest} {items : List BulkReserveItem}
variable {outcomes : List BulkItemOutcome}

theorem Follows.length (hfollows : Follows request items outcomes) :
    outcomes.length = items.length := by
  simpa using congrArg List.length hfollows.echo

/-- The outcomes, by order and product. -/
theorem Follows.products (hfollows : Follows request items outcomes) :
    outcomes.map (fun outcome => (outcome.orderRef, outcome.productId)) =
      flattened Order.id (fun order => order.items.map OrderItem.productId)
        request.orders := by
  calc outcomes.map (fun outcome => (outcome.orderRef, outcome.productId))
      = (items.map fun item => (item.orderRef,
          (⟨item.productId, item.quantity⟩ : OrderItem))).map fun entry =>
            (entry.1, entry.2.productId) := by
        rw [hfollows.echo, List.map_map]
        rfl
    _ = _ := by
        rw [hfollows.lines, flattened, flattened, List.map_flatMap]
        simp [Function.comp_def]

theorem Follows.known (hfollows : Follows request items outcomes) :
    ∀ outcome ∈ outcomes,
      outcome.orderRef ∈ request.orders.map Order.id := by
  intro outcome houtcome
  have hentry : (outcome.orderRef, outcome.productId) ∈
      flattened Order.id (fun order => order.items.map OrderItem.productId)
        request.orders := by
    rw [← hfollows.products]
    exact List.mem_map_of_mem houtcome
  exact mem_keys_of_mem_flattened hentry

/-- An order is told about its own products, line by line. -/
theorem Follows.outcomesOf_products (hfollows : Follows request items outcomes)
    (hnodup : (request.orders.map Order.id).Nodup) {order : Order}
    (horder : order ∈ request.orders) :
    (outcomesOf outcomes order.id).map ItemOutcome.productId =
      order.items.map OrderItem.productId := by
  rw [outcomesOf, List.map_map]
  exact map_selected hnodup hfollows.products horder

/-- The answered lines of an order carry its items and its outcomes. -/
theorem Follows.answered (hfollows : Follows request items outcomes)
    (hnodup : (request.orders.map Order.id).Nodup) {order : Order}
    (horder : order ∈ request.orders) :
    (selected answeredRef (items.zip outcomes) order.id).map (fun line =>
        (⟨line.1.productId, line.1.quantity⟩ : OrderItem)) = order.items ∧
      (selected answeredRef (items.zip outcomes) order.id).map Prod.snd =
        selected BulkItemOutcome.orderRef outcomes order.id := by
  have hfst : (items.zip outcomes).map Prod.fst = items :=
    List.map_fst_zip hfollows.length.ge
  have hsnd : (items.zip outcomes).map Prod.snd = outcomes :=
    List.map_snd_zip hfollows.length.le
  constructor
  · have hentries : (items.zip outcomes).map (fun line => (answeredRef line,
        (⟨line.1.productId, line.1.quantity⟩ : OrderItem))) =
          flattened Order.id Order.items request.orders := by
      rw [← hfollows.lines]
      conv_rhs => rw [← hfst]
      rw [List.map_map]
      rfl
    exact map_selected hnodup hentries horder
  · have hecho : (items.zip outcomes).map
        (BulkItemOutcome.orderRef ∘ Prod.snd) =
          (items.zip outcomes).map answeredRef := by
      calc (items.zip outcomes).map (BulkItemOutcome.orderRef ∘ Prod.snd)
          = (outcomes.map fun outcome =>
              (outcome.orderRef, outcome.productId)).map Prod.fst := by
            rw [← List.map_map, hsnd, List.map_map]
            rfl
        _ = (items.zip outcomes).map answeredRef := by
            rw [hfollows.echo, List.map_map]
            conv_lhs => rw [← hfst]
            rw [List.map_map]
            rfl
    conv_rhs => rw [← hsnd]
    rw [selected.map]
    congr 1
    apply List.filter_congr
    intro line hline
    rw [List.map_inj_left.mp hecho line hline]

end Follows

/-! ## A batch that is answered -/

/-- The messages as the server sees them. -/
def BulkRequest.stream (request : BulkRequest) (surroundings : Surroundings) :
    List ArrivingLine :=
  surroundings.arriving 0 (request.lines.map lineMessage)

theorem follows_stream (request : BulkRequest) (surroundings : Surroundings)
    (db : InventoryDb) :
    Follows request (request.lines.map lineMessage)
      (runShared db (request.stream surroundings)).2 where
  lines := request.lines_flattened
  echo := by
    conv_rhs => rw [← surroundings.items_arriving 0
      (request.lines.map lineMessage)]
    rw [runShared_echo, List.map_map]
    rfl

section Answered

variable {world : World} {request : BulkRequest} {faults : BulkFaults}
variable {surroundings : Surroundings}

/-- The regrouped outcomes of the batch. -/
def batchOutcomes (world : World) (request : BulkRequest)
    (surroundings : Surroundings) : CharField128 → List ItemOutcome :=
  outcomesOf (runShared world.inventory (request.stream surroundings)).2

/-- The orders of the batch with the status. -/
def batchWith (world : World) (request : BulkRequest)
    (surroundings : Surroundings) (status : BulkStatus) : List Order :=
  withStatus (batchOutcomes world request surroundings) status request.orders

theorem mem_batchWith {status : BulkStatus} {order : Order} :
    order ∈ batchWith world request surroundings status ↔
      order ∈ request.orders ∧
        statusOf (batchOutcomes world request surroundings order.id) =
          status := by
  simp [batchWith, withStatus]

/-- A call answers only without an error of its own and after all its
messages. -/
theorem sound_of_answered {summary : BulkReserveSummary}
    (hanswered : (reserveStockBulk surroundings faults request.lines
      world.inventory).2 = .ok summary) :
    faults.stream = none ∧ (requestGen request.lines).2 = true := by
  rw [reserveStockBulk] at hanswered
  cases hstream : faults.stream with
  | some error => simp [hstream] at hanswered
  | none =>
      cases hend : (requestGen request.lines).2 with
      | false => simp [hstream, hend] at hanswered
      | true => exact ⟨rfl, rfl⟩

/-- A call that answers has been sent every line, and executed it. -/
theorem reserveStockBulk_answered {summary : BulkReserveSummary}
    (hanswered : (reserveStockBulk surroundings faults request.lines
      world.inventory).2 = .ok summary) :
    reserveStockBulk surroundings faults request.lines world.inventory =
        ((runShared world.inventory (request.stream surroundings)).1,
          .ok summary) ∧
      summary.results =
        (runShared world.inventory (request.stream surroundings)).2 := by
  obtain ⟨hstream, hend⟩ := sound_of_answered hanswered
  have hmessages := congrArg Prod.fst
    (requestGen_of_fits (fits_of_requestGen hend))
  rw [reserveStockBulk, hstream] at hanswered ⊢
  simp only [hend, hmessages, reserveStockBulkShared_eq] at hanswered ⊢
  obtain rfl := Except.ok.inj hanswered
  exact ⟨rfl, rfl⟩

theorem createOrdersBulk_answered (hfresh : IdsFresh request world)
    {summary : BulkReserveSummary}
    (hanswered : (reserveStockBulk surroundings faults request.lines
      world.inventory).2 = .ok summary)
    (hcommit : faults.commit = .none) :
    createOrdersBulk world request faults surroundings =
      (⟨world.orders ++ batchWith world request surroundings .persisted,
        ((batchWith world request surroundings .partlyReserved).map
          Order.id).foldl (releaseQuietly surroundings faults)
            (runShared world.inventory (request.stream surroundings)).1⟩,
        .returned ⟨request.orders.length,
          (batchWith world request surroundings .persisted).length,
          request.orders.map
            (resultOf (batchOutcomes world request surroundings))⟩) := by
  obtain ⟨hanswer, hresults⟩ := reserveStockBulk_answered hanswered
  have hregroup := outcomesByRef_eq
    (follows_stream request surroundings world.inventory).known
  have hinsert : OrderDb.insertAll? world.orders
      (batchWith world request surroundings .persisted) =
        some (world.orders ++
          batchWith world request surroundings .persisted) := by
    apply insertAll?_of_fresh
    · exact hfresh.nodup.sublist (List.filter_sublist.map _)
    · exact fun order horder => hfresh.unsaved order (mem_batchWith.mp horder).1
  have hcommitted : commitOrders .none world.orders
      (withStatus (outcomesOf (runShared world.inventory
        (request.stream surroundings)).2) .persisted request.orders) =
        (world.orders ++ batchWith world request surroundings .persisted,
          false) := by
    rw [commitOrders]
    exact hinsert ▸ rfl
  rw [createOrdersBulk, hanswer]
  simp only [afterSummary, hresults, hregroup, foldl_tally, hcommit,
    Tally.start, List.nil_append, Nat.zero_add, hcommitted]
  rfl

theorem batchOutcomes_ne_nil (hfresh : IdsFresh request world) {order : Order}
    (horder : order ∈ request.orders) :
    batchOutcomes world request surroundings order.id ≠ [] := by
  have hproducts := (follows_stream request surroundings
    world.inventory).outcomesOf_products hfresh.nodup horder
  obtain ⟨draw, hdraw, rfl⟩ := List.mem_mapIdx.mp horder
  intro hnone
  rw [batchOutcomes] at hnone
  rw [hnone] at hproducts
  have hitems := request.payload.orders[draw].items_ne
  simp only [List.map_nil, List.map_map] at hproducts
  exact hitems (List.map_eq_nil_iff.mp hproducts.symm)

/-- What an order holds after the stream, before any release. -/
theorem heldLines_stream
    (hids : (world.inventory.reservations.map StockReservation.id).Nodup)
    (hfresh : IdsFresh request world) (hapart : surroundings.Apart request)
    {order : Order} (horder : order ∈ request.orders) :
    heldLines (runShared world.inventory (request.stream surroundings)).1
        order.id =
      ((request.lines.map lineMessage).zip
        (runShared world.inventory (request.stream surroundings)).2).filterMap
          (taken? order.id) := by
  have hothers : ∀ arriving ∈ request.stream surroundings,
      ∀ call ∈ arriving.others, call.ForOthers order.id := by
    intro arriving harriving
    obtain ⟨sent, hsent⟩ := Surroundings.others_arriving harriving
    rw [hsent]
    exact hapart.lines order horder sent
  have hheld := heldLines_runShared hids hothers
  have hbefore : heldLines world.inventory order.id = [] := by
    rw [heldLines, hfresh.unreserved order horder]
    rfl
  rw [hbefore, List.nil_append] at hheld
  rw [hheld, BulkRequest.stream, surroundings.items_arriving]

/-- An order whose lines were all reserved holds exactly its lines. -/
theorem heldLines_persisted
    (hids : (world.inventory.reservations.map StockReservation.id).Nodup)
    (hfresh : IdsFresh request world) (hapart : surroundings.Apart request)
    {order : Order} (horder : order ∈ request.orders)
    (hall : ∀ item ∈ batchOutcomes world request surroundings order.id,
      item.reserved = true) :
    heldLines (runShared world.inventory (request.stream surroundings)).1
      order.id = order.items.map (OrderItem.line order.id) := by
  obtain ⟨hitems, houtcomes⟩ := (follows_stream request surroundings
    world.inventory).answered hfresh.nodup horder
  rw [heldLines_stream hids hfresh hapart horder, filterMap_taken_of_all]
  · conv_rhs => rw [← hitems]
    rw [List.map_map]
    rfl
  · intro line hline
    have houtcome := List.mem_map_of_mem (f := Prod.snd) hline
    rw [houtcomes] at houtcome
    exact hall (itemResultOut line.2) (List.mem_map_of_mem houtcome)

/-- An order of which no line was reserved holds nothing. -/
theorem heldLines_failed
    (hids : (world.inventory.reservations.map StockReservation.id).Nodup)
    (hfresh : IdsFresh request world) (hapart : surroundings.Apart request)
    {order : Order} (horder : order ∈ request.orders)
    (hnone : ∀ item ∈ batchOutcomes world request surroundings order.id,
      item.reserved = false) :
    heldLines (runShared world.inventory (request.stream surroundings)).1
      order.id = [] := by
  obtain ⟨_, houtcomes⟩ := (follows_stream request surroundings
    world.inventory).answered hfresh.nodup horder
  rw [heldLines_stream hids hfresh hapart horder]
  apply filterMap_taken_of_none
  intro line hline
  have houtcome := List.mem_map_of_mem (f := Prod.snd) hline
  rw [houtcomes] at houtcome
  exact hnone (itemResultOut line.2) (List.mem_map_of_mem houtcome)

/-! ## The agreement -/

/-- The outcome of a result's line, as it was streamed. -/
def BulkOrderResult.echo (result : BulkOrderResult) (item : ItemOutcome) :
    BulkItemOutcome :=
  ⟨result.orderRef, item.productId, item.reserved, item.reason⟩

/-- One order of the batch, its result and the two databases. -/
structure OrderAgrees (faults : BulkFaults) (after : World) (order : Order)
    (result : BulkOrderResult) : Prop where
  ref : result.orderRef = order.id
  products : result.items.map ItemOutcome.productId =
    order.items.map OrderItem.productId
  persisted_iff : result.status = .persisted ↔
    ∀ item ∈ result.items, item.reserved = true
  saved : result.status = .persisted →
    after.orders.get? order.id = some order
  unsaved : result.status ≠ .persisted → after.orders.get? order.id = none
  persisted_rows : result.status = .persisted →
    heldLines after.inventory order.id =
      order.items.map (OrderItem.line order.id)
  failed_rows : result.status = .failed →
    after.inventory.reservedForOrder order.id = []
  released_rows : result.status = .partlyReserved →
    (faults.release order.id).executed = true →
      after.inventory.reservedForOrder order.id = []

/-- The answer to a batch and the two databases after it. -/
structure BatchAgrees (request : BulkRequest) (faults : BulkFaults)
    (streamed : List BulkItemOutcome) (after : World) (out : BulkOrderOut) :
    Prop where
  total : out.totalOrders = request.payload.orders.length
  count : out.persistedCount = out.results.countP fun result =>
    result.status = .persisted
  outcomes : (out.results.flatMap fun result =>
    result.items.map result.echo) = streamed
  orders : List.Forall₂ (OrderAgrees faults after) request.orders out.results

theorem heldLines_eq_nil_iff (db : InventoryDb) (orderRef : CharField128) :
    heldLines db orderRef = [] ↔ db.reservedForOrder orderRef = [] :=
  List.map_eq_nil_iff

/-- The outcomes of an order, streamed again under its id. -/
theorem map_echo_resultOf (streamed : List BulkItemOutcome) (order : Order) :
    (resultOf (outcomesOf streamed) order).items.map
        (resultOf (outcomesOf streamed) order).echo =
      selected BulkItemOutcome.orderRef streamed order.id := by
  change ((selected BulkItemOutcome.orderRef streamed order.id).map
    itemResultOut).map _ = _
  rw [List.map_map]
  apply (List.map_congr_left _).trans (List.map_id _)
  intro outcome houtcome
  obtain ⟨_, hsame⟩ := List.mem_filter.mp houtcome
  rw [Function.comp_apply, BulkOrderResult.echo, itemResultOut, resultOf,
    ← of_decide_eq_true hsame]
  rfl

/-- The releases touch partly reserved orders only. -/
theorem heldLines_after_releases
    (hids : (world.inventory.reservations.map StockReservation.id).Nodup)
    (hapart : surroundings.Apart request) {order : Order}
    (horder : order ∈ request.orders)
    (hother : order.id ∉ (batchWith world request surroundings
      .partlyReserved).map Order.id) :
    heldLines (((batchWith world request surroundings .partlyReserved).map
        Order.id).foldl (releaseQuietly surroundings faults)
          (runShared world.inventory (request.stream surroundings)).1)
        order.id =
      heldLines (runShared world.inventory (request.stream surroundings)).1
        order.id := by
  refine congrArg (List.map StockReservation.line)
    (reservedForOrder_releases_other (runShared_ids_nodup hids _) ?_ hother
      (hapart.releases order horder))
  intro orderRef href
  obtain ⟨partly, hpartly, rfl⟩ := List.mem_map.mp href
  exact BulkRequest.id_ne_empty (mem_batchWith.mp hpartly).1

theorem id_mem_batchWith_iff {status : BulkStatus} {order : Order}
    (horder : order ∈ request.orders) :
    order.id ∈ (batchWith world request surroundings status).map Order.id ↔
      statusOf (batchOutcomes world request surroundings order.id) =
        status := by
  constructor
  · intro hid
    obtain ⟨other, hother, hsame⟩ := List.mem_map.mp hid
    obtain ⟨hmem, hstatus⟩ := mem_batchWith.mp hother
    exact hsame ▸ hstatus
  · exact fun hstatus =>
      List.mem_map_of_mem (mem_batchWith.mpr ⟨horder, hstatus⟩)

/-- The saved orders of a batch are found under their ids. -/
theorem get?_batch (hfresh : IdsFresh request world) {status : BulkStatus}
    {order : Order} (horder : order ∈ request.orders) :
    OrderDb.get? (world.orders ++ batchWith world request surroundings status)
        order.id =
      if statusOf (batchOutcomes world request surroundings order.id) = status
      then some order else none := by
  have hunsaved : world.orders.find? (fun other => other.id = order.id) =
      none := hfresh.unsaved order horder
  rw [OrderDb.get?, List.find?_append, hunsaved, Option.none_or]
  split_ifs with hstatus
  · have hmem : order ∈ batchWith world request surroundings status :=
      mem_batchWith.mpr ⟨horder, hstatus⟩
    cases hfound : (batchWith world request surroundings status).find?
        fun other => other.id = order.id with
    | none =>
        exact absurd (decide_eq_true rfl)
          (List.find?_eq_none.mp hfound order hmem)
    | some other =>
        have hother := (mem_batchWith.mp
          (List.mem_of_find?_eq_some hfound)).1
        have hid : other.id = order.id := by
          simpa using List.find?_some hfound
        rw [List.inj_on_of_nodup_map hfresh.nodup hother horder hid]
  · rw [List.find?_eq_none]
    intro other hother hsame
    have hid : other.id = order.id := of_decide_eq_true hsame
    exact hstatus ((id_mem_batchWith_iff horder).mp
      (hid ▸ List.mem_map_of_mem hother))

theorem orderAgrees
    (hids : (world.inventory.reservations.map StockReservation.id).Nodup)
    (hfresh : IdsFresh request world) (hapart : surroundings.Apart request)
    {order : Order} (horder : order ∈ request.orders) :
    OrderAgrees faults
      ⟨world.orders ++ batchWith world request surroundings .persisted,
        ((batchWith world request surroundings .partlyReserved).map
          Order.id).foldl (releaseQuietly surroundings faults)
            (runShared world.inventory (request.stream surroundings)).1⟩
      order (resultOf (batchOutcomes world request surroundings) order) := by
  have hne := @batchOutcomes_ne_nil _ _ surroundings hfresh _ horder
  have hpartly := @id_mem_batchWith_iff world _ surroundings .partlyReserved _
    horder
  constructor
  · rfl
  · exact (follows_stream request surroundings
      world.inventory).outcomesOf_products hfresh.nodup horder
  · exact statusOf_persisted_iff hne
  · intro hstatus
    exact (get?_batch hfresh horder).trans (if_pos hstatus)
  · intro hstatus
    exact (get?_batch hfresh horder).trans (if_neg hstatus)
  · intro (hstatus : statusOf _ = _)
    rw [heldLines_after_releases hids hapart horder
      (by rw [hpartly, hstatus]; decide)]
    exact heldLines_persisted hids hfresh hapart horder
      ((statusOf_persisted_iff hne).mp hstatus)
  · intro (hstatus : statusOf _ = _)
    rw [← heldLines_eq_nil_iff, heldLines_after_releases hids hapart horder
      (by rw [hpartly, hstatus]; decide)]
    exact heldLines_failed hids hfresh hapart horder
      ((statusOf_failed_iff hne).mp hstatus)
  · intro hstatus hexecuted
    refine reservedForOrder_releases (runShared_ids_nodup hids _) ?_ ?_
      (hpartly.mpr hstatus) hexecuted (hapart.releases order horder)
    · intro orderRef href
      obtain ⟨other, hother, rfl⟩ := List.mem_map.mp href
      exact BulkRequest.id_ne_empty (mem_batchWith.mp hother).1
    · exact hfresh.nodup.sublist (List.filter_sublist.map _)

/-- An answered and committed batch leaves both databases in agreement,
whatever other orders do in between and whichever releases fail. -/
theorem batch_databases_agree
    (hids : (world.inventory.reservations.map StockReservation.id).Nodup)
    (hfresh : IdsFresh request world) (hapart : surroundings.Apart request)
    {summary : BulkReserveSummary}
    (hanswered : (reserveStockBulk surroundings faults request.lines
      world.inventory).2 = .ok summary)
    (hcommit : faults.commit = .none) :
    ∃ after out,
      createOrdersBulk world request faults surroundings =
        (after, .returned out) ∧
      BatchAgrees request faults summary.results after out := by
  refine ⟨_, _, createOrdersBulk_answered hfresh hanswered hcommit, ?_⟩
  rw [(reserveStockBulk_answered hanswered).2]
  constructor
  · exact List.length_mapIdx
  · change (request.orders.filter _).length = _
    rw [List.countP_map, List.countP_eq_length_filter]
    rfl
  · rw [List.flatMap_map]
    calc (request.orders.flatMap fun order =>
          (resultOf (batchOutcomes world request surroundings) order).items.map
            (resultOf (batchOutcomes world request surroundings) order).echo)
        = request.orders.flatMap fun order =>
            selected BulkItemOutcome.orderRef (runShared world.inventory
              (request.stream surroundings)).2 order.id :=
          List.flatMap_congr fun order _ => map_echo_resultOf _ order
      _ = (runShared world.inventory (request.stream surroundings)).2 :=
          flatMap_selected hfresh.nodup (follows_stream request surroundings
            world.inventory).products
  · rw [List.forall₂_map_right_iff, List.forall₂_same]
    exact fun order horder => orderAgrees hids hfresh hapart horder

end Answered

/-! ## A mixed batch -/

def Uuid4.zero : Uuid4 :=
  ⟨String.ofList (List.replicate 36 '0'),
    String.length_ofList.trans List.length_replicate⟩

/-- A text as a uuid; one of another length is dropped. -/
def Uuid4.ofText (text : String) : Uuid4 :=
  if hlength : text.length = 36 then ⟨text, hlength⟩ else .zero

/-- `quantity + 1` of product `productId + 1`. -/
def OrderItemIn.ofNat (productId quantity : ℕ) : OrderItemIn :=
  ⟨productId + 1, quantity + 1, by omega, by omega⟩

def OrderCreate.ofLines (first : OrderItemIn) (rest : List OrderItemIn) :
    OrderCreate :=
  ⟨first :: rest, List.cons_ne_nil first rest⟩

/-- All ten gizmos; one more of them and two widgets; eleven gizmos. -/
def mixedBatch : BulkRequest where
  payload :=
    ⟨[.ofLines (.ofNat 2 9) [], .ofLines (.ofNat 2 0) [.ofNat 0 1],
      .ofLines (.ofNat 2 10) []], List.cons_ne_nil _ _⟩
  uuid draw := match draw with
    | 0 => .ofText "a3b1c5d7-0001-4aaa-8aaa-000000000001"
    | 1 => .ofText "a3b1c5d7-0002-4aaa-8aaa-000000000002"
    | _ => .ofText "a3b1c5d7-0003-4aaa-8aaa-000000000003"

/-- Every release times out on the client after it was executed. -/
def slowReleases : BulkFaults where
  release _ := .failed ⟨.deadlineExceeded, "Deadline Exceeded"⟩ true

/-- Another client takes a gadget before the second line. -/
def busyInventory : Surroundings where
  clock sent _ := sent
  beforeLine sent :=
    if sent = 1 then
      [.reserve ⟨.ofText "order-9", [⟨2, 1⟩], .ofText "order-9"⟩ id]
    else []
  beforeRelease _ := []

theorem busyInventory_apart : busyInventory.Apart mixedBatch where
  lines := by
    have hids : ∀ order ∈ mixedBatch.orders,
        CharField128.ofText "order-9" ≠ order.id := by decide
    intro order horder sent call hcall
    by_cases hsent : sent = 1
    · simp only [busyInventory, hsent, if_true, List.mem_singleton] at hcall
      exact hcall ▸ hids order horder
    · simp [busyInventory, hsent] at hcall
  releases _ _ _ _ hcall := absurd hcall List.not_mem_nil

/-- The first order is saved with its gizmos, of the second one the widgets are
given back, and of the third one nothing was reserved. -/
theorem batch_databases_agree_mixed : ∃ summary after out,
    createOrdersBulk ⟨[], seededDb⟩ mixedBatch slowReleases busyInventory =
        (after, .returned out) ∧
      out.results.map BulkOrderResult.status =
        [.persisted, .partlyReserved, .failed] ∧
      after.orders =
        [⟨(mixedBatch.uuid 0).toCharField, "CONFIRMED", [⟨3, 10⟩]⟩] ∧
      after.inventory.reservations.map (fun row =>
          (row.orderRef, row.productId, row.quantity, row.status)) =
        [((mixedBatch.uuid 0).toCharField, 3, 10, .reserved),
          (.ofText "order-9", 2, 1, .reserved),
          ((mixedBatch.uuid 1).toCharField, 1, 2, .released)] ∧
      BatchAgrees mixedBatch slowReleases summary after out := by
  obtain ⟨after, out, hbatch, hagrees⟩ :=
    @batch_databases_agree ⟨[], seededDb⟩ mixedBatch slowReleases busyInventory
      (by decide) ⟨by decide, fun _ _ => rfl, fun _ _ => rfl⟩
      busyInventory_apart (InventoryServicer.reserveStockBulkShared
        (mixedBatch.stream busyInventory) seededDb).2 rfl rfl
  obtain ⟨answer, hanswer, hstatuses⟩ : ∃ answer,
      (createOrdersBulk ⟨[], seededDb⟩ mixedBatch slowReleases
        busyInventory).2 = .returned answer ∧
      answer.results.map BulkOrderResult.status =
        [.persisted, .partlyReserved, .failed] := ⟨_, rfl, rfl⟩
  have hafter : (createOrdersBulk ⟨[], seededDb⟩ mixedBatch slowReleases
      busyInventory).1 = after := congrArg Prod.fst hbatch
  obtain rfl : answer = out :=
    BulkExit.returned.inj (hanswer.symm.trans (congrArg Prod.snd hbatch))
  refine ⟨_, after, answer, hbatch, hstatuses, ?_, ?_, hagrees⟩
  · rw [← hafter]
    rfl
  · rw [← hafter]
    decide +kernel

end OrderFlow.Orders
