import OrderFlow.Orders.BulkSpec
import OrderFlow.Orders.CreateOrder

/-!
# The ranges along the path of an order

The edge only bounds `product_id` and `quantity` from below.  On their way they
are copied into an int64 and an int32 field of a message and into two 32-bit
columns of `order_items`.
-/

namespace OrderFlow.Orders

open OrderFlow.Grpc
open OrderFlow.Inventory

/-! ## The columns of `order_items` -/

/-- `product_id` and `quantity` are both `sa.Integer()`. -/
def OrderItem.Storable (item : OrderItem) : Prop :=
  InInt32 item.productId ∧ InInt32 item.quantity

def Order.Storable (order : Order) : Prop :=
  ∀ item ∈ order.items, item.Storable

instance (item : OrderItem) : Decidable item.Storable :=
  inferInstanceAs (Decidable (_ ∧ _))

instance (order : Order) : Decidable order.Storable :=
  inferInstanceAs (Decidable (∀ item ∈ order.items, _))

/-- A value outside its column makes the commit raise, and nothing is saved. -/
def CommitFault.onColumns (fault : CommitFault) (added : List Order) :
    CommitFault :=
  if ∀ order ∈ added, order.Storable then fault else .notSaved

def Faults.onColumns (faults : Faults) (order : Order) : Faults :=
  { faults with commit := faults.commit.onColumns [order] }

theorem CommitFault.onColumns_of_storable (fault : CommitFault)
    {added : List Order} (hstorable : ∀ order ∈ added, order.Storable) :
    fault.onColumns added = fault := by
  rw [onColumns, if_pos hstorable]

theorem Faults.onColumns_of_storable (faults : Faults) {order : Order}
    (hstorable : order.Storable) : faults.onColumns order = faults := by
  rw [onColumns, faults.commit.onColumns_of_storable (by simpa using hstorable)]

theorem Faults.commit_onColumns (faults : Faults) {order : Order}
    (hstorable : ¬ order.Storable) :
    (faults.onColumns order).commit = .notSaved := by
  simp [onColumns, CommitFault.onColumns, hstorable]

/-- `create_order` on the columns that order-db has. -/
def createOrderOnColumns (world : World) (request : CreateRequest)
    (faults : Faults) : World × Phase :=
  createOrder world request (faults.onColumns request.order)

/-! ## The line that every hop takes -/

/-- The line fits its message. -/
def OrderItemIn.Encodable (item : OrderItemIn) : Prop :=
  InInt64 item.productId ∧ InInt32 item.quantity

/-- The line fits its row. -/
def OrderItemIn.Storable (item : OrderItemIn) : Prop :=
  InInt32 item.productId ∧ InInt32 item.quantity

/-- Both numbers are at most 2147483647. -/
def OrderItemIn.Small (item : OrderItemIn) : Prop :=
  item.productId < 2 ^ 31 ∧ item.quantity < 2 ^ 31

instance (item : OrderItemIn) : Decidable item.Small :=
  inferInstanceAs (Decidable (_ ∧ _))

section Lines

variable {item : OrderItemIn}

theorem OrderItemIn.storable_iff_small : item.Storable ↔ item.Small := by
  have hproduct := item.productId_pos
  have hquantity := item.quantity_pos
  simp only [Storable, Small, InInt32]
  omega

theorem OrderItemIn.Small.encodable (hsmall : item.Small) :
    item.Encodable := by
  have hproduct := item.productId_pos
  obtain ⟨hid, hquantity⟩ := OrderItemIn.storable_iff_small.mpr hsmall
  simp only [InInt32] at hid
  refine ⟨?_, hquantity⟩
  simp only [InInt64]
  omega

theorem CreateRequest.encodable_iff (request : CreateRequest) :
    request.Encodable ↔ ∀ item ∈ request.payload.items, item.Encodable := by
  simp [Encodable, lineItems, OrderItemIn.Encodable]

theorem CreateRequest.storable_iff (request : CreateRequest) :
    request.order.Storable ↔
      ∀ item ∈ request.payload.items, item.Storable := by
  simp [Order.Storable, order, OrderItem.Storable, OrderItemIn.Storable]

end Lines

/-! ## One order -/

/-- The order is there, or the client was told why not. -/
def Ended (result : World × Phase) : Prop :=
  (∃ order ∈ result.1.orders, result.2 = .done (.returned order)) ∨
    ∃ exception, result.2 = .done (.http exception)

/-- Every later hop can represent the body. -/
structure Representable (payload : OrderCreate) : Prop where
  fields : ∀ item ∈ payload.items, item.Encodable
  columns : ∀ item ∈ payload.items, item.Storable
  builds : ∀ request : CreateRequest, request.payload = payload →
    reserveStockRequest request.orderRef request.lineItems request.orderRef =
      .ok request.message
  /-- stock that was reserved in a session without faults is saved -/
  saved : ∀ (world : World) (request : CreateRequest) (faults : Faults),
    request.payload = payload →
    world.orders.get? request.orderRef = none →
    faults.reserve = .answered → faults.raises = false →
    (reserveStock world.inventory
      (request.call world.inventory)).2.success = true →
    createOrderOnColumns world request faults =
      (⟨world.orders ++ [request.order],
        (reserveStock world.inventory (request.call world.inventory)).1⟩,
        .done (.returned request.order))
  /-- whatever else fails, as long as the handler's own rollback does not -/
  ended : ∀ (world : World) (request : CreateRequest) (faults : Faults),
    request.payload = payload → faults.rollbackRaises = false →
    Ended (createOrderOnColumns world request faults)

section Order

variable {world : World} {request : CreateRequest} {faults : Faults}

theorem createOrder_ended (hencodable : request.Encodable)
    (hrollback : faults.rollbackRaises = false) :
    Ended (createOrder world request faults) := by
  have hcase := createOrder_case world request faults
  generalize createOrder world request faults = result at hcase ⊢
  cases hcase with
  | existing order hexisting =>
      exact .inl ⟨order, (OrderDb.get?_eq_some hexisting).1, rfl⟩
  | notEncodable _ hwide => exact absurd hencodable hwide
  | notAnswered => exact .inr ⟨_, rfl⟩
  | rejected => exact .inr ⟨_, rfl⟩
  | persisted =>
      exact .inl ⟨_, List.mem_append_right _ List.mem_cons_self, rfl⟩
  | rollbackFailed _ _ _ _ _ hraised =>
      exact absurd (hrollback.symm.trans hraised) Bool.false_ne_true
  | compensated => exact .inr ⟨_, rfl⟩

theorem createOrder_persisted
    (hfresh : world.orders.get? request.orderRef = none)
    (hencodable : request.Encodable)
    (hreserve : faults.reserve = .answered)
    (hraises : faults.raises = false)
    (hsuccess : (reserveStock world.inventory
      (request.call world.inventory)).2.success = true) :
    createOrder world request faults =
      (⟨world.orders ++ [request.order],
        (reserveStock world.inventory (request.call world.inventory)).1⟩,
        .done (.returned request.order)) := by
  have hcase := createOrder_case world request faults
  generalize createOrder world request faults = result at hcase ⊢
  cases hcase with
  | existing order hexisting =>
      exact absurd (hfresh.symm.trans hexisting) (by simp)
  | notEncodable _ hwide => exact absurd hencodable hwide
  | notAnswered error executed _ _ hfailed =>
      exact absurd (hreserve.symm.trans hfailed) (by simp)
  | rejected _ _ _ hfailed =>
      exact absurd (hsuccess.symm.trans hfailed) (by simp)
  | persisted => rfl
  | rollbackFailed _ _ _ _ hraised _ =>
      exact absurd (hraises.symm.trans hraised) Bool.false_ne_true
  | compensated _ _ _ _ hraised _ =>
      exact absurd (hraises.symm.trans hraised) Bool.false_ne_true

/-- A number outside its field: the exception of the message leaves
`create_order` before the call. -/
theorem createOrderOnColumns_notEncodable
    (hfresh : world.orders.get? request.orderRef = none)
    (hwide : ¬ ∀ item ∈ request.payload.items, item.Encodable) :
    createOrderOnColumns world request faults =
      (world, .done (.raised .valueError)) := by
  rw [← request.encodable_iff] at hwide
  rw [createOrderOnColumns, createOrder, advances, advance, hfresh,
    afterLookup_none, if_neg hwide, advances_done]

/-- A product id of 33 to 63 bits: the stock is reserved, order-db refuses the
row, and the order ends with the 500 of a failed save. -/
theorem createOrderOnColumns_notStorable
    (hfresh : world.orders.get? request.orderRef = none)
    (hencodable : request.Encodable)
    (hwide : ¬ ∀ item ∈ request.payload.items, item.Storable)
    (hreserve : faults.reserve = .answered)
    (hrollback : faults.rollbackRaises = false)
    (hsuccess : (reserveStock world.inventory
      (request.call world.inventory)).2.success = true) :
    (createOrderOnColumns world request faults).1.orders = world.orders ∧
      (createOrderOnColumns world request faults).2 =
        .done (.http ⟨500, .text "failed to persist order"⟩) := by
  rw [← request.storable_iff] at hwide
  have hcommit := faults.commit_onColumns hwide
  have hraises : (faults.onColumns request.order).raises = true := by
    simp [Faults.raises, hcommit]
  have hsaves : (faults.onColumns request.order).saves = false := by
    simp [Faults.saves, hcommit]
  have hcase :=
    createOrder_case world request (faults.onColumns request.order)
  rw [createOrderOnColumns]
  generalize createOrder world request (faults.onColumns request.order) =
    result at hcase ⊢
  cases hcase with
  | existing order hexisting =>
      exact absurd (hfresh.symm.trans hexisting) (by simp)
  | notEncodable _ hnot => exact absurd hencodable hnot
  | notAnswered error executed _ _ hfailed =>
      exact absurd (hreserve.symm.trans hfailed) (by simp)
  | rejected _ _ _ hfailed =>
      exact absurd (hsuccess.symm.trans hfailed) (by simp)
  | persisted _ _ _ _ hnot =>
      exact absurd (hraises.symm.trans hnot) (by simp)
  | rollbackFailed _ _ _ _ _ hraised =>
      exact absurd (hrollback.symm.trans hraised) Bool.false_ne_true
  | compensated => simp [hsaves]

end Order

/-- The messages alone decide whether `create_order` ends as it should; the
columns only turn a saved order into a 500. -/
theorem ended_iff (payload : OrderCreate) :
    (∀ (world : World) (request : CreateRequest) (faults : Faults),
      request.payload = payload → faults.rollbackRaises = false →
      Ended (createOrderOnColumns world request faults)) ↔
      ∀ item ∈ payload.items, item.Encodable := by
  constructor
  · intro hended
    by_contra hwide
    let request : CreateRequest := { twoWidgets with payload := payload }
    have hresult := hended ⟨[], seededDb⟩ request {} rfl rfl
    rw [createOrderOnColumns_notEncodable rfl hwide] at hresult
    rcases hresult with ⟨order, _, hreturned⟩ | ⟨exception, hhttp⟩
    · cases hreturned
    · cases hhttp
  · rintro hfields world request faults rfl hrollback
    exact createOrder_ended (request.encodable_iff.mpr hfields) hrollback

theorem representable_of_small {payload : OrderCreate}
    (hsmall : ∀ item ∈ payload.items, item.Small) :
    Representable payload := by
  have hfields : ∀ item ∈ payload.items, item.Encodable :=
    fun item hitem => (hsmall item hitem).encodable
  have hcolumns : ∀ item ∈ payload.items, item.Storable :=
    fun item hitem => OrderItemIn.storable_iff_small.mpr (hsmall item hitem)
  refine ⟨hfields, hcolumns, ?_, ?_, ?_⟩
  · rintro request rfl
    rw [reserveStockRequest_eq, if_pos (request.encodable_iff.mpr hfields)]
  · rintro world request faults rfl hfresh hreserve hraises hsuccess
    rw [createOrderOnColumns,
      faults.onColumns_of_storable (request.storable_iff.mpr hcolumns)]
    exact createOrder_persisted hfresh (request.encodable_iff.mpr hfields)
      hreserve hraises hsuccess
  · exact (ended_iff payload).mpr hfields

/-! ## A batch -/

/-- Every later hop can represent the batch. -/
structure BulkRepresentable (payload : BulkOrderCreate) : Prop where
  fields : ∀ order ∈ payload.orders, ∀ item ∈ order.items, item.Encodable
  columns : ∀ order ∈ payload.orders, ∀ item ∈ order.items, item.Storable
  /-- the generator comes to its end -/
  builds : ∀ request : BulkRequest, request.payload = payload →
    requestGen request.lines = (request.lines.map lineMessage, true)
  /-- whichever orders come out reserved, their rows are taken -/
  saved : ∀ (request : BulkRequest) (orders : OrderDb) (added : List Order),
    request.payload = payload → added.Sublist request.orders →
    (added.map Order.id).Nodup →
    (∀ order ∈ added, orders.get? order.id = none) →
    commitOrders (CommitFault.none.onColumns added) orders added =
      (orders ++ added, false)
  /-- no message breaks the call off -/
  completed : ∀ (world : World) (request : BulkRequest) (faults : BulkFaults)
    (surroundings : Surroundings), request.payload = payload →
    (createOrdersBulk world request faults surroundings).2 ≠
      .raised .cancelledError

section Batch

variable {request : BulkRequest}

theorem BulkRequest.items_of_mem {order : Order}
    (horder : order ∈ request.orders) :
    ∃ body ∈ request.payload.orders, order.items =
      body.items.map fun item => ⟨item.productId, item.quantity⟩ := by
  obtain ⟨draw, hdraw, rfl⟩ := List.mem_mapIdx.mp horder
  exact ⟨_, List.getElem_mem hdraw, rfl⟩

theorem BulkRequest.lines_fit
    (hfields : ∀ order ∈ request.payload.orders, ∀ item ∈ order.items,
      item.Encodable) :
    ∀ line ∈ request.lines, InInt64 line.2.1 ∧ InInt32 line.2.2 := by
  intro line hline
  obtain ⟨order, horder, hmem⟩ := List.mem_flatMap.mp hline
  obtain ⟨body, hbody, hitems⟩ := BulkRequest.items_of_mem horder
  rw [hitems, List.map_map] at hmem
  obtain ⟨item, hitem, rfl⟩ := List.mem_map.mp hmem
  exact hfields body hbody item hitem

theorem BulkRequest.storable_of_mem
    (hcolumns : ∀ order ∈ request.payload.orders, ∀ item ∈ order.items,
      item.Storable)
    {order : Order} (horder : order ∈ request.orders) : order.Storable := by
  obtain ⟨body, hbody, hitems⟩ := BulkRequest.items_of_mem horder
  intro row hrow
  rw [hitems] at hrow
  obtain ⟨item, hitem, rfl⟩ := List.mem_map.mp hrow
  exact hcolumns body hbody item hitem

theorem afterSummary_ne_cancelled (world : World) (faults : BulkFaults)
    (surroundings : Surroundings) (summary : BulkReserveSummary) :
    (afterSummary world request faults surroundings summary).2 ≠
      .raised .cancelledError := by
  rw [afterSummary]
  split
  · simp
  · dsimp only
    split_ifs <;> simp

/-- Only a message that cannot be built cancels the call. -/
theorem createOrdersBulk_ne_cancelled (world : World) (faults : BulkFaults)
    (surroundings : Surroundings) (hend : (requestGen request.lines).2 = true) :
    (createOrdersBulk world request faults surroundings).2 ≠
      .raised .cancelledError := by
  rw [createOrdersBulk, reserveStockBulk, hend]
  cases faults.stream with
  | none => exact afterSummary_ne_cancelled _ _ _ _
  | some error => simp [afterStreamError]

end Batch

theorem bulkRepresentable_of_small {payload : BulkOrderCreate}
    (hsmall : ∀ order ∈ payload.orders, ∀ item ∈ order.items, item.Small) :
    BulkRepresentable payload := by
  have hfields : ∀ order ∈ payload.orders, ∀ item ∈ order.items,
      item.Encodable :=
    fun order horder item hitem => (hsmall order horder item hitem).encodable
  have hcolumns : ∀ order ∈ payload.orders, ∀ item ∈ order.items,
      item.Storable :=
    fun order horder item hitem =>
      OrderItemIn.storable_iff_small.mpr (hsmall order horder item hitem)
  refine ⟨hfields, hcolumns, ?_, ?_, ?_⟩
  · rintro request rfl
    exact requestGen_of_fits (BulkRequest.lines_fit hfields)
  · rintro request orders added rfl hsublist hnodup hfresh
    have hstorable : ∀ order ∈ added, order.Storable := fun order horder =>
      BulkRequest.storable_of_mem hcolumns (hsublist.subset horder)
    have hinsert := insertAll?_of_fresh hnodup hfresh
    simp only [CommitFault.onColumns_of_storable _ hstorable, commitOrders,
      hinsert]
  · rintro world request faults surroundings rfl
    refine createOrdersBulk_ne_cancelled world faults surroundings ?_
    rw [requestGen_of_fits (BulkRequest.lines_fit hfields)]

/-! ## The bodies that pass all hops -/

/-- The edge accepts any positive numbers; the later hops can represent a body
exactly when all of them are at most 2147483647. -/
theorem representable_iff (payload : OrderCreate) (batch : BulkOrderCreate) :
    (Representable payload ↔ ∀ item ∈ payload.items, item.Small) ∧
    (BulkRepresentable batch ↔
      ∀ order ∈ batch.orders, ∀ item ∈ order.items, item.Small) := by
  refine ⟨⟨fun hrepresentable item hitem => ?_, representable_of_small⟩,
    ⟨fun hrepresentable order horder item hitem => ?_,
      bulkRepresentable_of_small⟩⟩
  · exact OrderItemIn.storable_iff_small.mp
      (hrepresentable.columns item hitem)
  · exact OrderItemIn.storable_iff_small.mp
      (hrepresentable.columns order horder item hitem)

/-- 2147483648 widgets. -/
def tooManyWidgets : CreateRequest :=
  { twoWidgets with
    payload := ⟨[⟨1, 2147483648, Int.one_pos, by decide⟩], by decide⟩ }

/-- The edge accepts the body, and `create_order` ends with the `ValueError` of
the message. -/
theorem tooManyWidgets_notRepresentable :
    createOrderOnColumns ⟨[], seededDb⟩ tooManyWidgets {} =
        (⟨[], seededDb⟩, .done (.raised .valueError)) ∧
      ¬ ∀ payload : OrderCreate, Representable payload := by
  have hraised : createOrderOnColumns ⟨[], seededDb⟩ tooManyWidgets {} =
      (⟨[], seededDb⟩, .done (.raised .valueError)) := by
    refine createOrderOnColumns_notEncodable rfl fun hfields => ?_
    have hquantity := (hfields _ List.mem_cons_self).2
    exact absurd hquantity (by decide)
  refine ⟨hraised, fun hall => ?_⟩
  have hfields := (ended_iff tooManyWidgets.payload).mp
    (hall tooManyWidgets.payload).ended
  exact absurd (hfields _ List.mem_cons_self).2 (by decide)

end OrderFlow.Orders
