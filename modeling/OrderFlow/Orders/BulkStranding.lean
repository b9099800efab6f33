import OrderFlow.Inventory.BulkRuns
import OrderFlow.Orders.BulkAgreement

/-!
# What a failed batch leaves behind

Every executed line of a batch is durable in inventory-service, and no error
exit of `create_orders_bulk` sends a release.  A batch that ends with an
exception therefore leaves nothing behind only when none of the lines executed
before the fault could be served.
-/

namespace OrderFlow.Orders

open OrderFlow.Grpc
open OrderFlow.Inventory

/-- No other client is active. -/
def Surroundings.quiet (clock : ℕ → ℕ → ℕ) : Surroundings where
  clock := clock
  beforeLine _ := []
  beforeRelease _ := []

/-- Something goes wrong: the call fails, a message cannot be built, or the
commit raises. -/
def Faulty (request : BulkRequest) (faults : BulkFaults) : Prop :=
  faults.stream ≠ none ∨ (requestGen request.lines).2 = false ∨
    faults.commit ≠ .none

/-- The messages the server has executed when the batch ends. -/
def executedLines (request : BulkRequest) (faults : BulkFaults) :
    List BulkReserveItem :=
  if faults.stream = none ∧ (requestGen request.lines).2 = true then
    (requestGen request.lines).1
  else (requestGen request.lines).1.take faults.executed

/-- Neither database knows an order of the batch. -/
def LeavesNothing (request : BulkRequest) (after : World) : Prop :=
  ∀ order ∈ request.orders, after.orders.get? order.id = none ∧
    after.inventory.reservedForOrder order.id = []

/-- A batch that ends with an exception leaves nothing behind. -/
def CleansUp (world : World) (request : BulkRequest) (faults : BulkFaults)
    (clock : ℕ → ℕ → ℕ) : Prop :=
  (∀ out, (createOrdersBulk world request faults (.quiet clock)).2 ≠
    .returned out) →
  LeavesNothing request
    (createOrdersBulk world request faults (.quiet clock)).1

/-- The messages with the clocks they are executed by. -/
def clocked (clock : ℕ → ℕ → ℕ) : ℕ → List BulkReserveItem → List StreamedLine
  | _, [] => []
  | sent, item :: items => ⟨item, clock sent⟩ :: clocked clock (sent + 1) items

theorem arriving_quiet (clock : ℕ → ℕ → ℕ) (sent : ℕ)
    (items : List BulkReserveItem) :
    (Surroundings.quiet clock).arriving sent items =
      (clocked clock sent items).map (ArrivingLine.mk []) := by
  induction items generalizing sent with
  | nil => rfl
  | cons item items ih => exact congrArg (_ :: ·) (ih (sent + 1))

theorem items_clocked (clock : ℕ → ℕ → ℕ) (sent : ℕ)
    (items : List BulkReserveItem) :
    (clocked clock sent items).map StreamedLine.item = items := by
  induction items generalizing sent with
  | nil => rfl
  | cons item items ih => exact congrArg (item :: ·) (ih (sent + 1))

theorem runShared_quiet (db : InventoryDb) (clock : ℕ → ℕ → ℕ)
    (items : List BulkReserveItem) :
    runShared db ((Surroundings.quiet clock).arriving 0 items) =
      runLines db (clocked clock 0 items) := by
  rw [arriving_quiet, runLines_eq_shared]

/-! ## The executed lines -/

section Executed

variable {world : World} {request : BulkRequest} {faults : BulkFaults}
variable {clock : ℕ → ℕ → ℕ}

/-- The lines the server executes, as a stream. -/
def executedStream (request : BulkRequest) (faults : BulkFaults)
    (clock : ℕ → ℕ → ℕ) : List StreamedLine :=
  clocked clock 0 (executedLines request faults)

theorem executedLines_isInitial (request : BulkRequest) (faults : BulkFaults) :
    executedLines request faults <+: request.lines.map lineMessage := by
  have hgenerated := requestGen_prefix request.lines
  unfold executedLines
  split_ifs
  · exact hgenerated
  · exact (List.take_prefix _ _).trans hgenerated

/-- An executed line belongs to an order of the batch and asks for something. -/
theorem executedLines_valid {item : BulkReserveItem}
    (hitem : item ∈ executedLines request faults) :
    (∃ order ∈ request.orders, order.id = item.orderRef) ∧
      0 < item.quantity := by
  obtain ⟨line, hline, rfl⟩ := List.mem_map.mp
    ((executedLines_isInitial request faults).subset hitem)
  obtain ⟨order, horder, hmem⟩ := List.mem_flatMap.mp hline
  obtain ⟨ordered, hordered, rfl⟩ := List.mem_map.mp hmem
  refine ⟨⟨order, horder, rfl⟩, ?_⟩
  obtain ⟨draw, hdraw, rfl⟩ := List.mem_mapIdx.mp horder
  obtain ⟨source, _, rfl⟩ := List.mem_map.mp hordered
  exact source.quantity_pos

theorem executedStream_valid : ∀ line ∈ executedStream request faults clock,
    line.item.orderRef ≠ .empty ∧ 0 < line.item.quantity := by
  intro line hline
  have hitem : line.item ∈ executedLines request faults := by
    rw [← items_clocked clock 0 (executedLines request faults)]
    exact List.mem_map_of_mem hline
  obtain ⟨⟨order, horder, hid⟩, hquantity⟩ := executedLines_valid hitem
  exact ⟨hid ▸ BulkRequest.id_ne_empty horder, hquantity⟩

theorem executed_failed_iff (db : InventoryDb) :
    (∀ outcome ∈ (runLines db (executedStream request faults clock)).2,
        outcome.reserved = false) ↔
      ∀ item ∈ executedLines request faults, ¬ Servable db item := by
  rw [runLines_failed_iff executedStream_valid]
  have hitems := items_clocked clock 0 (executedLines request faults)
  conv_rhs => rw [← hitems]
  rw [List.forall_mem_map]
  rfl

theorem executed_answers (db : InventoryDb) :
    ((executedLines request faults).zip
        (runLines db (executedStream request faults clock)).2).map Prod.snd =
      (runLines db (executedStream request faults clock)).2 := by
  apply List.map_snd_zip
  have hecho := congrArg List.length
    (runLines_echo db (executedStream request faults clock))
  have hitems := congrArg List.length
    (items_clocked clock 0 (executedLines request faults))
  rw [List.length_map, List.length_map] at hecho
  rw [List.length_map] at hitems
  rw [hecho, executedStream, hitems]

/-- What an order of the batch holds after the executed lines. -/
theorem executed_held
    (hids : (world.inventory.reservations.map StockReservation.id).Nodup)
    (hfresh : IdsFresh request world) {order : Order}
    (horder : order ∈ request.orders) :
    heldLines (runLines world.inventory
        (executedStream request faults clock)).1 order.id =
      ((executedLines request faults).zip (runLines world.inventory
        (executedStream request faults clock)).2).filterMap
          (taken? order.id) := by
  have hquiet : ∀ arriving ∈ (Surroundings.quiet clock).arriving 0
      (executedLines request faults), ∀ call ∈ arriving.others,
        call.ForOthers order.id := by
    intro arriving harriving
    obtain ⟨sent, hsent⟩ := Surroundings.others_arriving harriving
    rw [hsent]
    exact fun _ hcall => absurd hcall List.not_mem_nil
  have hheld := heldLines_runShared hids hquiet
  rw [Surroundings.items_arriving, runShared_quiet,
    (heldLines_eq_nil_iff _ _).mpr (hfresh.unreserved order horder),
    List.nil_append] at hheld
  exact hheld

/-- The orders of the batch hold nothing exactly when no executed line was
reserved. -/
theorem executed_rows_iff
    (hids : (world.inventory.reservations.map StockReservation.id).Nodup)
    (hfresh : IdsFresh request world) :
    (∀ order ∈ request.orders, (runLines world.inventory
        (executedStream request faults clock)).1.reservedForOrder order.id =
          []) ↔
      ∀ outcome ∈ (runLines world.inventory
        (executedStream request faults clock)).2,
        outcome.reserved = false := by
  constructor
  · intro hrows outcome houtcome
    by_contra hreserved
    rw [Bool.not_eq_false] at hreserved
    rw [← @executed_answers request faults, List.mem_map] at houtcome
    obtain ⟨answered, hanswered, rfl⟩ := houtcome
    obtain ⟨⟨order, horder, hid⟩, _⟩ :=
      executedLines_valid (List.of_mem_zip hanswered).1
    have hheld := @executed_held _ _ faults clock hids hfresh _ horder
    rw [(heldLines_eq_nil_iff _ _).mpr (hrows order horder)] at hheld
    have hnone := List.filterMap_eq_nil_iff.mp hheld.symm answered hanswered
    rw [taken?, if_pos ⟨hid.symm, hreserved⟩] at hnone
    exact Option.some_ne_none _ hnone
  · intro hfailed order horder
    rw [runLines_unchanged hfailed]
    exact hfresh.unreserved order horder

/-! ## The error exits -/

theorem reserveStockBulk_quiet (db : InventoryDb) :
    (reserveStockBulk (.quiet clock) faults request.lines db).1 =
      (runLines db (executedStream request faults clock)).1 := by
  rw [executedStream, ← runShared_quiet, executedLines, reserveStockBulk]
  cases hstream : faults.stream <;>
    cases hend : (requestGen request.lines).2 <;>
    simp [reserveStockBulkShared_eq]

/-- A call that answers has executed every line. -/
theorem stream_answered {summary : BulkReserveSummary}
    (hanswered : (reserveStockBulk (.quiet clock) faults request.lines
      world.inventory).2 = .ok summary) :
    faults.stream = none ∧ (requestGen request.lines).2 = true ∧
      summary.results = (runLines world.inventory
        (executedStream request faults clock)).2 := by
  obtain ⟨hstream, hend⟩ := sound_of_answered hanswered
  have hmessages := congrArg Prod.fst
    (requestGen_of_fits (fits_of_requestGen hend))
  refine ⟨hstream, hend, ?_⟩
  rw [executedStream, executedLines, if_pos ⟨hstream, hend⟩, hmessages,
    ← runShared_quiet]
  exact (reserveStockBulk_answered hanswered).2

/-- With a fault, a stream that was answered meets a failing commit. -/
theorem Faulty.commit (hfaulty : Faulty request faults)
    {summary : BulkReserveSummary}
    (hanswered : (reserveStockBulk (.quiet clock) faults request.lines
      world.inventory).2 = .ok summary) : faults.commit ≠ .none := by
  obtain ⟨hstream, hend, _⟩ := stream_answered hanswered
  rcases hfaulty with hfailed | hraised | hcommit
  · exact absurd hstream hfailed
  · exact absurd (hend.symm.trans hraised) Bool.noConfusion
  · exact hcommit

/-- Without a fault the batch returns. -/
theorem returns_of_not_faulty (hfresh : IdsFresh request world)
    (hsound : ¬ Faulty request faults) :
    ∃ out, (createOrdersBulk world request faults (.quiet clock)).2 =
      .returned out := by
  simp only [Faulty, not_or, not_not, Bool.not_eq_false] at hsound
  obtain ⟨hstream, hend, hcommit⟩ := hsound
  obtain ⟨summary, hanswered⟩ : ∃ summary,
      (reserveStockBulk (.quiet clock) faults request.lines
        world.inventory).2 = .ok summary := by
    rw [reserveStockBulk, hstream, hend]
    exact ⟨_, rfl⟩
  rw [createOrdersBulk_answered hfresh hanswered hcommit]
  exact ⟨_, rfl⟩

/-- A commit that raises, when nothing was added. -/
theorem commitOrders_nil {fault : CommitFault} (hfault : fault ≠ .none)
    (orders : OrderDb) : commitOrders fault orders [] = (orders, true) := by
  cases fault with
  | none => exact absurd rfl hfault
  | notSaved => rfl
  | saved => rfl

theorem commitOrders_snd {fault : CommitFault} (hfault : fault ≠ .none)
    (orders : OrderDb) (added : List Order) :
    (commitOrders fault orders added).2 = true := by
  cases fault with
  | none => exact absurd rfl hfault
  | notSaved => rfl
  | saved => cases hinsert : orders.insertAll? added <;>
      simp [commitOrders, hinsert]

/-- A commit that raises ends the batch before any release. -/
theorem afterSummary_faulty (hcommit : faults.commit ≠ .none)
    (surroundings : Surroundings) (summary : BulkReserveSummary) :
    (∀ out, (afterSummary world request faults surroundings summary).2 ≠
        .returned out) ∧
      (afterSummary world request faults surroundings summary).1.inventory =
        world.inventory := by
  unfold afterSummary
  cases outcomesByRef (request.orders.map Order.id) summary.results with
  | none => exact ⟨nofun, rfl⟩
  | some outcomes => simp [commitOrders_snd hcommit]

/-- With a fault the batch ends with an exception and sends no release. -/
theorem createOrdersBulk_faulty (hfaulty : Faulty request faults) :
    (∀ out, (createOrdersBulk world request faults (.quiet clock)).2 ≠
        .returned out) ∧
      (createOrdersBulk world request faults (.quiet clock)).1.inventory =
        (runLines world.inventory (executedStream request faults clock)).1 := by
  rw [← reserveStockBulk_quiet, createOrdersBulk]
  cases hreserved : (reserveStockBulk (.quiet clock) faults request.lines
      world.inventory).2 with
  | error error =>
      cases error <;> exact ⟨fun _ hexit => BulkExit.noConfusion hexit, rfl⟩
  | ok summary => exact afterSummary_faulty (hfaulty.commit hreserved) _ summary

/-- Without a reserved line no order is saved. -/
theorem withStatus_persisted_of_failed {streamed : List BulkItemOutcome}
    (hfailed : ∀ outcome ∈ streamed, outcome.reserved = false)
    (orders : List Order) :
    withStatus (outcomesOf streamed) .persisted orders = [] := by
  apply List.filter_eq_nil_iff.mpr
  intro order _ hpersisted
  have hstatus := of_decide_eq_true hpersisted
  have hnone : ∀ item ∈ outcomesOf streamed order.id,
      item.reserved = false := by
    intro item hitem
    obtain ⟨outcome, houtcome, rfl⟩ := List.mem_map.mp hitem
    exact hfailed outcome (List.mem_of_mem_filter houtcome)
  by_cases hitems : outcomesOf streamed order.id = []
  · rw [hitems] at hstatus
    exact absurd hstatus (by decide)
  · rw [(statusOf_failed_iff hitems).mpr hnone] at hstatus
    exact absurd hstatus (by decide)

theorem orders_of_failed (hfaulty : Faulty request faults)
    (hfailed : ∀ outcome ∈ (runLines world.inventory
      (executedStream request faults clock)).2, outcome.reserved = false) :
    (createOrdersBulk world request faults (.quiet clock)).1.orders =
      world.orders := by
  rw [createOrdersBulk]
  cases hreserved : (reserveStockBulk (.quiet clock) faults request.lines
      world.inventory).2 with
  | error error => rfl
  | ok summary =>
      have hresults := (stream_answered hreserved).2.2
      have hregroup : outcomesByRef (request.orders.map Order.id)
          summary.results = some (outcomesOf summary.results) := by
        apply outcomesByRef_eq
        rw [(reserveStockBulk_answered hreserved).2]
        exact (follows_stream request (.quiet clock) world.inventory).known
      rw [← hresults] at hfailed
      simp only [afterSummary, hregroup, foldl_tally, Tally.start,
        withStatus_persisted_of_failed hfailed, List.append_nil,
        commitOrders_nil (hfaulty.commit hreserved), if_true]

/-- A batch cleans up after itself when no fault occurs, or no executed line
could be served from the stock before it. -/
theorem cleansUp_iff
    (hids : (world.inventory.reservations.map StockReservation.id).Nodup)
    (hfresh : IdsFresh request world) :
    CleansUp world request faults clock ↔
      (Faulty request faults → ∀ item ∈ executedLines request faults,
        ¬ Servable world.inventory item) := by
  by_cases hfaulty : Faulty request faults
  · obtain ⟨hraises, hinventory⟩ :=
      @createOrdersBulk_faulty world _ _ clock hfaulty
    have hrows := @executed_rows_iff _ _ faults clock hids hfresh
    rw [executed_failed_iff] at hrows
    rw [CleansUp, LeavesNothing, hinventory]
    constructor
    · exact fun hclean _ => hrows.mp fun order horder =>
        (hclean hraises order horder).2
    · intro hunserved _ order horder
      refine ⟨?_, hrows.mpr (hunserved hfaulty) order horder⟩
      rw [orders_of_failed hfaulty
        ((executed_failed_iff world.inventory).mpr (hunserved hfaulty))]
      exact hfresh.unsaved order horder
  · obtain ⟨out, hreturned⟩ :=
      @returns_of_not_faulty _ _ _ clock hfresh hfaulty
    exact iff_of_true (fun hraises => absurd hreturned (hraises out))
      fun hfault => absurd hfault hfaulty

end Executed

/-- The commit of a batch fails after all lines were answered. -/
def commitFails : BulkFaults where
  commit := .notSaved

/-- The stream of a batch times out after the first of its lines. -/
def streamTimesOut : BulkFaults where
  stream := some ⟨.deadlineExceeded, "Deadline Exceeded"⟩
  executed := 1

/-- The first order, for all ten gizmos. -/
def allGizmos : Order where
  id := (mixedBatch.uuid 0).toCharField
  items := [⟨3, 10⟩]

/-- After either fault the ten gizmos stay reserved under an id that nobody
will ever know. -/
theorem gizmos_stranded :
    ¬ CleansUp ⟨[], seededDb⟩ mixedBatch commitFails (fun sent _ => sent) ∧
      ¬ CleansUp ⟨[], seededDb⟩ mixedBatch streamTimesOut
        (fun sent _ => sent) := by
  have hcommit : (createOrdersBulk ⟨[], seededDb⟩ mixedBatch commitFails
      (.quiet fun sent _ => sent)).2 = .raised .databaseError := by decide
  have hstream : (createOrdersBulk ⟨[], seededDb⟩ mixedBatch streamTimesOut
      (.quiet fun sent _ => sent)).2 =
        .http ⟨504, .text "inventory unavailable: DEADLINE_EXCEEDED"⟩ := by
    decide
  have horder : allGizmos ∈ mixedBatch.orders := by decide
  constructor
  · intro hclean
    have hheld := (hclean (fun out hreturned =>
      nomatch hcommit.symm.trans hreturned) allGizmos horder).2
    exact absurd hheld (by decide)
  · intro hclean
    have hheld := (hclean (fun out hreturned =>
      nomatch hstream.symm.trans hreturned) allGizmos horder).2
    exact absurd hheld (by decide)

/-- Eleven gizmos cannot be served, and leave nothing behind. -/
def elevenGizmos : BulkRequest where
  payload := ⟨[.ofLines (.ofNat 2 10) []], List.cons_ne_nil _ _⟩
  uuid _ := .ofText "a3b1c5d7-0004-4aaa-8aaa-000000000004"

theorem elevenGizmos_cleansUp :
    CleansUp ⟨[], seededDb⟩ elevenGizmos commitFails fun sent _ => sent :=
  (cleansUp_iff (by decide)
    ⟨by decide, fun _ _ => rfl, fun _ _ => rfl⟩).mpr fun _ => by decide

end OrderFlow.Orders
