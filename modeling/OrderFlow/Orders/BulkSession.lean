import OrderFlow.Core.TransitionSystem
import OrderFlow.Orders.BulkSpec

/-!
# `create_orders_bulk`, await by await

The coroutine between its awaits, as `Service` has it for a single order, so
that a batch meets other requests at every line of its stream, at its commit
and at every release.  `createOrdersBulk` is one way these awaits can go.
-/

namespace OrderFlow.Orders

open OrderFlow.Grpc
open OrderFlow.Inventory
open OrderFlow.TransitionSystem

/-! ## The coroutine -/

/-- The await a batch has come to. -/
inductive BulkPhase where
  /-- `inventory.reserve_stock_bulk(lines)`: the messages the server has still
  to execute, and the local variables of its loop -/
  | streaming (messages : List BulkReserveItem) (loop : BulkLoop)
  /-- `session.commit()` -/
  | commit (tally : Tally)
  /-- `_release_quietly(inventory, ref)`, for the next of the `stranded_refs` -/
  | releasing (refs : List CharField128) (out : BulkOrderOut)
  | done (exit : BulkExit)

namespace BulkRequest

/-- Up to the first await. -/
def begin (request : BulkRequest) : BulkPhase :=
  .streaming (requestGen request.lines).1 ⟨[], 0⟩

/-- From the summary to the commit. -/
def afterAnswer (request : BulkRequest) (summary : BulkReserveSummary) :
    BulkPhase :=
  match outcomesByRef (request.orders.map Order.id) summary.results with
  | none => .done (.raised .keyError)
  | some outcomes => .commit (request.orders.foldl (Tally.next outcomes) .start)

/-- `BulkOrderOut(...)`. -/
def out (request : BulkRequest) (tally : Tally) : BulkOrderOut :=
  ⟨request.orders.length, tally.persistedCount, tally.results⟩

end BulkRequest

/-- The loop over the `stranded_refs`. -/
def nextRelease (out : BulkOrderOut) : List CharField128 → BulkPhase
  | [] => .done (.returned out)
  | refs => .releasing refs out

def BulkRequest.afterCommit (request : BulkRequest) (tally : Tally)
    (raised : Bool) : BulkPhase :=
  if raised then .done (.raised .databaseError)
  else nextRelease (request.out tally) tally.strandedRefs

/-! ## One await at a time -/

/-- What happens next to a batch. -/
inductive BulkEvent where
  /-- the server executes the next message -/
  | serve (clock : ℕ → ℕ)
  /-- the streamed call ends, with its answer or with a status -/
  | finish (error : Option RpcError)
  | commit (fault : CommitFault)
  | release (delivery : Delivery)

/-- The answer comes when every message has been executed; a generator that
has raised gets its call cancelled. -/
def advanceBulk (request : BulkRequest) (world : World) :
    BulkPhase → BulkEvent → Option (World × BulkPhase)
  | .streaming (message :: messages) loop, .serve clock =>
      let served := bulkStep (world.inventory, loop) ⟨message, clock⟩
      some ({ world with inventory := served.1 },
        .streaming messages served.2)
  | .streaming _ _, .finish (some error) =>
      some (world, .done (afterStreamError (.rpc error)))
  | .streaming messages loop, .finish none =>
      if (requestGen request.lines).2 then
        if messages = [] then
          some (world, request.afterAnswer loop.summary)
        else none
      else some (world, .done (afterStreamError .cancelled))
  | .commit tally, .commit fault =>
      let committed := commitOrders fault world.orders tally.added
      some ({ world with orders := committed.1 },
        request.afterCommit tally committed.2)
  | .releasing (orderRef :: refs) out, .release delivery =>
      let response := Grpc.call (InventoryServicer.releaseStock orderRef)
        delivery world.inventory
      some ({ world with inventory := response.1 }, nextRelease out refs)
  | _, _ => none

/-- Around a batch: what happens next to it, or a call of another client. -/
inductive BulkAction where
  | own (event : BulkEvent)
  | other (call : ServiceCall)

def BulkRequest.step (request : BulkRequest) (point : World × BulkPhase) :
    BulkAction → Option (World × BulkPhase)
  | .own event => advanceBulk request point.1 point.2 event
  | .other call =>
      some ({ point.1 with inventory := call.apply point.1.inventory },
        point.2)

/-- The inversion of `advanceBulk`. -/
inductive BulkMove (request : BulkRequest) (world : World) :
    BulkPhase → BulkEvent → World × BulkPhase → Prop
  | serve (message : BulkReserveItem) (messages : List BulkReserveItem)
      (loop : BulkLoop) (clock : ℕ → ℕ) :
      BulkMove request world (.streaming (message :: messages) loop)
        (.serve clock)
        (⟨world.orders, (bulkLine world.inventory ⟨message, clock⟩).1⟩,
          .streaming messages
            (loop.record (bulkLine world.inventory ⟨message, clock⟩).2))
  | failed (messages : List BulkReserveItem) (loop : BulkLoop)
      (error : RpcError) :
      BulkMove request world (.streaming messages loop) (.finish (some error))
        (world, .done (afterStreamError (.rpc error)))
  | cancelled (messages : List BulkReserveItem) (loop : BulkLoop)
      (hend : (requestGen request.lines).2 = false) :
      BulkMove request world (.streaming messages loop) (.finish none)
        (world, .done (afterStreamError .cancelled))
  | answered (loop : BulkLoop) (hend : (requestGen request.lines).2 = true) :
      BulkMove request world (.streaming [] loop) (.finish none)
        (world, request.afterAnswer loop.summary)
  | commit (tally : Tally) (fault : CommitFault) :
      BulkMove request world (.commit tally) (.commit fault)
        (⟨(commitOrders fault world.orders tally.added).1, world.inventory⟩,
          request.afterCommit tally
            (commitOrders fault world.orders tally.added).2)
  | release (orderRef : CharField128) (refs : List CharField128)
      (out : BulkOrderOut) (delivery : Delivery) :
      BulkMove request world (.releasing (orderRef :: refs) out)
        (.release delivery)
        (⟨world.orders, (Grpc.call (InventoryServicer.releaseStock orderRef)
          delivery world.inventory).1⟩, nextRelease out refs)

theorem advanceBulk_moves {request : BulkRequest} {world : World}
    {phase : BulkPhase} {event : BulkEvent} {next : World × BulkPhase}
    (hnext : advanceBulk request world phase event = some next) :
    BulkMove request world phase event next := by
  cases phase with
  | done exit => cases event <;> simp [advanceBulk] at hnext
  | streaming messages loop =>
      cases event with
      | commit fault => cases messages <;> simp [advanceBulk] at hnext
      | release delivery => cases messages <;> simp [advanceBulk] at hnext
      | serve clock =>
          cases messages with
          | nil => simp [advanceBulk] at hnext
          | cons message messages =>
              cases hnext
              exact .serve message messages loop clock
      | finish error =>
          cases error with
          | some error =>
              have hfailed : next = (world,
                  .done (afterStreamError (.rpc error))) := by
                cases messages <;> exact (Option.some.inj hnext).symm
              exact hfailed ▸ .failed messages loop error
          | none =>
              have hfinish : (if (requestGen request.lines).2 then
                  if messages = [] then
                    some (world, request.afterAnswer loop.summary)
                  else none
                else some (world, .done (afterStreamError .cancelled))) =
                  some next := by
                cases messages <;> exact hnext
              split_ifs at hfinish with hend hempty
              · cases hfinish
                subst hempty
                exact .answered loop hend
              · cases hfinish
                exact .cancelled messages loop (by simpa using hend)
  | commit tally =>
      cases event with
      | commit fault =>
          cases hnext
          exact .commit tally fault
      | serve clock => simp [advanceBulk] at hnext
      | finish error => simp [advanceBulk] at hnext
      | release delivery => simp [advanceBulk] at hnext
  | releasing refs out =>
      cases refs with
      | nil => cases event <;> simp [advanceBulk] at hnext
      | cons orderRef refs =>
          cases event with
          | release delivery =>
              cases hnext
              exact .release orderRef refs out delivery
          | serve clock => simp [advanceBulk] at hnext
          | finish error => simp [advanceBulk] at hnext
          | commit fault => simp [advanceBulk] at hnext

/-- A line that names an order is a call like any other. -/
theorem bulkLine_apply {db : InventoryDb} {message : BulkReserveItem}
    (hnamed : message.orderRef ≠ .empty) (clock : ℕ → ℕ) :
    (bulkLine db ⟨message, clock⟩).1 =
      (ServiceCall.reserve message.request clock).apply db :=
  congrArg Prod.fst (if_neg hnamed)

/-! ## `createOrdersBulk` is a run -/

section Runs

variable {request : BulkRequest} {orders : OrderDb} {db : InventoryDb}

theorem run_others (calls : List ServiceCall) (phase : BulkPhase) :
    run request.step (⟨orders, db⟩, phase) (calls.map .other) =
      some (⟨orders, runCalls db calls⟩, phase) := by
  induction calls generalizing db with
  | nil => rfl
  | cons call calls ih => exact ih

/-- The lines of a stream, each with the calls that come before it. -/
def lineActions (lines : List ArrivingLine) : List BulkAction :=
  lines.flatMap fun arriving =>
    arriving.others.map .other ++ [.own (.serve arriving.line.clock)]

theorem run_lines (lines : List ArrivingLine) (rest : List BulkReserveItem)
    (loop : BulkLoop) :
    run request.step
        (⟨orders, db⟩, .streaming
          (lines.map (fun arriving => arriving.line.item) ++ rest) loop)
        (lineActions lines) =
      some (⟨orders, (lines.foldl sharedStep (db, loop)).1⟩,
        .streaming rest (lines.foldl sharedStep (db, loop)).2) := by
  induction lines generalizing db loop with
  | nil => rfl
  | cons arriving lines ih =>
      rw [lineActions, List.flatMap_cons, List.append_assoc, run_append,
        run_others, Option.bind_some]
      exact ih _

/-- The releases, each with the calls that come before it. -/
def releaseActions (surroundings : Surroundings) (faults : BulkFaults)
    (refs : List CharField128) : List BulkAction :=
  refs.flatMap fun orderRef =>
    (surroundings.beforeRelease orderRef).map .other ++
      [.own (.release (faults.release orderRef))]

theorem run_releases (surroundings : Surroundings) (faults : BulkFaults)
    (out : BulkOrderOut) (refs : List CharField128) :
    run request.step (⟨orders, db⟩, nextRelease out refs)
        (releaseActions surroundings faults refs) =
      some (⟨orders, refs.foldl (releaseQuietly surroundings faults) db⟩,
        .done (.returned out)) := by
  induction refs generalizing db with
  | nil => rfl
  | cons orderRef refs ih =>
      rw [releaseActions, List.flatMap_cons, List.append_assoc, run_append,
        run_others, Option.bind_some]
      exact ih

/-- From the summary on. -/
theorem run_afterSummary (world : World) (faults : BulkFaults)
    (surroundings : Surroundings) (loop : BulkLoop)
    (hend : (requestGen request.lines).2 = true) :
    ∃ schedule, run request.step (world, .streaming [] loop) schedule =
      some ((afterSummary world request faults surroundings loop.summary).1,
        .done (afterSummary world request faults surroundings
          loop.summary).2) := by
  have hanswer : request.step (world, .streaming [] loop)
      (.own (.finish none)) =
        some (world, request.afterAnswer loop.summary) := by
    simp [BulkRequest.step, advanceBulk, hend]
  cases houtcomes : outcomesByRef (request.orders.map Order.id)
      loop.summary.results with
  | none =>
      refine ⟨[.own (.finish none)], ?_⟩
      rw [run_cons, hanswer, Option.bind_some, run_nil, afterSummary,
        houtcomes, BulkRequest.afterAnswer, houtcomes]
  | some outcomes =>
      have hphase : request.afterAnswer loop.summary =
          .commit (request.orders.foldl (Tally.next outcomes) .start) := by
        rw [BulkRequest.afterAnswer, houtcomes]
      simp only [afterSummary, houtcomes]
      generalize request.orders.foldl (Tally.next outcomes) .start = tally
        at hphase ⊢
      have hcommit : request.step (world, .commit tally)
          (.own (.commit faults.commit)) =
            some (⟨(commitOrders faults.commit world.orders tally.added).1,
                world.inventory⟩,
              request.afterCommit tally
                (commitOrders faults.commit world.orders tally.added).2) :=
        rfl
      cases hraised :
          (commitOrders faults.commit world.orders tally.added).2 with
      | true =>
          refine ⟨[.own (.finish none), .own (.commit faults.commit)], ?_⟩
          rw [run_cons, hanswer, Option.bind_some, hphase, run_cons, hcommit,
            Option.bind_some, run_nil, hraised]
          simp [BulkRequest.afterCommit]
      | false =>
          refine ⟨.own (.finish none) :: .own (.commit faults.commit) ::
            releaseActions surroundings faults tally.strandedRefs, ?_⟩
          rw [run_cons, hanswer, Option.bind_some, hphase, run_cons, hcommit,
            Option.bind_some, hraised, BulkRequest.afterCommit,
            if_neg Bool.false_ne_true, run_releases]
          simp [BulkRequest.out]

end Runs

/-- Whatever `createOrdersBulk` computes, the awaits of the batch can bring
about. -/
theorem createOrdersBulk_run (world : World) (request : BulkRequest)
    (faults : BulkFaults) (surroundings : Surroundings) :
    ∃ schedule, run request.step (world, request.begin) schedule =
      some ((createOrdersBulk world request faults surroundings).1,
        .done (createOrdersBulk world request faults surroundings).2) := by
  have hstream : ∀ items rest : List BulkReserveItem,
      items ++ rest = (requestGen request.lines).1 →
      run request.step (world, request.begin)
          (lineActions (surroundings.arriving 0 items)) =
        some (⟨world.orders,
            ((surroundings.arriving 0 items).foldl sharedStep
              (world.inventory, ⟨[], 0⟩)).1⟩,
          .streaming rest ((surroundings.arriving 0 items).foldl sharedStep
            (world.inventory, ⟨[], 0⟩)).2) := by
    intro items rest hsplit
    have hlines := @run_lines request world.orders world.inventory
      (surroundings.arriving 0 items) rest ⟨[], 0⟩
    rwa [surroundings.items_arriving, hsplit] at hlines
  have hfails : ∀ (event : Option RpcError) (error : StreamError),
      (∀ messages loop world, request.step
        (world, .streaming messages loop) (.own (.finish event)) =
          some (world, .done (afterStreamError error))) →
      ∃ schedule, run request.step (world, request.begin) schedule =
        some (⟨world.orders, (InventoryServicer.reserveStockBulkShared
          (surroundings.arriving 0
            ((requestGen request.lines).1.take faults.executed))
          world.inventory).1⟩, .done (afterStreamError error)) := by
    intro event error hstep
    refine ⟨lineActions (surroundings.arriving 0
      ((requestGen request.lines).1.take faults.executed)) ++
        [.own (.finish event)], ?_⟩
    rw [run_append, hstream _ _ (List.take_append_drop faults.executed _),
      Option.bind_some, run_cons, hstep]
    rfl
  rw [createOrdersBulk, reserveStockBulk]
  cases hfault : faults.stream with
  | some error =>
      exact hfails (some error) (.rpc error) fun messages _ _ => by
        cases messages <;> rfl
  | none =>
      cases hend : (requestGen request.lines).2 with
      | false =>
          exact hfails none .cancelled fun messages _ _ => by
            cases messages <;> simp [BulkRequest.step, advanceBulk, hend]
      | true =>
          obtain ⟨schedule, hschedule⟩ := @run_afterSummary request
            ⟨world.orders, ((surroundings.arriving 0
              (requestGen request.lines).1).foldl sharedStep
                (world.inventory, ⟨[], 0⟩)).1⟩
            faults surroundings
            ((surroundings.arriving 0 (requestGen request.lines).1).foldl
              sharedStep (world.inventory, ⟨[], 0⟩)).2 hend
          refine ⟨lineActions (surroundings.arriving 0
            (requestGen request.lines).1) ++ schedule, ?_⟩
          rw [run_append, hstream _ [] (List.append_nil _), Option.bind_some,
            hschedule]
          rfl

end OrderFlow.Orders
