import OrderFlow.Orders.BulkSession
import OrderFlow.Orders.Router

/-!
# The order endpoints as one system

Requests of all three routes are in flight at once, each await of each of them
is a step, and any await may fail in any way it can.  Between the steps other
clients call inventory-service.
-/

namespace OrderFlow.Orders.Edge

open OrderFlow.Grpc
open OrderFlow.Inventory

/-! ## Requests in flight -/

inductive Session where
  | idle
  | creating (request : CreateRequest) (phase : Phase)
  | batching (request : BulkRequest) (phase : BulkPhase)
  /-- read at once, or refused before the service layer was called -/
  | answered (response : Response)

/-- What the client has been answered. -/
def Session.response? : Session → Option Response
  | .creating _ (.done exit) => some exit.response
  | .batching _ (.done exit) => some exit.response
  | .answered response => some response
  | _ => none

structure State where
  world : World
  sessions : ℕ → Session

def State.goto (state : State) (number : ℕ) (world : World)
    (session : Session) : State :=
  ⟨world, Function.update state.sessions number session⟩

/-- No request is in flight. -/
def State.init (world : World) : State := ⟨world, fun _ => .idle⟩

inductive Action where
  | post (number : ℕ) (body : List (ℤ × ℤ)) (idempotencyKey : Option String)
      (uuid : Uuid4) (clock : ℕ → ℕ)
  | postBulk (number : ℕ) (body : List (List (ℤ × ℤ))) (uuid : ℕ → Uuid4)
  | get (number : ℕ) (orderId : String)
  /-- `session.get` raises, in a `GET` or in a lookup -/
  | readFails (number : ℕ)
  /-- the next await of a single order -/
  | advance (number : ℕ) (faults : Faults)
  /-- the next event of a batch -/
  | proceed (number : ℕ) (event : BulkEvent)
  /-- a call of another client of inventory-service -/
  | other (call : ServiceCall)

/-- A request of `POST /orders` as it starts. -/
def startCreate : Except Response CreateRequest → Session
  | .error response => .answered response
  | .ok request => .creating request .lookup

/-- A request of `POST /orders/bulk` as it starts. -/
def startBulk : Except Response BulkRequest → Session
  | .error response => .answered response
  | .ok request => .batching request request.begin

def step (state : State) : Action → Option State
  | .post number body idempotencyKey uuid clock =>
      match state.sessions number with
      | .idle => some (state.goto number state.world
          (startCreate (postOrder body idempotencyKey uuid clock)))
      | _ => none
  | .postBulk number body uuid =>
      match state.sessions number with
      | .idle => some (state.goto number state.world
          (startBulk (postOrdersBulk body uuid)))
      | _ => none
  | .get number orderId =>
      match state.sessions number with
      | .idle => some (state.goto number state.world
          (.answered (getOrder state.world.orders orderId)))
      | _ => none
  | .readFails number =>
      match state.sessions number with
      | .idle | .creating _ .lookup => some (state.goto number state.world
          (.answered .internalServerError))
      | _ => none
  | .advance number faults =>
      match state.sessions number with
      | .creating _ (.done _) => none
      | .creating request phase =>
          let next := Orders.advance request faults state.world phase
          some (state.goto number next.1 (.creating request next.2))
      | _ => none
  | .proceed number event =>
      match state.sessions number with
      | .batching request phase =>
          (advanceBulk request state.world phase event).map fun next =>
            state.goto number next.1 (.batching request next.2)
      | _ => none
  | .other call =>
      some { state with world :=
        { state.world with inventory := call.apply state.world.inventory } }

@[simp]
theorem State.goto_self (state : State) (number : ℕ) (world : World)
    (session : Session) :
    (state.goto number world session).sessions number = session :=
  Function.update_self ..

theorem State.goto_other (state : State) {number other : ℕ} (world : World)
    (session : Session) (hother : other ≠ number) :
    (state.goto number world session).sessions other = state.sessions other :=
  Function.update_of_ne hother ..

/-- What holds of all sessions and of the new one. -/
theorem State.forall_goto {Holds : Session → Prop} {state : State}
    (hall : ∀ number, Holds (state.sessions number)) {number : ℕ}
    {world : World} {session : Session} (hsession : Holds session) :
    ∀ other, Holds ((state.goto number world session).sessions other) := by
  intro other
  by_cases hother : other = number
  · subst hother
    rwa [goto_self]
  · rw [goto_other _ _ _ hother]
    exact hall other

@[simp]
theorem State.goto_world (state : State) (number : ℕ) (world : World)
    (session : Session) : (state.goto number world session).world = world :=
  rfl

/-- The inversion of `step`. -/
inductive StepMove (state : State) : Action → State → Prop
  | post (number : ℕ) (body : List (ℤ × ℤ)) (idempotencyKey : Option String)
      (uuid : Uuid4) (clock : ℕ → ℕ) (hidle : state.sessions number = .idle) :
      StepMove state (.post number body idempotencyKey uuid clock)
        (state.goto number state.world
          (startCreate (postOrder body idempotencyKey uuid clock)))
  | postBulk (number : ℕ) (body : List (List (ℤ × ℤ))) (uuid : ℕ → Uuid4)
      (hidle : state.sessions number = .idle) :
      StepMove state (.postBulk number body uuid)
        (state.goto number state.world (startBulk (postOrdersBulk body uuid)))
  | get (number : ℕ) (orderId : String)
      (hidle : state.sessions number = .idle) :
      StepMove state (.get number orderId) (state.goto number state.world
        (.answered (getOrder state.world.orders orderId)))
  | readFails (number : ℕ) (hidle : state.sessions number = .idle) :
      StepMove state (.readFails number)
        (state.goto number state.world (.answered .internalServerError))
  | lookupFails (number : ℕ) (request : CreateRequest)
      (hsession : state.sessions number = .creating request .lookup) :
      StepMove state (.readFails number)
        (state.goto number state.world (.answered .internalServerError))
  | advance (number : ℕ) (faults : Faults) (request : CreateRequest)
      (phase : Phase) (hsession : state.sessions number = .creating request phase)
      (hrunning : ∀ exit, phase ≠ .done exit) :
      StepMove state (.advance number faults) (state.goto number
        (Orders.advance request faults state.world phase).1
        (.creating request (Orders.advance request faults state.world phase).2))
  | proceed (number : ℕ) (event : BulkEvent) (request : BulkRequest)
      (phase : BulkPhase) (point : World × BulkPhase)
      (hsession : state.sessions number = .batching request phase)
      (hpoint : advanceBulk request state.world phase event = some point) :
      StepMove state (.proceed number event)
        (state.goto number point.1 (.batching request point.2))
  | other (call : ServiceCall) :
      StepMove state (.other call) { state with world :=
        { state.world with inventory := call.apply state.world.inventory } }

theorem step_moves {state next : State} {action : Action}
    (hstep : step state action = some next) : StepMove state action next := by
  cases action with
  | other call =>
      cases hstep
      exact .other call
  | post number body idempotencyKey uuid clock =>
      cases hsession : state.sessions number <;>
        simp only [step, hsession, reduceCtorEq] at hstep
      cases hstep
      exact .post number body idempotencyKey uuid clock hsession
  | postBulk number body uuid =>
      cases hsession : state.sessions number <;>
        simp only [step, hsession, reduceCtorEq] at hstep
      cases hstep
      exact .postBulk number body uuid hsession
  | get number orderId =>
      cases hsession : state.sessions number <;>
        simp only [step, hsession, reduceCtorEq] at hstep
      cases hstep
      exact .get number orderId hsession
  | readFails number =>
      cases hsession : state.sessions number with
      | idle =>
          simp only [step, hsession, Option.some.injEq] at hstep
          exact hstep ▸ .readFails number hsession
      | creating request phase =>
          cases phase <;> simp only [step, hsession, reduceCtorEq] at hstep
          cases hstep
          exact .lookupFails number request hsession
      | batching | answered => simp [step, hsession] at hstep
  | advance number faults =>
      cases hsession : state.sessions number with
      | creating request phase =>
          have hrunning : ∀ exit, phase ≠ .done exit := by
            rintro exit rfl
            simp [step, hsession] at hstep
          have hnext : next = state.goto number
              (Orders.advance request faults state.world phase).1
              (.creating request
                (Orders.advance request faults state.world phase).2) := by
            cases phase <;> simp only [step, hsession, reduceCtorEq] at hstep <;>
              exact (Option.some.inj hstep).symm
          exact hnext ▸ .advance number faults request phase hsession hrunning
      | idle => simp [step, hsession] at hstep
      | batching request phase => simp [step, hsession] at hstep
      | answered response => simp [step, hsession] at hstep
  | proceed number event =>
      cases hsession : state.sessions number with
      | batching request phase =>
          simp only [step, hsession, Option.map_eq_some_iff] at hstep
          obtain ⟨point, hpoint, rfl⟩ := hstep
          exact .proceed number event request phase point hsession hpoint
      | idle => simp [step, hsession] at hstep
      | creating request phase => simp [step, hsession] at hstep
      | answered response => simp [step, hsession] at hstep

/-! ## One await of a single order -/

/-- The tables after a call that may not have been executed. -/
def MayCall (db : InventoryDb) (after called : InventoryDb) : Prop :=
  after = db ∨ after = called

/-- What `advance` can do, whatever goes wrong. -/
inductive AdvanceCase (request : CreateRequest) (world : World) :
    Phase → World × Phase → Prop
  | replayed (order : Order)
      (hfound : world.orders.get? request.orderRef = some order) :
      AdvanceCase request world .lookup (world, .done (.returned order))
  | notEncodable
      (hfresh : world.orders.get? request.orderRef = none)
      (hencodable : ¬ request.Encodable) :
      AdvanceCase request world .lookup (world, .done (.raised .valueError))
  | encoded
      (hfresh : world.orders.get? request.orderRef = none)
      (hencodable : request.Encodable) :
      AdvanceCase request world .lookup
        (world, .reserve request.message request.order)
  | reserved
      (hsuccess : (reserveStock world.inventory
        (request.call world.inventory)).2.success = true) :
      AdvanceCase request world (.reserve request.message request.order)
        (⟨world.orders,
          (reserveStock world.inventory (request.call world.inventory)).1⟩,
          .persist request.order)
  | notReserved (inventory : InventoryDb) (exception : HttpException)
      (hcall : MayCall world.inventory inventory
        (reserveStock world.inventory (request.call world.inventory)).1)
      (hstatus : exception.statusCode ∈ [409, 502, 503, 504]) :
      AdvanceCase request world (.reserve request.message request.order)
        (⟨world.orders, inventory⟩, .done (.http exception))
  | saved (raised : Bool)
      (hfresh : world.orders.get? request.orderRef = none) :
      AdvanceCase request world (.persist request.order)
        (⟨world.orders ++ [request.order], world.inventory⟩,
          afterPersist request.order raised)
  | notSaved :
      AdvanceCase request world (.persist request.order)
        (world, .rollback request.order)
  | rolledBack (raised : Bool) :
      AdvanceCase request world (.rollback request.order)
        (world, afterRollback request.order raised)
  | released (inventory : InventoryDb)
      (hcall : MayCall world.inventory inventory
        (releaseStock world.inventory request.orderRef).1) :
      AdvanceCase request world (.release request.order)
        (⟨world.orders, inventory⟩,
          .done (.http ⟨500, .text "failed to persist order"⟩))

theorem grpcToHttpStatus_mem (code : StatusCode) :
    grpcToHttpStatus code ∈ [409, 502, 503, 504] := by
  cases code <;> decide

theorem advance_reserve (request : CreateRequest) (faults : Faults)
    (world : World) :
    AdvanceCase request world (.reserve request.message request.order)
      (Orders.advance request faults world
        (.reserve request.message request.order)) := by
  rw [Orders.advance]
  cases hdelivery : faults.reserve with
  | failed error executed =>
      cases executed with
      | false => exact .notReserved _ _ (.inl rfl) (grpcToHttpStatus_mem _)
      | true =>
          simp only [Grpc.call, request.servicer_eq]
          exact .notReserved _ _ (.inr rfl) (grpcToHttpStatus_mem _)
  | answered =>
      simp only [Grpc.call_answered, request.servicer_eq, afterReserve]
      cases hsuccess : (reserveStock world.inventory
          (request.call world.inventory)).2.success with
      | true => exact .reserved hsuccess
      | false => exact .notReserved _ _ (.inr rfl) (by simp)

theorem advance_persist (request : CreateRequest) (faults : Faults)
    (world : World) :
    AdvanceCase request world (.persist request.order)
      (Orders.advance request faults world (.persist request.order)) := by
  cases hfound : world.orders.get? request.orderRef with
  | none =>
      rw [Orders.advance, persistOrder_of_fresh faults hfound]
      cases hsaves : faults.saves with
      | true => exact .saved faults.raises hfound
      | false =>
          have hraises : faults.raises = true := by
            by_contra hcalm
            rw [Faults.saves_of_not_raises (by simpa using hcalm)] at hsaves
            exact absurd hsaves (by simp)
          simp only [hraises, afterPersist]
          exact .notSaved
  | some found =>
      have hinsert : world.orders.insert? request.order = none := by
        have hid : request.order.id = request.orderRef := rfl
        rw [OrderDb.insert?, hid, hfound]
        exact if_neg (by simp)
      have hpersist : persistOrder faults world.orders request.order =
          (world.orders, true) := by
        rw [persistOrder, hinsert]
        cases faults.addRaises <;> cases faults.commit <;> rfl
      rw [Orders.advance, hpersist]
      exact .notSaved

theorem advance_cases {request : CreateRequest} (faults : Faults)
    (world : World) {phase : Phase} (hcarries : Carries request phase)
    (hrunning : ∀ exit, phase ≠ .done exit) :
    AdvanceCase request world phase
      (Orders.advance request faults world phase) := by
  cases phase with
  | done exit => exact absurd rfl (hrunning exit)
  | lookup =>
      rw [Orders.advance]
      cases hfound : world.orders.get? request.orderRef with
      | some order => exact .replayed order hfound
      | none =>
          rw [afterLookup_none]
          split_ifs with hencodable
          · exact .encoded hfound hencodable
          · exact .notEncodable hfound hencodable
  | reserve message order =>
      obtain ⟨rfl, rfl⟩ := hcarries
      exact advance_reserve request faults world
  | persist order =>
      obtain rfl : order = request.order := hcarries
      exact advance_persist request faults world
  | rollback order =>
      obtain rfl : order = request.order := hcarries
      exact .rolledBack faults.rollbackRaises
  | release order =>
      obtain rfl : order = request.order := hcarries
      have hid : request.order.id = request.orderRef := rfl
      rw [Orders.advance, hid]
      refine .released _ ?_
      have hstate := call_state (InventoryServicer.releaseStock
        request.orderRef) faults.release world.inventory
      rwa [InventoryServicer.releaseStock_eq request.orderRef_ne] at hstate

/-! ## One event of a batch -/

/-- The tally of the loop over the orders. -/
def tallied (request : BulkRequest)
    (outcomes : CharField128 → List ItemOutcome) : Tally :=
  request.orders.foldl (Tally.next outcomes) .start

/-- What `advanceBulk` can do, whatever goes wrong. -/
inductive BulkCase (request : BulkRequest) (world : World) :
    BulkPhase → World × BulkPhase → Prop
  | served (message : BulkReserveItem) (messages : List BulkReserveItem)
      (loop : BulkLoop) (clock : ℕ → ℕ) :
      BulkCase request world (.streaming (message :: messages) loop)
        (⟨world.orders, (bulkLine world.inventory ⟨message, clock⟩).1⟩,
          .streaming messages
            (loop.record (bulkLine world.inventory ⟨message, clock⟩).2))
  | streamFailed (messages : List BulkReserveItem) (loop : BulkLoop)
      (exit : BulkExit) (hexit : ∀ out, exit ≠ .returned out) :
      BulkCase request world (.streaming messages loop) (world, .done exit)
  | summarized (loop : BulkLoop)
      (outcomes : CharField128 → List ItemOutcome) :
      BulkCase request world (.streaming [] loop)
        (world, .commit (tallied request outcomes))
  | saved (tally : Tally) (orders : OrderDb) (raised : Bool)
      (hsaved : world.orders.insertAll? tally.added = some orders) :
      BulkCase request world (.commit tally)
        (⟨orders, world.inventory⟩, request.afterCommit tally raised)
  | notSaved (tally : Tally) :
      BulkCase request world (.commit tally)
        (world, .done (.raised .databaseError))
  | released (orderRef : CharField128) (refs : List CharField128)
      (out : BulkOrderOut) (inventory : InventoryDb)
      (hcall : MayCall world.inventory inventory
        (InventoryServicer.releaseStock orderRef world.inventory).1) :
      BulkCase request world (.releasing (orderRef :: refs) out)
        (⟨world.orders, inventory⟩, nextRelease out refs)

theorem commitOrders_cases (fault : CommitFault) (orders : OrderDb)
    (added : List Order) :
    commitOrders fault orders added = (orders, true) ∨
      ∃ saved raised, orders.insertAll? added = some saved ∧
        commitOrders fault orders added = (saved, raised) := by
  cases hsaved : orders.insertAll? added with
  | none => exact .inl (by cases fault <;> simp [commitOrders, hsaved])
  | some saved =>
      cases fault with
      | none => exact .inr ⟨saved, false, rfl, by simp [commitOrders, hsaved]⟩
      | notSaved => exact .inl (by simp [commitOrders])
      | saved => exact .inr ⟨saved, true, rfl, by simp [commitOrders, hsaved]⟩

theorem afterAnswer_cases (request : BulkRequest)
    (summary : BulkReserveSummary) :
    request.afterAnswer summary = .done (.raised .keyError) ∨
      ∃ outcomes, request.afterAnswer summary =
        .commit (tallied request outcomes) := by
  rw [BulkRequest.afterAnswer]
  cases outcomesByRef (request.orders.map Order.id) summary.results with
  | none => exact .inl rfl
  | some outcomes => exact .inr ⟨outcomes, rfl⟩

theorem advanceBulk_cases {request : BulkRequest} {world : World}
    {phase : BulkPhase} {event : BulkEvent} {next : World × BulkPhase}
    (hnext : advanceBulk request world phase event = some next) :
    BulkCase request world phase next := by
  cases advanceBulk_moves hnext with
  | serve message messages loop clock =>
      exact .served message messages loop clock
  | failed messages loop error =>
      exact .streamFailed messages loop _ fun out => by simp [afterStreamError]
  | cancelled messages loop =>
      exact .streamFailed messages loop _ fun out => by simp [afterStreamError]
  | answered loop =>
      rcases afterAnswer_cases request loop.summary with
        hkey | ⟨outcomes, hcommit⟩
      · rw [hkey]
        exact .streamFailed [] loop _ fun out => by simp
      · rw [hcommit]
        exact .summarized loop outcomes
  | commit tally fault =>
      rcases commitOrders_cases fault world.orders tally.added with
        hfailed | ⟨saved, raised, hsaved, hcommitted⟩
      · rw [hfailed]
        exact .notSaved tally
      · rw [hcommitted]
        exact .saved tally saved raised hsaved
  | release orderRef refs out delivery =>
      exact .released orderRef refs out _ (call_state _ delivery _)

/-! ## One step of the system -/

/-- How a request starts. -/
inductive Starts (world : World) : Session → Prop
  | refused (response : Response)
      (hstatus : response.statusCode = 400 ∨ response.statusCode = 422) :
      Starts world (.answered response)
  | create (request : CreateRequest) :
      Starts world (.creating request .lookup)
  | bulk (request : BulkRequest) :
      Starts world (.batching request request.begin)
  | read (orderId : String) :
      Starts world (.answered (getOrder world.orders orderId))
  | unread : Starts world (.answered .internalServerError)

/-- The action can bring in a request. -/
def Action.arrives : Action → Bool
  | .post .. | .postBulk .. | .get .. | .readFails .. => true
  | _ => false

/-- The message and the order that a request carries along are its own. -/
def Session.Carried : Session → Prop
  | .creating request phase => Carries request phase
  | _ => True

inductive StepCase (state : State) : Action → State → Prop
  | start (action : Action) (number : ℕ) (session : Session)
      (harrives : action.arrives = true)
      (hidle : state.sessions number = .idle)
      (hstarts : Starts state.world session) :
      StepCase state action (state.goto number state.world session)
  | unread (number : ℕ) (request : CreateRequest)
      (hsession : state.sessions number = .creating request .lookup) :
      StepCase state (.readFails number) (state.goto number state.world
        (.answered .internalServerError))
  | advance (number : ℕ) (faults : Faults) (request : CreateRequest)
      (phase : Phase) (next : World × Phase)
      (hsession : state.sessions number = .creating request phase)
      (hcase : AdvanceCase request state.world phase next) :
      StepCase state (.advance number faults)
        (state.goto number next.1 (.creating request next.2))
  | proceed (number : ℕ) (event : BulkEvent) (request : BulkRequest)
      (phase : BulkPhase) (next : World × BulkPhase)
      (hsession : state.sessions number = .batching request phase)
      (hcase : BulkCase request state.world phase next) :
      StepCase state (.proceed number event)
        (state.goto number next.1 (.batching request next.2))
  | other (call : ServiceCall) :
      StepCase state (.other call) { state with world :=
        { state.world with inventory := call.apply state.world.inventory } }

theorem starts_post (world : World) (body : List (ℤ × ℤ))
    (idempotencyKey : Option String) (uuid : Uuid4) (clock : ℕ → ℕ) :
    Starts world (startCreate (postOrder body idempotencyKey uuid clock)) := by
  rw [postOrder]
  cases OrderCreate.parse? body with
  | none => exact .refused _ (.inr rfl)
  | some payload =>
      rw [checkedKey.eq_def]
      cases idempotencyKey with
      | none => exact .create _
      | some text =>
          simp only
          split_ifs
          · exact .create _
          · exact .refused _ (.inl rfl)

theorem starts_postBulk (world : World) (body : List (List (ℤ × ℤ)))
    (uuid : ℕ → Uuid4) :
    Starts world (startBulk (postOrdersBulk body uuid)) := by
  rw [postOrdersBulk]
  cases BulkOrderCreate.parse? body with
  | none => exact .refused _ (.inr rfl)
  | some payload => exact .bulk _

theorem step_cases {state next : State} {action : Action}
    (hcarried : ∀ number, (state.sessions number).Carried)
    (hstep : step state action = some next) : StepCase state action next := by
  cases step_moves hstep with
  | other call => exact .other call
  | post number body idempotencyKey uuid clock hidle =>
      exact .start _ number _ rfl hidle (starts_post _ _ _ _ _)
  | postBulk number body uuid hidle =>
      exact .start _ number _ rfl hidle (starts_postBulk _ _ _)
  | get number orderId hidle =>
      exact .start _ number _ rfl hidle (.read orderId)
  | readFails number hidle => exact .start _ number _ rfl hidle .unread
  | lookupFails number request hsession =>
      exact .unread number request hsession
  | advance number faults request phase hsession hrunning =>
      have hcarries : Carries request phase := by
        have hown := hcarried number
        rwa [hsession] at hown
      exact .advance number faults request phase _ hsession
        (advance_cases faults state.world hcarries hrunning)
  | proceed number event request phase point hsession hpoint =>
      exact .proceed number event request phase point hsession
        (advanceBulk_cases hpoint)

end OrderFlow.Orders.Edge
