import OrderFlow.Orders.RpcStack
import OrderFlow.Orders.Site

/-!
# Without inventory-service

While no call of order-service is executed, be it that nobody answers or that
the token is refused, no order is saved and no client is told of a new one.
-/

namespace OrderFlow.Orders.Edge

open OrderFlow.Grpc
open OrderFlow.Inventory
open OrderFlow.TransitionSystem

/-! ## Calls that are not executed -/

/-- The call fails, and the handler has not run. -/
def Fails (delivery : Delivery) : Prop :=
  ∃ error, delivery = .failed error false

/-- The gate lets nobody in who has another token. -/
theorem fails_tokenDelivery {clientToken serverToken : String}
    (hserver : serverToken ≠ "") (hclient : clientToken ≠ serverToken) :
    Fails (tokenDelivery clientToken serverToken) :=
  ⟨_, if_neg (not_or.mpr ⟨hserver, hclient⟩)⟩

/-- Every call that order-service makes in the step fails. -/
def Unserved : Action → Prop
  | .advance _ faults => Fails faults.reserve ∧ Fails faults.release
  | .proceed _ (.serve _) => False
  | .proceed _ (.release delivery) => Fails delivery
  | _ => True

/-- The call of another client. -/
def Action.other? : Action → Option ServiceCall
  | .other call => some call
  | _ => none

/-- An order that was there, or an error. -/
def OldOrError (orders : OrderDb) (response : Response) : Prop :=
  (∃ order, response.order? = some order ∧
      orders.lookup order.id.val = some order) ∨
    400 ≤ response.statusCode

/-- The request has got nowhere. -/
def Session.Barred (orders : OrderDb) : Session → Prop
  | .idle => True
  | .creating request phase => Carries request phase ∧
      match phase with
      | .lookup | .reserve _ _ => True
      | .persist _ | .rollback _ | .release _ => False
      | .done exit => OldOrError orders exit.response
  | .batching request phase =>
      match phase with
      | .streaming messages _ => messages = (requestGen request.lines).1
      | .commit _ | .releasing _ _ => False
      | .done exit => OldOrError orders exit.response
  | .answered response => OldOrError orders response

theorem bulk_lines_ne (request : BulkRequest) : request.lines ≠ [] := by
  intro hlines
  obtain ⟨payload, uuid⟩ := request
  obtain ⟨orders, horders⟩ := payload
  cases orders with
  | nil => exact horders rfl
  | cons order orders =>
      rw [BulkRequest.lines, List.flatMap_eq_nil_iff] at hlines
      have hfirst := hlines _ (by
        rw [BulkRequest.orders, List.mapIdx_cons]
        exact List.mem_cons_self)
      exact order.items_ne (by simpa using hfirst)

/-- A stream that comes to its end has a message. -/
theorem requestGen_ne {request : BulkRequest}
    (hend : (requestGen request.lines).2 = true) :
    (requestGen request.lines).1 ≠ [] := by
  rw [requestGen_of_fits (fits_of_requestGen hend)]
  exact fun hnil => bulk_lines_ne request (List.map_eq_nil_iff.mp hnil)

/-! ## One step -/

section Steps

variable {orders : OrderDb} {world : World} {state next : State}
  {action : Action}

theorem grpcToHttpStatus_ge (code : StatusCode) :
    400 ≤ grpcToHttpStatus code := by
  cases code <;> decide

theorem afterLookup_barred (request : CreateRequest) :
    Session.Barred orders (.creating request
      (afterLookup request (orders.get? request.orderRef))) := by
  cases hfound : orders.get? request.orderRef with
  | some order =>
      obtain ⟨_, hid⟩ := OrderDb.get?_eq_some hfound
      refine ⟨trivial, .inl ⟨order, rfl, ?_⟩⟩
      rw [OrderDb.lookup_val, hid, hfound]
  | none =>
      rw [afterLookup_none]
      split_ifs
      · exact ⟨⟨rfl, rfl⟩, trivial⟩
      · exact ⟨trivial, .inr (by decide)⟩

theorem advance_barred {request : CreateRequest} {faults : Faults}
    {phase : Phase} (hfails : Fails faults.reserve)
    (hbarred : Session.Barred world.orders (.creating request phase)) :
    (Orders.advance request faults world phase).1 = world ∧
      Session.Barred world.orders (.creating request
        (Orders.advance request faults world phase).2) := by
  cases phase with
  | lookup => exact ⟨rfl, afterLookup_barred request⟩
  | reserve message order =>
      obtain ⟨error, hfails⟩ := hfails
      rw [Orders.advance, hfails]
      exact ⟨rfl, trivial, .inr (grpcToHttpStatus_ge error.code)⟩
  | persist | rollback | release => exact hbarred.2.elim
  | done exit => exact ⟨rfl, hbarred⟩

theorem advanceBulk_barred {request : BulkRequest} {number : ℕ}
    {phase : BulkPhase} {event : BulkEvent} {point : World × BulkPhase}
    (hunserved : Unserved (.proceed number event))
    (hbarred : Session.Barred world.orders (.batching request phase))
    (hnext : advanceBulk request world phase event = some point) :
    point.1 = world ∧
      Session.Barred world.orders (.batching request point.2) := by
  cases advanceBulk_moves hnext with
  | serve => exact hunserved.elim
  | failed messages loop error =>
      exact ⟨rfl, .inr (grpcToHttpStatus_ge error.code)⟩
  | cancelled => exact ⟨rfl, .inr (by decide)⟩
  | answered loop hend =>
      -- the server has not read a message, so it cannot be done
      have hmessages : [] = (requestGen request.lines).1 := hbarred
      exact absurd hmessages.symm (requestGen_ne hend)
  | commit | release => exact hbarred.elim

theorem starts_barred {session : Session} (hstarts : Starts world session) :
    session.Barred world.orders := by
  cases hstarts with
  | refused response hstatus => exact .inr (by omega)
  | create request => exact ⟨trivial, trivial⟩
  | bulk request => rfl
  | unread => exact .inr (by decide)
  | read orderId =>
      cases hfound : world.orders.lookup orderId with
      | none =>
          have hmissing : getOrder world.orders orderId =
              .http ⟨404, .text "order not found"⟩ := by
            rw [getOrder, hfound]
          rw [hmissing]
          exact .inr (by decide)
      | some order =>
          have hread : getOrder world.orders orderId = .found order := by
            rw [getOrder, hfound]
          rw [hread]
          refine .inl ⟨order, rfl, ?_⟩
          rw [OrderDb.id_of_lookup hfound, hfound]

/-- Nothing is written for a request, and none has got anywhere. -/
structure Stalled (orders : OrderDb) (state : State) : Prop where
  unwritten : state.world.orders = orders
  barred : ∀ number, (state.sessions number).Barred orders

theorem Stalled.init (world : World) : Stalled world.orders (.init world) :=
  ⟨rfl, fun _ => trivial⟩

theorem Stalled.goto (hstalled : Stalled orders state) {number : ℕ}
    {session : Session} (hsession : session.Barred orders) :
    Stalled orders (state.goto number state.world session) :=
  ⟨hstalled.unwritten, State.forall_goto hstalled.barred hsession⟩

/-- A step writes what another client has called for, and nothing else. -/
theorem Stalled.step (hstalled : Stalled orders state)
    (hunserved : Unserved action) (hstep : Edge.step state action = some next) :
    Stalled orders next ∧ next.world.inventory =
      runCalls state.world.inventory action.other?.toList := by
  have hbarred := hstalled.barred
  rw [← hstalled.unwritten] at hbarred
  have hstart : ∀ {number session}, Starts state.world session →
      Stalled orders (state.goto number state.world session) :=
    fun hstarts => hstalled.goto (hstalled.unwritten ▸ starts_barred hstarts)
  cases step_moves hstep with
  | other call => exact ⟨⟨hstalled.unwritten, hstalled.barred⟩, rfl⟩
  | post => exact ⟨hstart (starts_post _ _ _ _ _), rfl⟩
  | postBulk => exact ⟨hstart (starts_postBulk _ _ _), rfl⟩
  | get number orderId => exact ⟨hstart (.read orderId), rfl⟩
  | readFails | lookupFails => exact ⟨hstart .unread, rfl⟩
  | advance number faults request phase hsession =>
      have hown := hbarred number
      rw [hsession] at hown
      obtain ⟨hworld, hafter⟩ := advance_barred hunserved.1 hown
      rw [hworld]
      exact ⟨hstalled.goto (hstalled.unwritten ▸ hafter), rfl⟩
  | proceed number event request phase point hsession hpoint =>
      have hown := hbarred number
      rw [hsession] at hown
      obtain ⟨hworld, hafter⟩ := advanceBulk_barred hunserved hown hpoint
      rw [hworld]
      exact ⟨hstalled.goto (hstalled.unwritten ▸ hafter), rfl⟩

theorem Session.Barred.response {session : Session}
    (hbarred : session.Barred orders) {response : Response}
    (hresponse : session.response? = some response) :
    OldOrError orders response := by
  cases session with
  | idle => cases hresponse
  | answered => exact Option.some.inj hresponse ▸ hbarred
  | creating request phase =>
      cases phase with
      | done exit => exact Option.some.inj hresponse ▸ hbarred.2
      | _ => cases hresponse
  | batching request phase =>
      cases phase with
      | done exit => exact Option.some.inj hresponse ▸ hbarred
      | _ => cases hresponse

end Steps

/-! ## Every run -/

theorem run_stalled {orders : OrderDb} {state final : State}
    {schedule : List Action} (hstalled : Stalled orders state)
    (hunserved : ∀ action ∈ schedule, Unserved action)
    (hrun : run step state schedule = some final) :
    Stalled orders final ∧ final.world.inventory =
      runCalls state.world.inventory (schedule.filterMap Action.other?) := by
  induction schedule generalizing state with
  | nil =>
      rw [run_nil, Option.some.injEq] at hrun
      exact hrun ▸ ⟨hstalled, rfl⟩
  | cons action schedule ih =>
      obtain ⟨next, hnext, hrest⟩ := run_cons_eq_some hrun
      rw [List.forall_mem_cons] at hunserved
      obtain ⟨hkept, hfirst⟩ := hstalled.step hunserved.1 hnext
      obtain ⟨hfinal, hlater⟩ := ih hkept hunserved.2 hrest
      refine ⟨hfinal, hlater.trans ?_⟩
      rw [hfirst]
      cases hother : action.other? with
      | none => rw [List.filterMap_cons_none hother]; rfl
      | some call => rw [List.filterMap_cons_some hother]; rfl

/-- While no call of order-service is executed, whatever requests come in and
however they overlap: order-db stays as it is, inventory-db has what the other
clients make of it, and every answer is an old order or an error. -/
theorem outage_changes_nothing {world : World} {schedule : List Action}
    {final : State} (hunserved : ∀ action ∈ schedule, Unserved action)
    (hrun : run step (.init world) schedule = some final) :
    final.world.orders = world.orders ∧
      final.world.inventory = runCalls world.inventory
        (schedule.filterMap Action.other?) ∧
      ∀ number response, (final.sessions number).response? = some response →
        OldOrError world.orders response := by
  obtain ⟨hstalled, hinventory⟩ :=
    run_stalled (.init world) hunserved hrun
  exact ⟨hstalled.unwritten, hinventory, fun number response hresponse =>
    (hstalled.barred number).response hresponse⟩

/-- Order-service has the wrong token; another client has the right one. -/
def lockedOut : List Action :=
  let refused : Faults :=
    { reserve := tokenDelivery "guess" "secret"
      release := tokenDelivery "guess" "secret" }
  [.post 0 [(1, 2)] (some "key-1") .zero id,
    .postBulk 1 [[(3, 1)]] (fun _ => .zero), .advance 0 refused,
    .other (.reserve ⟨.ofText "order-9", [⟨1, 5⟩], .empty⟩ id),
    .advance 0 refused,
    .proceed 1 (.finish (some ⟨.unauthenticated, "invalid auth token"⟩)),
    .get 2 "key-1"]

theorem outage_changes_nothing_lockedOut : ∃ final,
    run step (.init ⟨[], seededDb⟩) lockedOut = some final ∧
      (final.sessions 0).response? =
        some (.http ⟨502, .text "inventory unavailable: UNAUTHENTICATED"⟩) ∧
      final.world.orders = [] ∧
      final.world.inventory.available? 1 = some 95 := by
  have hfails : Fails (tokenDelivery "guess" "secret") :=
    fails_tokenDelivery (by decide) (by decide)
  have hunserved : ∀ action ∈ lockedOut, Unserved action := by
    simp only [lockedOut, List.forall_mem_cons, Unserved, hfails, and_self,
      List.not_mem_nil, IsEmpty.forall_iff, implies_true]
  have hnothing : ∀ final,
      run step (.init ⟨[], seededDb⟩) lockedOut = some final →
        final.world.orders = [] ∧ final.world.inventory =
          runCalls seededDb (lockedOut.filterMap Action.other?) := by
    intro final hrun
    obtain ⟨horders, hinventory, _⟩ := outage_changes_nothing hunserved hrun
    exact ⟨horders, hinventory⟩
  refine ⟨_, rfl, rfl, (hnothing _ rfl).1, ?_⟩
  rw [(hnothing _ rfl).2]
  rfl

end OrderFlow.Orders.Edge
