import OrderFlow.Core.WriteOnce
import OrderFlow.Inventory.Feasibility
import OrderFlow.Orders.BulkAgreement
import OrderFlow.Orders.Edge

/-!
# The order endpoints are a write-once register

What the requests save and read of order-db, each at the await where it takes
effect, is a legal history of registers that are written once.  So an order a
client has been told of is there for good and never changes, and every order
that is there was asked for by a request that was not refused.
-/

namespace OrderFlow.Orders

open OrderFlow.Inventory

/-! ## The rows as registers -/

def Order.entry (order : Order) : String × Order := (order.id.val, order)

theorem OrderDb.id_of_lookup {orders : OrderDb} {orderId : String}
    {order : Order} (hfound : orders.lookup orderId = some order) :
    order.id.val = orderId := by
  simpa using List.find?_some hfound

theorem OrderDb.lookup_concat {orders : OrderDb} {order : Order}
    (hfresh : orders.lookup order.id.val = none) :
    lookup (orders ++ [order]) =
      Function.update orders.lookup order.id.val (some order) := by
  funext orderId
  by_cases hsame : orderId = order.id.val
  · subst hsame
    rw [lookup] at hfresh
    rw [Function.update_self, lookup, List.find?_append, hfresh]
    simp
  · rw [Function.update_of_ne hsame, lookup, List.find?_append, ← lookup]
    simp [Ne.symm hsame]

theorem OrderDb.insert?_eq_some {orders saved : OrderDb} {order : Order}
    (hsaved : orders.insert? order = some saved) :
    orders.lookup order.id.val = none ∧ saved = orders ++ [order] := by
  rw [insert?] at hsaved
  split_ifs at hsaved with hfresh
  rw [orders.lookup_val]
  exact ⟨hfresh, (Option.some.inj hsaved).symm⟩

theorem OrderDb.save?_insertAll? {orders saved : OrderDb}
    {added : List Order} (hsaved : orders.insertAll? added = some saved) :
    WriteOnce.Table.save? orders.lookup (added.map Order.entry) =
      some saved.lookup := by
  induction added generalizing orders with
  | nil => exact Option.some.inj hsaved ▸ rfl
  | cons order rest ih =>
      obtain ⟨middle, hinsert, hrest⟩ := Option.bind_eq_some_iff.mp hsaved
      obtain ⟨hfresh, rfl⟩ := insert?_eq_some hinsert
      have htail := ih hrest
      rw [lookup_concat hfresh] at htail
      rw [List.map_cons, WriteOnce.Table.save?, Order.entry, if_pos hfresh]
      exact htail

/-- The order a client is told of. -/
def Response.order? : Response → Option Order
  | .created order => some order
  | .found order => some order
  | _ => none

/-- The order a lookup has answered the request with. -/
def Phase.replayed? : Phase → Option Order
  | .done exit => exit.response.order?
  | _ => none

theorem order?_getOrder (orders : OrderDb) (orderId : String) :
    (getOrder orders orderId).order? = orders.lookup orderId := by
  rw [getOrder]
  cases orders.lookup orderId <;> rfl

theorem replayed?_afterLookup (request : CreateRequest)
    (existing : Option Order) :
    (afterLookup request existing).replayed? = existing := by
  cases existing with
  | some order => rfl
  | none =>
      rw [afterLookup_none]
      split_ifs <;> rfl

/-! ## The commit of a batch -/

theorem mem_tallied_added {request : BulkRequest}
    {outcomes : CharField128 → List ItemOutcome} {order : Order} :
    order ∈ (Edge.tallied request outcomes).added ↔
      order ∈ request.orders ∧ statusOf (outcomes order.id) = .persisted := by
  rw [Edge.tallied, foldl_tally, withStatus]
  simp [Tally.start]

/-- An order that a batch reports as persisted was added to the session. -/
theorem mem_added_of_result {request : BulkRequest}
    {outcomes : CharField128 → List ItemOutcome} {order : Order}
    {result : BulkOrderResult} (horder : order ∈ request.orders)
    (hresult : result ∈ (Edge.tallied request outcomes).results)
    (hid : result.orderRef = order.id) (hstatus : result.status = .persisted) :
    order ∈ (Edge.tallied request outcomes).added := by
  refine mem_tallied_added.mpr ⟨horder, ?_⟩
  rw [Edge.tallied, foldl_tally] at hresult
  obtain ⟨other, _, rfl⟩ := List.mem_map.mp (by simpa [Tally.start] using hresult)
  rwa [resultOf, ← hid] at *

namespace Edge

open OrderFlow.TransitionSystem

/-! ## What happens in order-db -/

abbrev Op := WriteOnce.Op String Order

/-- What a commit has saved, if it has. -/
def savedOp (before after : OrderDb) (added : List Order) : Option Op :=
  if after = before then none else some (.save (added.map Order.entry))

/-- What an await of a single order does in order-db.  What a lookup has seen
is what its client is told. -/
def createOp (orders : OrderDb) (request : CreateRequest) (faults : Faults) :
    Phase → Option Op
  | .lookup =>
      some (.read request.orderRef.val
        (afterLookup request (orders.get? request.orderRef)).replayed?)
  | .persist order =>
      savedOp orders (persistOrder faults orders order).1 [order]
  | _ => none

def bulkOp (orders : OrderDb) : BulkPhase → BulkEvent → Option Op
  | .commit tally, .commit fault =>
      savedOp orders (commitOrders fault orders tally.added).1 tally.added
  | _, _ => none

/-- The operation on order-db that takes effect at a step. -/
def event (state : State) : Action → Option Op
  | .get _ orderId =>
      some (.read orderId (getOrder state.world.orders orderId).order?)
  | .advance number faults =>
      match state.sessions number with
      | .creating request phase =>
          createOp state.world.orders request faults phase
      | _ => none
  | .proceed number bulkEvent =>
      match state.sessions number with
      | .batching _ phase => bulkOp state.world.orders phase bulkEvent
      | _ => none
  | _ => none

/-- The registers before and after a step: it has done what `event` says. -/
def Effect (before after : OrderDb) : Option Op → Prop
  | none => after.lookup = before.lookup
  | some op => WriteOnce.step before.lookup op = some after.lookup

theorem effect_savedOp {before after : OrderDb} {added : List Order}
    (hafter : after = before ∨ before.insertAll? added = some after) :
    Effect before after (savedOp before after added) := by
  rw [savedOp]
  split_ifs with hsame
  · exact congrArg OrderDb.lookup hsame
  · exact OrderDb.save?_insertAll? (hafter.resolve_left hsame)

theorem effect_read {orders : OrderDb} {orderId : String}
    {seen : Option Order} (hseen : orders.lookup orderId = seen) :
    Effect orders orders (some (.read orderId seen)) :=
  if_pos hseen

theorem persistOrder_effect (faults : Faults) (orders : OrderDb)
    (order : Order) :
    (persistOrder faults orders order).1 = orders ∨
      orders.insertAll? [order] = some (persistOrder faults orders order).1 := by
  have hone : orders.insertAll? [order] = orders.insert? order := by
    simp [OrderDb.insertAll?]
  rw [hone]
  cases hsaved : orders.insert? order <;> cases hadd : faults.addRaises <;>
    cases hcommit : faults.commit <;>
      simp [persistOrder, hsaved, hadd, hcommit]

theorem commitOrders_effect (fault : CommitFault) (orders : OrderDb)
    (added : List Order) :
    (commitOrders fault orders added).1 = orders ∨
      orders.insertAll? added = some (commitOrders fault orders added).1 := by
  rcases commitOrders_cases fault orders added with
    hfailed | ⟨saved, raised, hsaved, hcommitted⟩
  · exact .inl (by rw [hfailed])
  · exact .inr (by rw [hcommitted, hsaved])

theorem advance_effect (request : CreateRequest) (faults : Faults)
    (world : World) (phase : Phase) :
    Effect world.orders (Orders.advance request faults world phase).1.orders
      (createOp world.orders request faults phase) := by
  cases phase with
  | lookup =>
      refine effect_read ?_
      rw [replayed?_afterLookup, OrderDb.lookup_val]
  | persist order => exact effect_savedOp (persistOrder_effect faults _ order)
  | reserve | rollback | release | done => rfl

theorem advanceBulk_effect {request : BulkRequest} {world : World}
    {phase : BulkPhase} {event : BulkEvent} {next : World × BulkPhase}
    (hnext : advanceBulk request world phase event = some next) :
    Effect world.orders next.1.orders (bulkOp world.orders phase event) := by
  cases advanceBulk_moves hnext with
  | commit tally fault => exact effect_savedOp (commitOrders_effect fault _ _)
  | serve | failed | cancelled | answered | release => rfl

/-- Each step does to order-db what its event says. -/
theorem step_effect {state next : State} {action : Action}
    (hstep : step state action = some next) :
    Effect state.world.orders next.world.orders (event state action) := by
  cases step_moves hstep with
  | other | post | postBulk | readFails | lookupFails => rfl
  | get number orderId => exact effect_read (order?_getOrder _ _).symm
  | advance number faults request phase hsession =>
      rw [event, hsession]
      exact advance_effect request faults state.world phase
  | proceed number bulkEvent request phase point hsession hpoint =>
      rw [event, hsession]
      exact advanceBulk_effect hpoint

/-! ## Linearization -/

theorem simulation : ForwardSimulation step WriteOnce.step event
    (fun _ _ => True)
    (fun state table => table = state.world.orders.lookup) where
  internal state action next table hrelated _ hstep hevent := by
    have heffect := step_effect hstep
    rw [hevent] at heffect
    exact hrelated.trans heffect.symm
  matched state action next table op hrelated _ hstep hevent := by
    have heffect := step_effect hstep
    rw [hevent] at heffect
    exact ⟨_, hrelated ▸ heffect, rfl⟩

/-- However requests overlap and fail, what they save and what their clients
are told is a legal history of write-once registers. -/
theorem orders_linearize {state final : State} {schedule : List Action}
    (hrun : run step state schedule = some final) :
    run WriteOnce.step state.world.orders.lookup
      (trace step event state schedule) = some final.world.orders.lookup := by
  have hall : Along step (fun _ _ => True) state schedule :=
    Along.of_forall (fun _ _ => trivial) state
  obtain ⟨table, htable, rfl⟩ := simulation.run rfl hall hrun
  exact htable

/-- Two clients send one key, while a batch gets the last gizmos and the order
is read before it is there. -/
def rush : List Action :=
  [.get 0 "order-1",
    .post 1 [(1, 2)] (some "order-1") .zero id,
    .post 2 [(1, 2)] (some "order-1") .zero id,
    .postBulk 3 mixedBatch.payload.sent mixedBatch.uuid,
    .advance 1 {}, .proceed 3 (.serve id), .advance 1 {},
    .proceed 3 (.serve id), .advance 1 {}, .advance 2 {},
    .proceed 3 (.serve id), .proceed 3 (.serve id), .proceed 3 (.finish none),
    .proceed 3 (.commit .none), .proceed 3 (.release .answered)]

/-- The order of the two clients. -/
def rushOrder : Order where
  id := .ofText "order-1"
  items := [⟨1, 2⟩]

/-- The order of the batch that is saved. -/
def rushGizmos : Order where
  id := (mixedBatch.uuid 0).toCharField
  items := [⟨3, 10⟩]

/-- The read finds nothing, one client saves the order and the other one is
answered with it. -/
theorem orders_linearize_rush : ∃ final,
    run step (.init ⟨[], seededDb⟩) rush = some final ∧
      trace step event (.init ⟨[], seededDb⟩) rush =
        [.read "order-1" none, .read "order-1" none,
          .save [rushOrder.entry], .read "order-1" (some rushOrder),
          .save [rushGizmos.entry]] ∧
      run WriteOnce.step (OrderDb.lookup [])
        (trace step event (.init ⟨[], seededDb⟩) rush) =
          some final.world.orders.lookup := by
  have hlegal : ∀ final,
      run step (.init ⟨[], seededDb⟩) rush = some final →
        run WriteOnce.step (OrderDb.lookup [])
          (trace step event (.init ⟨[], seededDb⟩) rush) =
            some final.world.orders.lookup :=
    fun final hrun => orders_linearize hrun
  exact ⟨_, rfl, rfl, hlegal _ rfl⟩

/-! ## What clients have been told -/

/-- The client has been told that the order is there. -/
inductive Reports (order : Order) : Session → Prop
  | created (request : CreateRequest) :
      Reports order (.creating request (.done (.returned order)))
  | found : Reports order (.answered (.found order))
  | persisted (request : BulkRequest) (out : BulkOrderOut)
      (result : BulkOrderResult) (horder : order ∈ request.orders)
      (hresult : result ∈ out.results) (hid : result.orderRef = order.id)
      (hstatus : result.status = .persisted) :
      Reports order (.batching request (.done (.returned out)))

/-- The orders a batch has added are saved. -/
def Committed (request : BulkRequest) (orders : OrderDb)
    (out : BulkOrderOut) : Prop :=
  ∃ outcomes, out = request.out (tallied request outcomes) ∧
    ∀ order ∈ (tallied request outcomes).added,
      orders.lookup order.id.val = some order

/-- What a batch that has come to the phase knows. -/
def BatchSound (request : BulkRequest) (orders : OrderDb) : BulkPhase → Prop
  | .commit tally => ∃ outcomes, tally = tallied request outcomes
  | .releasing _ out => Committed request orders out
  | .done (.returned out) => Committed request orders out
  | _ => True

def SessionSound (orders : OrderDb) : Session → Prop
  | .creating request phase => Carries request phase ∧
      ∀ order, phase = .done (.returned order) →
        orders.lookup order.id.val = some order
  | .batching request phase => BatchSound request orders phase
  | .answered response => ∀ order, response = .found order →
      orders.lookup order.id.val = some order
  | .idle => True

def Sound (state : State) : Prop :=
  ∀ number, SessionSound state.world.orders (state.sessions number)

/-- Nothing that was there has changed. -/
def Extends (before after : OrderDb) : Prop :=
  ∀ orderId order, before.lookup orderId = some order →
    after.lookup orderId = some order

theorem step_extends {state next : State} {action : Action}
    (hstep : step state action = some next) :
    Extends state.world.orders next.world.orders := by
  intro orderId order hfound
  have heffect := step_effect hstep
  cases hevent : event state action with
  | none =>
      rw [hevent] at heffect
      exact heffect ▸ hfound
  | some op =>
      rw [hevent] at heffect
      exact WriteOnce.step_stable heffect hfound

theorem run_extends {state final : State} {schedule : List Action}
    (hrun : run step state schedule = some final) :
    Extends state.world.orders final.world.orders := by
  intro orderId order hfound
  obtain ⟨table, hhistory, rfl⟩ :=
    simulation.run rfl (Along.of_forall (fun _ _ => trivial) state) hrun
  exact WriteOnce.run_stable hhistory hfound

theorem Committed.mono {request : BulkRequest} {before after : OrderDb}
    {out : BulkOrderOut} (hcommitted : Committed request before out)
    (hextends : Extends before after) : Committed request after out := by
  obtain ⟨outcomes, hout, hadded⟩ := hcommitted
  exact ⟨outcomes, hout, fun order horder =>
    hextends _ _ (hadded order horder)⟩

theorem SessionSound.mono {before after : OrderDb} {session : Session}
    (hsound : SessionSound before session) (hextends : Extends before after) :
    SessionSound after session := by
  cases session with
  | idle => trivial
  | answered response =>
      exact fun order hresponse => hextends _ _ (hsound order hresponse)
  | creating request phase =>
      exact ⟨hsound.1, fun order hphase =>
        hextends _ _ (hsound.2 order hphase)⟩
  | batching request phase =>
      cases phase with
      | commit tally => exact hsound
      | releasing refs out => exact Committed.mono hsound hextends
      | streaming messages loop => trivial
      | done exit =>
          cases exit with
          | returned out => exact Committed.mono hsound hextends
          | http | raised => trivial

theorem AdvanceCase.carries {request : CreateRequest} {world : World}
    {phase : Phase} {next : World × Phase}
    (hcase : AdvanceCase request world phase next) : Carries request next.2 := by
  cases hcase with
  | encoded => exact ⟨rfl, rfl⟩
  | reserved => rfl
  | notSaved => rfl
  | saved raised => cases raised <;> trivial
  | rolledBack raised => cases raised <;> trivial
  | replayed | notEncodable | notReserved | released => trivial

/-- An order is returned when it has been found or saved. -/
theorem AdvanceCase.returned {request : CreateRequest} {world : World}
    {phase : Phase} {next : World × Phase}
    (hcase : AdvanceCase request world phase next) {order : Order}
    (hreturned : next.2 = .done (.returned order)) :
    next.1.orders.lookup order.id.val = some order := by
  cases hcase with
  | replayed found hfound =>
      obtain rfl : found = order := by simpa using hreturned
      obtain ⟨_, hid⟩ := OrderDb.get?_eq_some hfound
      rw [OrderDb.lookup_val, hid, hfound]
  | saved raised hfresh =>
      cases raised with
      | true => simp [afterPersist] at hreturned
      | false =>
          obtain rfl : request.order = order := by
            simpa [afterPersist] using hreturned
          rw [OrderDb.lookup_concat (by
            rw [OrderDb.lookup_val]
            exact hfresh), Function.update_self]
  | rolledBack raised => cases raised <;> simp [afterRollback] at hreturned
  | notEncodable | encoded | reserved | notReserved | notSaved | released =>
      simp at hreturned

theorem BulkCase.sound {request : BulkRequest} {world : World}
    {phase : BulkPhase} {next : World × BulkPhase}
    (hcase : BulkCase request world phase next)
    (hsound : BatchSound request world.orders phase) :
    BatchSound request next.1.orders next.2 := by
  have hreleases : ∀ (orders : OrderDb) (out : BulkOrderOut)
      (refs : List CharField128), Committed request orders out →
        BatchSound request orders (nextRelease out refs) := by
    intro orders out refs hcommitted
    cases refs <;> exact hcommitted
  cases hcase with
  | served => trivial
  | notSaved => trivial
  | summarized loop outcomes => exact ⟨outcomes, rfl⟩
  | released orderRef refs out inventory => exact hreleases _ out refs hsound
  | streamFailed messages loop exit hexit =>
      cases exit with
      | returned out => exact absurd rfl (hexit out)
      | http | raised => trivial
  | saved tally orders raised hsaved =>
      obtain ⟨outcomes, rfl⟩ := hsound
      cases raised with
      | true => trivial
      | false =>
          refine hreleases _ _ _ ⟨outcomes, rfl, fun order horder => ?_⟩
          exact WriteOnce.Table.save?_mem (OrderDb.save?_insertAll? hsaved)
            (List.mem_map_of_mem (f := Order.entry) horder)

theorem Sound.carried {state : State} (hsound : Sound state) (number : ℕ) :
    (state.sessions number).Carried := by
  have hown := hsound number
  cases hsession : state.sessions number with
  | creating request phase =>
      rw [hsession] at hown
      exact hown.1
  | idle | batching | answered => trivial

theorem Sound.init (world : World) : Sound (.init world) :=
  fun _ => trivial

theorem Sound.goto {state : State} (hsound : Sound state) {number : ℕ}
    {world : World} {session : Session}
    (hextends : Extends state.world.orders world.orders)
    (hsession : SessionSound world.orders session) :
    Sound (state.goto number world session) :=
  State.forall_goto (fun other => (hsound other).mono hextends) hsession

theorem Sound.step {state next : State} {action : Action}
    (hsound : Sound state) (hstep : Edge.step state action = some next) :
    Sound next := by
  have hextends := step_extends hstep
  cases step_cases hsound.carried hstep with
  | start action number session _ hidle hstarts =>
      refine hsound.goto hextends ?_
      cases hstarts with
      | create request => exact ⟨trivial, fun order => by simp⟩
      | bulk request => trivial
      | unread => exact fun order => by simp
      | refused response hstatus =>
          rintro order rfl
          simp [Response.statusCode] at hstatus
      | read orderId =>
          intro order hfound
          rw [getOrder_eq_found_iff] at hfound
          rw [OrderDb.id_of_lookup hfound]
          exact hfound
  | unread number request hsession =>
      exact hsound.goto hextends fun order => by simp
  | advance number faults request phase point hsession hcase =>
      exact hsound.goto hextends ⟨hcase.carries, fun _ => hcase.returned⟩
  | proceed number event request phase point hsession hcase =>
      have hown := hsound number
      rw [hsession] at hown
      exact hsound.goto hextends (hcase.sound hown)
  | other call => exact hsound

theorem Sound.run {world : World} {schedule : List Action} {final : State}
    (hrun : run Edge.step (.init world) schedule = some final) : Sound final :=
  run_invariant (fun _ _ _ hsound hstep => hsound.step hstep) (.init world) hrun

/-- What a client has been told is so. -/
theorem SessionSound.reported {orders : OrderDb} {session : Session}
    (hsound : SessionSound orders session) {order : Order}
    (hreports : Reports order session) :
    orders.lookup order.id.val = some order := by
  cases hreports with
  | created request => exact hsound.2 order rfl
  | found => exact hsound order rfl
  | persisted request out result horder hresult hid hstatus =>
      obtain ⟨outcomes, rfl, hadded⟩ := hsound
      exact hadded order (mem_added_of_result horder hresult hid hstatus)

/-- An order that any client has been told of stays, unchanged, ever after. -/
theorem reported_order_kept {world : World} {before after : List Action}
    {middle final : State}
    (hbefore : run step (.init world) before = some middle)
    (hafter : run step middle after = some final) {number : ℕ} {order : Order}
    (hreports : Reports order (middle.sessions number)) :
    final.world.orders.lookup order.id.val = some order :=
  run_extends hafter _ _ ((Sound.run hbefore number).reported hreports)

/-- An order that any client has been told of can be read back, unchanged,
ever after, when its id is one path segment without U+0000.  Under another id
no `GET` finds it. -/
theorem reported_order_readable {world : World} {before after : List Action}
    {middle final : State}
    (hbefore : run step (.init world) before = some middle)
    (hafter : run step middle after = some final) {number : ℕ} {order : Order}
    (hreports : Reports order (middle.sessions number)) :
    final.world.orders.lookup order.id.val = some order ∧
      (Readable order.id.val → routeOrder final.world.orders order.id.val =
        .answered (.found order)) ∧
      (¬ Readable order.id.val → ∀ found,
        routeOrder final.world.orders order.id.val ≠
          .answered (.found found)) := by
  have hthere := reported_order_kept hbefore hafter hreports
  refine ⟨hthere, fun hreadable => ?_, routeOrder_of_not_readable⟩
  rw [routeOrder_of_readable hreadable, getOrder_eq_found_iff.mpr hthere]

/-- The batch has reported the gizmos, and another order follows. -/
theorem reported_order_readable_rush : ∃ middle final,
    run step (.init ⟨[], seededDb⟩) rush = some middle ∧
      Reports rushGizmos (middle.sessions 3) ∧
      run step middle [.post 4 [(2, 1)] none .zero id, .advance 4 {},
        .advance 4 {}, .advance 4 {}] = some final ∧
      routeOrder final.world.orders rushGizmos.id.val =
        .answered (.found rushGizmos) := by
  have hreports : ∀ middle : State,
      middle.sessions 3 = .batching mixedBatch (.done (.returned
        ⟨3, 1, [⟨rushGizmos.id, .persisted, [⟨3, true, ""⟩]⟩,
          ⟨(mixedBatch.uuid 1).toCharField, .partlyReserved,
            [⟨3, false, "insufficient stock: requested 1, available 0"⟩,
              ⟨1, true, ""⟩]⟩,
          ⟨(mixedBatch.uuid 2).toCharField, .failed,
            [⟨3, false,
              "insufficient stock: requested 11, available 0"⟩]⟩]⟩)) →
        Reports rushGizmos (middle.sessions 3) := by
    intro middle hsession
    rw [hsession]
    exact .persisted _ _ _ (by decide) List.mem_cons_self rfl rfl
  have hstays : ∀ middle final,
      run step (.init ⟨[], seededDb⟩) rush = some middle →
        run step middle [.post 4 [(2, 1)] none .zero id, .advance 4 {},
          .advance 4 {}, .advance 4 {}] = some final →
          Reports rushGizmos (middle.sessions 3) →
            routeOrder final.world.orders rushGizmos.id.val =
              .answered (.found rushGizmos) :=
    fun middle final hbefore hafter hreports =>
      (reported_order_readable hbefore hafter hreports).2.1 (by decide)
  exact ⟨_, _, rfl, hreports _ rfl, rfl, hstays _ _ rfl rfl (hreports _ rfl)⟩

/-! ## Where the saved orders come from -/

/-- The request is for the order. -/
def Wants (order : Order) : Session → Prop
  | .creating request _ => order = request.order
  | .batching request _ => order ∈ request.orders
  | _ => False

/-- The commit has been tried. -/
def Session.committed : Session → Prop
  | .creating _ (.rollback _) => True
  | .creating _ (.release _) => True
  | .creating _ (.done (.returned _)) => True
  | .creating _ (.done (.http exception)) => exception.statusCode = 500
  | .creating _ (.done (.raised error)) => error = .databaseError
  | .batching _ (.releasing _ _) => True
  | .batching _ (.done (.returned _)) => True
  | .batching _ (.done (.raised error)) => error = .databaseError
  | _ => False

theorem Session.committed_status {session : Session}
    (hcommitted : session.committed) {response : Response}
    (hresponse : session.response? = some response) :
    response.statusCode ∈ [200, 201, 500] := by
  cases session with
  | idle | answered => exact hcommitted.elim
  | creating request phase =>
      cases phase with
      | done exit =>
          obtain rfl : exit.response = response := Option.some.inj hresponse
          cases exit with
          | returned | raised => simp [Exit.response, Response.statusCode]
          | http exception =>
              have hstatus : exception.statusCode = 500 := hcommitted
              simp [Exit.response, Response.statusCode, hstatus]
      | lookup | reserve | persist | rollback | release => simp [response?] at hresponse
  | batching request phase =>
      cases phase with
      | done exit =>
          obtain rfl : exit.response = response := Option.some.inj hresponse
          cases exit with
          | returned | raised => simp [BulkExit.response, Response.statusCode]
          | http exception => exact hcommitted.elim
      | streaming | commit | releasing => simp [response?] at hresponse

theorem AdvanceCase.committed {request : CreateRequest} {world : World}
    {phase : Phase} {next : World × Phase}
    (hcase : AdvanceCase request world phase next)
    (hcommitted : (Session.creating request phase).committed) :
    (Session.creating request next.2).committed := by
  cases hcase with
  | rolledBack raised => cases raised <;> trivial
  | released => rfl
  | replayed | notEncodable | encoded | reserved | notReserved | saved
    | notSaved => exact hcommitted.elim

theorem AdvanceCase.origin {request : CreateRequest} {world : World}
    {phase : Phase} {next : World × Phase}
    (hcase : AdvanceCase request world phase next) {orderId : String}
    {order : Order} (hfound : next.1.orders.lookup orderId = some order) :
    world.orders.lookup orderId = some order ∨
      order = request.order ∧ (Session.creating request next.2).committed := by
  cases hcase with
  | saved raised hfresh =>
      by_cases hsame : orderId = request.order.id.val
      · subst hsame
        rw [OrderDb.lookup_concat (by rw [OrderDb.lookup_val]; exact hfresh),
          Function.update_self, Option.some.injEq] at hfound
        refine .inr ⟨hfound.symm, ?_⟩
        cases raised <;> trivial
      · rw [OrderDb.lookup_concat (by rw [OrderDb.lookup_val]; exact hfresh),
          Function.update_of_ne hsame] at hfound
        exact .inl hfound
  | replayed | notEncodable | encoded | reserved | notReserved | notSaved
    | rolledBack | released => exact .inl hfound

theorem committed_nextRelease (request : BulkRequest) (out : BulkOrderOut)
    (refs : List CharField128) :
    (Session.batching request (nextRelease out refs)).committed := by
  cases refs <;> trivial

theorem BulkCase.committed {request : BulkRequest} {world : World}
    {phase : BulkPhase} {next : World × BulkPhase}
    (hcase : BulkCase request world phase next)
    (hcommitted : (Session.batching request phase).committed) :
    (Session.batching request next.2).committed := by
  cases hcase with
  | released orderRef refs out => exact committed_nextRelease request out refs
  | served | streamFailed | summarized | saved | notSaved =>
      exact hcommitted.elim

theorem BulkCase.origin {request : BulkRequest} {world : World}
    {phase : BulkPhase} {next : World × BulkPhase}
    (hcase : BulkCase request world phase next)
    (hsound : BatchSound request world.orders phase) {orderId : String}
    {order : Order} (hfound : next.1.orders.lookup orderId = some order) :
    world.orders.lookup orderId = some order ∨
      order ∈ request.orders ∧ (Session.batching request next.2).committed := by
  cases hcase with
  | saved tally orders raised hsaved =>
      obtain ⟨outcomes, rfl⟩ := hsound
      refine (WriteOnce.Table.save?_origin (OrderDb.save?_insertAll? hsaved)
        hfound).imp_right fun hentry => ?_
      obtain ⟨added, hadded, hsame⟩ := List.mem_map.mp hentry
      obtain rfl : added = order := congrArg Prod.snd hsame
      refine ⟨(mem_tallied_added.mp hadded).1, ?_⟩
      cases raised with
      | true => rfl
      | false => exact committed_nextRelease request _ _
  | served | streamFailed | summarized | notSaved | released =>
      exact .inl hfound

/-- Every order that is there was there at the start or is the order of a
request that has tried to commit it. -/
def Accounted (start : OrderDb) (state : State) : Prop :=
  ∀ orderId order, state.world.orders.lookup orderId = some order →
    start.lookup orderId = some order ∨
      ∃ number, Wants order (state.sessions number) ∧
        (state.sessions number).committed

theorem Accounted.goto {start : OrderDb} {state : State}
    (haccounted : Accounted start state) {number : ℕ} {world : World}
    {session : Session}
    (hkeeps : ∀ order, Wants order (state.sessions number) →
      (state.sessions number).committed →
        Wants order session ∧ session.committed)
    (horigin : ∀ orderId order, world.orders.lookup orderId = some order →
      state.world.orders.lookup orderId = some order ∨
        Wants order session ∧ session.committed) :
    Accounted start (state.goto number world session) := by
  intro orderId order hfound
  rcases horigin orderId order hfound with hbefore | hown
  · refine (haccounted orderId order hbefore).imp_right ?_
    rintro ⟨other, hwants, hcommitted⟩
    by_cases hother : other = number
    · subst hother
      refine ⟨other, ?_⟩
      rw [State.goto_self]
      exact hkeeps order hwants hcommitted
    · refine ⟨other, ?_⟩
      rw [State.goto_other _ _ _ hother]
      exact ⟨hwants, hcommitted⟩
  · refine .inr ⟨number, ?_⟩
    rw [State.goto_self]
    exact hown

theorem Accounted.step {start : OrderDb} {state next : State}
    {action : Action} (hsound : Sound state)
    (haccounted : Accounted start state)
    (hstep : Edge.step state action = some next) : Accounted start next := by
  cases step_cases hsound.carried hstep with
  | start action number session _ hidle hstarts =>
      refine haccounted.goto (fun order hwants => ?_) fun _ _ hfound =>
        .inl hfound
      rw [hidle] at hwants
      exact hwants.elim
  | unread number request hsession =>
      refine haccounted.goto (fun order _ hcommitted => ?_) fun _ _ hfound =>
        .inl hfound
      rw [hsession] at hcommitted
      exact hcommitted.elim
  | advance number faults request phase point hsession hcase =>
      refine haccounted.goto (fun order hwants hcommitted => ?_)
        fun orderId order => hcase.origin
      rw [hsession] at hwants hcommitted
      exact ⟨hwants, hcase.committed hcommitted⟩
  | proceed number event request phase point hsession hcase =>
      have hown := hsound number
      rw [hsession] at hown
      refine haccounted.goto (fun order hwants hcommitted => ?_)
        fun orderId order => hcase.origin hown
      rw [hsession] at hwants hcommitted
      exact ⟨hwants, hcase.committed hcommitted⟩
  | other call => exact haccounted

/-- An order that can be read was there at the start, or it is what a request
of the run asked for that has not been refused: its answer, when it has one,
is not a 4xx and not a failure of the reserve call. -/
theorem found_order_wanted {world : World} {schedule : List Action}
    {final : State} (hrun : run step (.init world) schedule = some final)
    {orderId : String} {order : Order}
    (hfound : getOrder final.world.orders orderId = .found order) :
    order.id.val = orderId ∧ (getOrder world.orders orderId = .found order ∨
      ∃ number, Wants order (final.sessions number) ∧
        ∀ response, (final.sessions number).response? = some response →
          response.statusCode ∈ [200, 201, 500]) := by
  have hboth : Sound final ∧ Accounted world.orders final :=
    @run_invariant _ _ step
      (fun state => Sound state ∧ Accounted world.orders state)
      (fun _ _ _ hkept hstep =>
        ⟨hkept.1.step hstep, hkept.2.step hkept.1 hstep⟩) _ _ _
      ⟨.init world, fun _ _ hthere => .inl hthere⟩ hrun
  rw [getOrder_eq_found_iff] at hfound ⊢
  refine ⟨OrderDb.id_of_lookup hfound, ?_⟩
  refine (hboth.2 orderId order hfound).imp_right ?_
  rintro ⟨number, hwants, hcommitted⟩
  exact ⟨number, hwants, fun response =>
    (final.sessions number).committed_status hcommitted⟩

theorem found_order_wanted_rush : ∃ final,
    run step (.init ⟨[], seededDb⟩) rush = some final ∧
      getOrder final.world.orders "order-1" = .found rushOrder ∧
      ∃ number, Wants rushOrder (final.sessions number) ∧
        ∀ response, (final.sessions number).response? = some response →
          response.statusCode ∈ [200, 201, 500] := by
  have hwanted : ∀ final,
      run step (.init ⟨[], seededDb⟩) rush = some final →
        getOrder final.world.orders "order-1" = .found rushOrder →
          ∃ number, Wants rushOrder (final.sessions number) ∧
            ∀ response, (final.sessions number).response? = some response →
              response.statusCode ∈ [200, 201, 500] :=
    fun final hrun hfound =>
      (found_order_wanted hrun hfound).2.resolve_left (by decide)
  exact ⟨_, rfl, rfl, hwanted _ rfl rfl⟩

end Edge

end OrderFlow.Orders
