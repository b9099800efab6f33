import OrderFlow.Inventory.Simulation
import OrderFlow.Orders.CreateOrder

/-!
# The transparent retries of the channel

`_SERVICE_CONFIG` in `grpc_client/client.py` lets the channel send a
ReserveStock or ReleaseStock message up to four times.  One `create_order`
request is run against the interleaved inventory: a message that has been sent
may reach a replica at any later time, as a further copy, and the client goes
on with the answer of any one copy.
-/

namespace OrderFlow.Orders.RetryPolicy

open OrderFlow.Inventory
open OrderFlow.Inventory.Refinement

/-- `maxAttempts`. -/
def maxAttempts : ℕ := 4

/-- The request, and what its channel has sent. -/
structure Client where
  orders : OrderDb
  phase : Phase
  reserve : Option ReserveStockRequest := none
  reserveCopies : ℕ := 0
  release : Option CharField128 := none
  releaseCopies : ℕ := 0

structure State where
  client : Client
  inventory : Interleaved.State

inductive Action where
  /-- an await on order-db returns -/
  | session (commitFails : Bool)
  /-- a copy of the reserve message reaches a replica -/
  | reserveCopy (number : ℕ) (clock : ℕ → ℕ)
  | releaseCopy (number : ℕ)
  /-- a statement of one of the copies -/
  | inventory (action : Interleaved.Action)
  /-- the client has the answer of a copy -/
  | answer (number : ℕ)

def State.init (orders : OrderDb) (db : InventoryDb) : State where
  client := { orders := orders, phase := .lookup }
  inventory := .init db

/-- The message that is sent when this await begins. -/
def reserveMessage? : Phase → Option ReserveStockRequest
  | .reserve message _ => some message
  | _ => none

def releaseMessage? : Phase → Option CharField128
  | .release order => some order.id
  | _ => none

/-- The await of `session.get`, of the commit or of the rollback returns; a
commit that fails saves nothing. -/
def Client.session? (request : CreateRequest) (commitFails : Bool)
    (client : Client) : Option Client :=
  match client.phase with
  | .lookup =>
      let phase := afterLookup request (client.orders.get? request.orderRef)
      some { client with phase := phase, reserve := reserveMessage? phase }
  | .persist order =>
      let committed := persistOrder
        { commit := if commitFails then .notSaved else .none }
        client.orders order
      some { client with
        orders := committed.1
        phase := afterPersist order committed.2 }
  | .rollback order =>
      let phase := afterRollback order false
      some { client with phase := phase, release := releaseMessage? phase }
  | _ => none

/-- The await of an RPC returns with the result of a copy. -/
def Client.answer? (client : Client) (result : Interleaved.Result) :
    Option Client :=
  match client.phase, result with
  | .reserve _ order, .reserved outcome =>
      some { client with phase := afterReserve order (.ok outcome) }
  | .release _, .released outcome =>
      some { client with phase := afterRelease (.ok outcome) }
  | _, _ => none

def Client.countReserve (client : Client) : Client :=
  { client with reserveCopies := client.reserveCopies + 1 }

def Client.countRelease (client : Client) : Client :=
  { client with releaseCopies := client.releaseCopies + 1 }

/-- The service layer is called with the fields of the message; the adapter
rejects neither of the two messages of a request. -/
def reserveCall (message : ReserveStockRequest) (clock : ℕ → ℕ) :
    Interleaved.Request :=
  .reserve message.orderRef message.items message.idempotencyKey clock

def step (request : CreateRequest) (state : State) : Action → Option State
  | .session commitFails =>
      (state.client.session? request commitFails).map fun client =>
        { state with client := client }
  | .reserveCopy number clock =>
      match state.client.reserve with
      | none => none
      | some message =>
          if state.client.reserveCopies < maxAttempts then
            (Interleaved.step state.inventory
              (.call number (reserveCall message clock))).map fun inventory =>
                ⟨state.client.countReserve, inventory⟩
          else none
  | .releaseCopy number =>
      match state.client.release with
      | none => none
      | some orderRef =>
          if state.client.releaseCopies < maxAttempts then
            (Interleaved.step state.inventory
              (.call number (.release orderRef))).map fun inventory =>
                ⟨state.client.countRelease, inventory⟩
          else none
  | .inventory (.call _ _) => none
  | .inventory action =>
      (Interleaved.step state.inventory action).map fun inventory =>
        { state with inventory := inventory }
  | .answer number =>
      ((state.inventory.sessions number).result?.bind
        state.client.answer?).map fun client => { state with client := client }

/-! ## Steps against the serial inventory -/

/-- A step as the client and the serial inventory see it. -/
inductive StepCase (request : CreateRequest) (state : State)
    (serial : Serial.State) : Action → Client → Serial.State → Prop
  | session (commitFails : Bool) (client : Client)
      (hclient : state.client.session? request commitFails = some client) :
      StepCase request state serial (.session commitFails) client serial
  | reserveCopy (number : ℕ) (clock : ℕ → ℕ) (message : ReserveStockRequest)
      (next : Serial.State)
      (hsent : state.client.reserve = some message)
      (hserial : Serial.step serial
        (.call number (reserveCall message clock)) = some next) :
      StepCase request state serial (.reserveCopy number clock)
        state.client.countReserve next
  | releaseCopy (number : ℕ) (orderRef : CharField128) (next : Serial.State)
      (hsent : state.client.release = some orderRef)
      (hserial : Serial.step serial (.call number (.release orderRef)) =
        some next) :
      StepCase request state serial (.releaseCopy number)
        state.client.countRelease next
  /-- a statement inside a transaction -/
  | statement (action : Interleaved.Action)
      (hevent : event state.inventory action = none) :
      StepCase request state serial (.inventory action) state.client serial
  | transaction (action : Interleaved.Action) (seen : Serial.Action)
      (next : Serial.State)
      (hevent : event state.inventory action = some seen)
      (hcalls : SerialCalls (fun _ => False) seen)
      (hserial : Serial.step serial seen = some next) :
      StepCase request state serial (.inventory action) state.client next
  | answer (number : ℕ) (result : Interleaved.Result) (client : Client)
      (hresult : (serial.sessions number).result? = some result)
      (hclient : state.client.answer? result = some client) :
      StepCase request state serial (.answer number) client serial

theorem Related.inventory_case {request : CreateRequest} {state : State}
    {serial : Serial.State} (hrelated : Related state.inventory serial)
    {action : Interleaved.Action} {inventory : Interleaved.State}
    (hcalls : Calls (fun _ => False) action)
    (hstep : Interleaved.step state.inventory action = some inventory) :
    ∃ serialNext, Related inventory serialNext ∧
      StepCase request state serial (.inventory action) state.client
        serialNext := by
  have hmatched := hrelated.step hstep
  cases hevent : event state.inventory action with
  | none =>
      rw [hevent] at hmatched
      exact ⟨serial, hmatched, .statement action hevent⟩
  | some seen =>
      rw [hevent] at hmatched
      obtain ⟨serialNext, hserial, hnext⟩ := hmatched
      exact ⟨serialNext, hnext, .transaction action seen serialNext hevent
        (hcalls.serial hevent) hserial⟩

theorem step_cases {request : CreateRequest} {state next : State}
    {serial : Serial.State} (hrelated : Related state.inventory serial)
    {action : Action} (hstep : step request state action = some next) :
    ∃ serialNext, Related next.inventory serialNext ∧
      StepCase request state serial action next.client serialNext := by
  cases action with
  | session commitFails =>
      obtain ⟨client, hclient, rfl⟩ := Option.map_eq_some_iff.mp hstep
      exact ⟨serial, hrelated, .session commitFails client hclient⟩
  | reserveCopy number clock =>
      rw [step] at hstep
      cases hsent : state.client.reserve with
      | none => simp [hsent] at hstep
      | some message =>
          simp only [hsent] at hstep
          split at hstep
          · obtain ⟨inventory, hinventory, rfl⟩ :=
              Option.map_eq_some_iff.mp hstep
            obtain ⟨serialNext, hserial, hnext⟩ := hrelated.call hinventory
            exact ⟨serialNext, hnext,
              .reserveCopy number clock message serialNext hsent hserial⟩
          · cases hstep
  | releaseCopy number =>
      rw [step] at hstep
      cases hsent : state.client.release with
      | none => simp [hsent] at hstep
      | some orderRef =>
          simp only [hsent] at hstep
          split at hstep
          · obtain ⟨inventory, hinventory, rfl⟩ :=
              Option.map_eq_some_iff.mp hstep
            obtain ⟨serialNext, hserial, hnext⟩ := hrelated.call hinventory
            exact ⟨serialNext, hnext,
              .releaseCopy number orderRef serialNext hsent hserial⟩
          · cases hstep
  | inventory action =>
      cases action with
      | call number call => cases hstep
      | advance number =>
          obtain ⟨inventory, hinventory, rfl⟩ :=
            Option.map_eq_some_iff.mp hstep
          exact Related.inventory_case hrelated trivial hinventory
      | select number rows =>
          obtain ⟨inventory, hinventory, rfl⟩ :=
            Option.map_eq_some_iff.mp hstep
          exact Related.inventory_case hrelated trivial hinventory
      | abort number =>
          obtain ⟨inventory, hinventory, rfl⟩ :=
            Option.map_eq_some_iff.mp hstep
          exact Related.inventory_case hrelated trivial hinventory
  | answer number =>
      obtain ⟨client, hanswer, rfl⟩ := Option.map_eq_some_iff.mp hstep
      obtain ⟨result, hresult, hclient⟩ := Option.bind_eq_some_iff.mp hanswer
      rw [← hrelated.result] at hresult
      exact ⟨serial, hrelated, .answer number result client hresult hclient⟩

/-! ## What the client does -/

/-- The inversion of `Client.session?`. -/
inductive SessionCase (request : CreateRequest) (client : Client) :
    Client → Prop
  | found (order : Order) (hphase : client.phase = .lookup)
      (hfound : client.orders.get? request.orderRef = some order) :
      SessionCase request client
        { client with phase := .done (.returned order), reserve := none }
  | notEncodable (hphase : client.phase = .lookup) :
      SessionCase request client
        { client with phase := .done (.raised .valueError), reserve := none }
  | sent (hphase : client.phase = .lookup)
      (hfresh : client.orders.get? request.orderRef = none) :
      SessionCase request client
        { client with
          phase := .reserve request.message request.order
          reserve := some request.message }
  | saved (hphase : client.phase = .persist request.order)
      (hfresh : client.orders.get? request.orderRef = none) :
      SessionCase request client
        { client with
          orders := client.orders ++ [request.order]
          phase := .done (.returned request.order) }
  | notSaved (hphase : client.phase = .persist request.order) :
      SessionCase request client
        { client with phase := .rollback request.order }
  | rolledBack (hphase : client.phase = .rollback request.order) :
      SessionCase request client
        { client with
          phase := .release request.order
          release := some request.orderRef }

theorem session?_cases {request : CreateRequest} {client next : Client}
    {commitFails : Bool} (hcarries : Carries request client.phase)
    (hnext : client.session? request commitFails = some next) :
    SessionCase request client next := by
  rw [Client.session?] at hnext
  cases hphase : client.phase with
  | lookup =>
      simp only [hphase, Option.some.injEq] at hnext
      subst hnext
      cases hfound : client.orders.get? request.orderRef with
      | some order => exact .found order hphase hfound
      | none =>
          rw [afterLookup_none]
          by_cases hencodable : request.Encodable
          · rw [if_pos hencodable]
            exact .sent hphase hfound
          · rw [if_neg hencodable]
            exact .notEncodable hphase
  | persist order =>
      rw [hphase] at hcarries
      obtain rfl : order = request.order := hcarries
      simp only [hphase, Option.some.injEq] at hnext
      subst hnext
      have hid : request.order.id = request.orderRef := rfl
      cases commitFails with
      | true => exact .notSaved hphase
      | false =>
          cases hfound : client.orders.get? request.orderRef with
          | none =>
              simp only [persistOrder, OrderDb.insert?, hid, hfound]
              exact .saved hphase hfound
          | some found =>
              simp only [persistOrder, OrderDb.insert?, hid, hfound]
              exact .notSaved hphase
  | rollback order =>
      rw [hphase] at hcarries
      obtain rfl : order = request.order := hcarries
      simp only [hphase, Option.some.injEq] at hnext
      subst hnext
      exact .rolledBack hphase
  | reserve message order => simp [hphase] at hnext
  | release order => simp [hphase] at hnext
  | done exit => simp [hphase] at hnext

/-- The inversion of `Client.answer?`. -/
inductive AnswerCase (request : CreateRequest) (client : Client) :
    Interleaved.Result → Client → Prop
  | reserved (outcome : ReservationOutcome) (message : ReserveStockRequest)
      (hphase : client.phase = .reserve message request.order)
      (hsuccess : outcome.success = true) :
      AnswerCase request client (.reserved outcome)
        { client with phase := .persist request.order }
  | rejected (outcome : ReservationOutcome) (message : ReserveStockRequest)
      (exit : Exit) (hphase : client.phase = .reserve message request.order)
      (hfailed : outcome.success = false) :
      AnswerCase request client (.reserved outcome)
        { client with phase := .done exit }
  | released (outcome : ReleaseOutcome) (exit : Exit)
      (hphase : client.phase = .release request.order) :
      AnswerCase request client (.released outcome)
        { client with phase := .done exit }

theorem answer?_cases {request : CreateRequest} {client next : Client}
    {result : Interleaved.Result} (hcarries : Carries request client.phase)
    (hnext : client.answer? result = some next) :
    AnswerCase request client result next := by
  unfold Client.answer? at hnext
  split at hnext
  · rename_i message order outcome hphase
    rw [hphase] at hcarries
    obtain ⟨_, rfl⟩ := hcarries
    cases hnext
    rw [afterReserve]
    cases hsuccess : outcome.success with
    | true => exact .reserved outcome message hphase hsuccess
    | false => exact .rejected outcome message _ hphase hsuccess
  · rename_i order outcome hphase
    rw [hphase] at hcarries
    obtain rfl : order = request.order := hcarries
    cases hnext
    exact .released outcome _ hphase
  · cases hnext

end OrderFlow.Orders.RetryPolicy
