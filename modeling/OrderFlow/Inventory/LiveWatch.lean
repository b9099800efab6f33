import OrderFlow.Inventory.StockTrigger
import OrderFlow.Inventory.WatchHistory

/-!
# WatchStock with everything under it

The reader and the handler of `Watch` beside the UPDATEs of the service layer
and of other writers, the trigger with its payloads, `listen_stock_changes` and
`_drain_notifications`.  The generator stands still while the drain holds what
it has yielded, and `stop` is one event for all threads.

Every run of these parts is a run of the call as `Watch` has it.
-/

namespace OrderFlow.Inventory

theorem InventoryDb.commit_productIds (db : InventoryDb) (tx : Tx) :
    (db.commit tx).products.map Product.id = db.products.map Product.id := by
  rw [InventoryDb.commit, List.map_map]
  rfl

theorem ServiceCall.apply_productIds (db : InventoryDb) (call : ServiceCall) :
    (call.apply db).products.map Product.id =
      db.products.map Product.id := by
  cases call with
  | release orderRef => exact db.commit_productIds _
  | reserve request clock =>
      rcases reserveStock_cases db (request.toCall db clock) with
        hsame | ⟨_, _, loop, _, hcommit⟩
      · exact congrArg (fun after => after.products.map Product.id) hsame
      · have hdb : (ServiceCall.reserve request clock).apply db =
            db.commit loop.tx := hcommit
        rw [hdb, db.commit_productIds]

end OrderFlow.Inventory

namespace OrderFlow.Inventory.Live

open OrderFlow.ChangeFeed
open OrderFlow.Inventory.Notifications
open OrderFlow.TransitionSystem

/-! ## Other writers -/

/-- `UPDATE inventory_app_product SET available_quantity = ... WHERE id = ...`,
one statement after the other in a transaction. -/
def updateRow (db : InventoryDb) (tx : Tx) (row : ℤ × ℤ) : Tx :=
  match tx.available? db row.1 with
  | none => tx
  | some _ => tx.write row.1 row.2

def updateRows (db : InventoryDb) : Tx → List (ℤ × ℤ) → Tx :=
  List.foldl (updateRow db)

/-- The rows that the statements find. -/
def updatedRows (db : InventoryDb) : Tx → List (ℤ × ℤ) → List StockChange
  | _, [] => []
  | tx, row :: rows =>
      ((tx.available? db row.1).map fun available =>
        ⟨row.1, available, row.2⟩).toList ++
          updatedRows db (updateRow db tx row) rows

theorem updatedRows_leads {db : InventoryDb} {tx : Tx} (rows : List (ℤ × ℤ)) :
    Leads (tx.available? db) (updatedRows db tx rows)
      ((updateRows db tx rows).available? db) := by
  induction rows generalizing tx with
  | nil => exact .nil _
  | cons row rows ih =>
      have hrest := @ih (updateRow db tx row)
      have hrows : updateRows db tx (row :: rows) =
          updateRows db (updateRow db tx row) rows := rfl
      rw [hrows, updatedRows]
      cases hproduct : tx.available? db row.1 with
      | none =>
          have hsame : updateRow db tx row = tx := by
            rw [updateRow, hproduct]
          rw [hsame] at hrest ⊢
          exact hrest
      | some available =>
          have hread : (updateRow db tx row).available? db =
              Function.update (tx.available? db) row.1 (some row.2) := by
            rw [updateRow, hproduct]
            exact Tx.available?_write_eq_update hproduct _
          rw [hread] at hrest
          exact .cons hproduct hrest

/-! ## The parts -/

/-- Where `_drain_notifications` stands. -/
inductive Drain where
  /-- asks the generator for its next event -/
  | iterating
  /-- has an event, before it looks at it -/
  | holding (event : StockEvent)
  /-- the product is watched, the marker is not queued yet -/
  | watched (productId : ℤ)
  | ended
  deriving DecidableEq

structure State where
  /-- the reader, the handler and what they share with the drain; the listener
  of this record stands for nothing -/
  call : Watch.State
  source : Notifications.Listener
  drain : Drain
  /-- PostgreSQL has a connection that listens -/
  linkUp : Bool
  /-- the payloads delivered to the connection and not yet read -/
  inbox : List String

def State.init (db : InventoryDb) : State where
  call := .init db
  source := .start
  drain := .iterating
  linkUp := false
  inbox := []

inductive Action where
  /-- a step of the client, the reader or the handler -/
  | call (action : Watch.Action)
  | serve (request : ServiceCall)
  | update (rows : List (ℤ × ℤ))
  /-- NOTIFY by another session -/
  | notify (payload : String)
  | dropLink
  /-- what the driver does while the drain waits for the generator -/
  | driver (event : Notifications.Event)
  /-- the next step of the drain -/
  | drain

/-- The steps of `Watch` that are no part of the listener. -/
def IsThread : Watch.Action → Prop
  | .send _ | .halfClose | .cancel | .readCommand | .endReader | .generator
  | .timeout | .failFetch | .abandon => True
  | .commit _ _ | .dropLink | .listener | .loseConnection | .endListener =>
      False

instance : DecidablePred IsThread
  | .send _ | .halfClose | .cancel | .readCommand | .endReader | .generator
  | .timeout | .failFetch | .abandon => isTrue trivial
  | .commit _ _ | .dropLink | .listener | .loseConnection | .endListener =>
      isFalse id

/-! ## The steps -/

/-- A transaction becomes visible, and its payloads are delivered. -/
def State.commit (state : State) (db : InventoryDb) (payloads : List String) :
    State :=
  { state with
    call := state.call.commit db []
    inbox := if state.linkUp then state.inbox ++ payloads else state.inbox }

/-- The connection behind a step of the generator: LISTEN opens it, a payload
is taken off, and it is gone when the generator has closed it. -/
def State.connection (state : State) (event : Notifications.Event) :
    Phase → Bool × List String
  | .listening _ =>
      match event with
      | .listens => (true, [])
      | .payload _ => (state.linkUp, state.inbox.tail)
      | _ => (state.linkUp, state.inbox)
  | _ => (false, [])

/-- The driver lets the generator go on. -/
def State.drive (state : State) (event : Notifications.Event)
    (source : Notifications.Listener) : State :=
  { state with
    source := source
    drain :=
      match source.yielded[state.source.yielded.length]? with
      | none => .iterating
      | some yielded => .holding yielded
    linkUp := (state.connection event source.phase).1
    inbox := (state.connection event source.phase).2 }

/-- What the driver can do; `stop` is not its business. -/
def State.Drives (state : State) : Notifications.Event → Prop
  | .payload text => state.inbox.head? = some text
  | .stops => False
  | .connectFails | .connects | .listenFails | .listens | .tick | .drops =>
      True

instance (state : State) : DecidablePred state.Drives
  | .payload _ => inferInstanceAs (Decidable (_ = _))
  | .stops => isFalse id
  | .connectFails | .connects | .listenFails | .listens | .tick | .drops =>
      isTrue trivial

/-- `events.put`. -/
def State.put (state : State) (marker : Watch.Marker) : State :=
  { state with
    call := { state.call with events := state.call.events ++ [marker] } }

/-- Behind the `yield` of its resync the generator tests `stop` again. -/
def State.resume (state : State) : State :=
  match state.source.phase with
  | .listening conn =>
      if state.source.stop then
        { state with
          source := state.source.innerTest conn
          linkUp := false
          inbox := [] }
      else state
  | _ => state

def stepDrain (state : State) : Option State :=
  match state.drain with
  | .iterating =>
      match state.source.phase with
      | .returned => some { state with drain := .ended }
      | .raised _ =>
          some { state with
            call := { state.call with stop := true }
            drain := .ended }
      | .disconnected | .connected _ | .listening _ => none
  | .holding .resync =>
      some { (state.put .resync).resume with drain := .iterating }
  | .holding (.changed productId) =>
      some { state with
        drain :=
          if productId ∈ state.call.watchSet then .watched productId
          else .iterating }
  | .watched productId =>
      some { state.put (.changed productId) with drain := .iterating }
  | .ended => none

/-- One step of one part. -/
def act (limit : ℕ) (state : State) : Action → Option State
  | .call action =>
      if IsThread action then
        (Watch.step state.call action).map fun call =>
          { state with call := call }
      else none
  | .serve request =>
      -- the columns refuse what does not fit
      if (request.apply state.call.db).Fits then
        some (state.commit (request.apply state.call.db)
          (request.notices state.call.db))
      else none
  | .update rows =>
      if ∀ row ∈ rows, PositiveIntegerField row.2 then
        some (state.commit
          (state.call.db.commit (updateRows state.call.db .start rows))
          (feed triggerPayload (updatedRows state.call.db .start rows)))
      else none
  | .notify payload => some (state.commit state.call.db [payload])
  | .dropLink => some { state with linkUp := false }
  | .driver event =>
      if state.drain = .iterating ∧ state.Drives event then
        (state.source.step limit event).map (state.drive event)
      else none
  | .drain => stepDrain state

/-- The generator gets to know that `stop` is set. -/
def State.share (limit : ℕ) (state : State) : Option State :=
  if state.call.stop = true ∧ state.source.stop = false then
    (state.source.step limit .stops).map fun source =>
      { state with source := source }
  else some state

def step (limit : ℕ) (state : State) (action : Action) : Option State :=
  (act limit state action).bind (State.share limit)

/-! ## As `Watch` has it -/

def isListening : Phase → Bool
  | .listening _ => true
  | _ => false

/-- Where the listener of the call stands. -/
def State.listener (state : State) : Watch.Listener :=
  match state.drain with
  | .iterating =>
      if isListening state.source.phase then .listening
      else .disconnected
  | .holding .resync => .connected
  | .holding (.changed productId) => .received productId
  | .watched productId => .watched productId
  | .ended => .stopped

/-- The connection that `Watch` sees under its other threads. -/
def joined (call : Watch.State) (listener : Watch.Listener) (linkUp : Bool)
    (channel : List ℤ) : Watch.State :=
  { call with
    listener := listener
    linkUp := linkUp
    channel := channel }

def State.toWatch (limit : ℕ) (state : State) : Watch.State :=
  joined state.call state.listener state.linkUp
    (state.inbox.filterMap (productId? limit))

/-! ## What the generator can do -/

/-- The steps of the generator, by what they are to the call. -/
inductive SourceStep (limit : ℕ) (source : Notifications.Listener) :
    Notifications.Event → Notifications.Listener → Prop where
  /-- it has no connection that listens, before and after -/
  | away {event : Notifications.Event} {next : Notifications.Listener}
      (hbefore : isListening source.phase = false)
      (hafter : isListening next.phase = false)
      (hyielded : next.yielded = source.yielded) :
      SourceStep limit source event next
  | listens {next : Notifications.Listener}
      (hbefore : isListening source.phase = false)
      (hafter : isListening next.phase = !source.stop)
      (hyielded : next.yielded = source.yielded ++ [.resync]) :
      SourceStep limit source .listens next
  | waits (hbefore : isListening source.phase = true) :
      SourceStep limit source .tick source
  | skips {text : String} (hbefore : isListening source.phase = true)
      (hread : productId? limit text = none) :
      SourceStep limit source (.payload text) source
  | reads {text : String} {productId : ℤ}
      (hbefore : isListening source.phase = true)
      (hread : productId? limit text = some productId) :
      SourceStep limit source (.payload text)
        (source.emit (.changed productId))
  | leaves {event : Notifications.Event} {next : Notifications.Listener}
      (hbefore : isListening source.phase = true)
      (hafter : isListening next.phase = false)
      (hyielded : next.yielded = source.yielded) :
      SourceStep limit source event next

section Source

variable {limit : ℕ} {source next : Notifications.Listener}
  {event : Notifications.Event} {conn : ℕ}

theorem outerTest_isListening (source : Notifications.Listener) :
    isListening source.outerTest.phase = false := by
  rw [Notifications.Listener.outerTest]
  cases source.stop <;> rfl

theorem innerTest_isListening (source : Notifications.Listener) (conn : ℕ) :
    isListening (source.innerTest conn).phase = !source.stop := by
  rw [Notifications.Listener.innerTest]
  cases hstop : source.stop with
  | true =>
      rw [if_pos rfl]
      exact outerTest_isListening _
  | false =>
      rw [if_neg Bool.false_ne_true]
      rfl

theorem isListening_of_phase (hphase : source.phase = .listening conn) :
    isListening source.phase = true := by
  rw [hphase]
  rfl

theorem innerTest_leaves (hphase : source.phase = .listening conn)
    (hstop : source.stop = true) :
    SourceStep limit source event (source.innerTest conn) :=
  .leaves (isListening_of_phase hphase)
    (by rw [innerTest_isListening, hstop]; rfl)
    (Notifications.Listener.innerTest_frame source conn).2

theorem sourceStep_receive {text : String}
    (hphase : source.phase = .listening conn) :
    SourceStep limit source (.payload text)
      (source.receive limit conn text) := by
  have hbefore := isListening_of_phase hphase
  rw [Notifications.Listener.receive]
  split_ifs with hstop
  · exact innerTest_leaves hphase hstop
  by_cases hescapes : Escapes limit text
  · obtain ⟨exception, hraises⟩ := parseProductId_raises hescapes
    rw [hraises]
    exact .leaves hbefore rfl rfl
  · rw [parseProductId_eq hescapes]
    cases hread : productId? limit text with
    | none => exact .skips hbefore hread
    | some productId => exact .reads hbefore hread

/-- Every step of the generator is one of these. -/
theorem sourceStep_of_transition (hstop : event ≠ .stops)
    (htransition : source.Transition limit event next) :
    SourceStep limit source event next := by
  cases htransition with
  | connectFails hphase =>
      exact .away (by rw [hphase]; rfl) (outerTest_isListening _) rfl
  | connects hphase => exact .away (by rw [hphase]; rfl) rfl rfl
  | listenFails hphase =>
      exact .away (by rw [hphase]; rfl) (outerTest_isListening _) rfl
  | listens hphase =>
      exact .listens (by rw [hphase]; rfl) (innerTest_isListening _ _)
        (Notifications.Listener.innerTest_frame _ _).2
  | payload text hphase => exact sourceStep_receive hphase
  | @tick conn hphase =>
      cases hstopped : source.stop with
      | true => exact innerTest_leaves hphase hstopped
      | false =>
          have hsame : source.innerTest conn = source := by
            rw [Notifications.Listener.innerTest, if_neg (by simp [hstopped]),
              ← hphase]
          rw [hsame]
          exact .waits (isListening_of_phase hphase)
  | drops hphase =>
      exact .leaves (isListening_of_phase hphase) (outerTest_isListening _) rfl
  | stopsWaiting | stops => exact absurd rfl hstop

/-- The generator returns only when `stop` is set. -/
def Sound (source : Notifications.Listener) : Prop :=
  source.phase = .returned → source.stop = true

theorem sound_outerTest (source : Notifications.Listener) :
    Sound source.outerTest := by
  intro hphase
  rw [Notifications.Listener.outerTest] at hphase ⊢
  cases hstop : source.stop with
  | true => rfl
  | false => simp [hstop] at hphase

theorem sound_innerTest (source : Notifications.Listener) (conn : ℕ) :
    Sound (source.innerTest conn) := by
  rw [Notifications.Listener.innerTest]
  split_ifs
  · exact sound_outerTest _
  · exact fun hphase => Phase.noConfusion hphase

theorem Sound.transition (hsound : Sound source)
    (htransition : source.Transition limit event next) : Sound next := by
  cases htransition with
  | connectFails | listenFails | drops => exact sound_outerTest _
  | connects => exact fun hphase => Phase.noConfusion hphase
  | listens | tick => exact sound_innerTest _ _
  | @payload conn text hphase =>
      rw [Notifications.Listener.receive]
      split_ifs
      · exact sound_innerTest _ _
      · split
        · exact hsound
        · exact hsound
        · exact fun hraised => Phase.noConfusion hraised
  | stopsWaiting | stops => exact fun _ => rfl

end Source

/-! ## What a step can do -/

/-- A transaction of the service layer, of another writer or of nobody. -/
def Action.commits : Action → Bool
  | .serve _ | .update _ | .notify _ => true
  | _ => false

/-- What an action does, before the others learn of `stop`. -/
inductive ActCase (limit : ℕ) (state : State) : Action → State → Prop where
  | thread {action : Watch.Action} {call : Watch.State}
      (hthread : IsThread action)
      (hstep : Watch.step state.call action = some call) :
      ActCase limit state (.call action) { state with call := call }
  | commit {action : Action} {after : InventoryDb} {payloads : List String}
      (hcommits : action.commits = true)
      (hids : after.products.map Product.id =
        state.call.db.products.map Product.id) :
      ActCase limit state action (state.commit after payloads)
  | dropLink : ActCase limit state .dropLink { state with linkUp := false }
  | drive {event : Notifications.Event} {source : Notifications.Listener}
      (hdrain : state.drain = .iterating) (hdrives : state.Drives event)
      (hstep : state.source.step limit event = some source) :
      ActCase limit state (.driver event) (state.drive event source)
  | returned (hdrain : state.drain = .iterating)
      (hphase : state.source.phase = .returned) :
      ActCase limit state .drain { state with drain := .ended }
  | raised {exception : Python.Exception} (hdrain : state.drain = .iterating)
      (hphase : state.source.phase = .raised exception) :
      ActCase limit state .drain { state with
        call := { state.call with stop := true }
        drain := .ended }
  | resync (hdrain : state.drain = .holding .resync) :
      ActCase limit state .drain
        { (state.put .resync).resume with drain := .iterating }
  | looks {productId : ℤ} (hdrain : state.drain = .holding (.changed productId)) :
      ActCase limit state .drain { state with
        drain :=
          if productId ∈ state.call.watchSet then .watched productId
          else .iterating }
  | queues {productId : ℤ} (hdrain : state.drain = .watched productId) :
      ActCase limit state .drain
        { state.put (.changed productId) with drain := .iterating }

section Threads

variable {call next : Watch.State} {action : Watch.Action}

/-- What no step of a thread does. -/
structure Frame (call next : Watch.State) : Prop where
  db : next.db = call.db
  /-- `stop` is never taken back -/
  stop : call.stop = true → next.stop = true
  /-- a client that is gone stays away -/
  active : call.active = false → next.active = false
  history : ∀ initial, Watch.history initial next.log =
    Watch.history initial call.log

theorem handlerStep_frame (hhandler : Watch.HandlerStep call next) :
    Frame call next := by
  cases hhandler with
  | leave => exact ⟨rfl, fun _ => rfl, id, fun _ => rfl⟩
  | _ => exact ⟨rfl, id, id, fun _ => rfl⟩

/-- What a step of a thread does, or of the client. -/
inductive ThreadCase (call : Watch.State) :
    Watch.Action → Watch.State → Prop where
  | send (command : Watch.WatchCommand) : ThreadCase call (.send command)
      { call with requests := call.requests ++ [command] }
  | halfClose : ThreadCase call .halfClose { call with requestsOpen := false }
  | cancel : ThreadCase call .cancel
      { call with requestsOpen := false, active := false }
  | readCommand {command : Watch.WatchCommand}
      {requests : List Watch.WatchCommand}
      (hrequests : call.requests = command :: requests) :
      ThreadCase call .readCommand
        ({ call with requests := requests }.applyCommand command)
  | endReader :
      ThreadCase call .endReader { call with reading := false, stop := true }
  | handler {next : Watch.State} (hhandler : Watch.HandlerStep call next) :
      ThreadCase call .generator next
  | timeout (hpolling : call.generator = .polling) :
      ThreadCase call .timeout (call.goto .loopHead)
  | failFetch (hopen : call.generator ≠ .closed) :
      ThreadCase call .failFetch call.close
  | abandon (hopen : call.generator ≠ .closed) :
      ThreadCase call .abandon call.close

theorem threadCase (hthread : IsThread action)
    (hstep : Watch.step call action = some next) :
    ThreadCase call action next := by
  cases action with
  | halfClose =>
      cases hstep
      exact .halfClose
  | cancel =>
      cases hstep
      exact .cancel
  | generator => exact .handler (Watch.handlerStep_of_step hstep)
  | send command =>
      simp only [Watch.step, Option.ite_none_right_eq_some] at hstep
      obtain ⟨_, hnext⟩ := hstep
      cases hnext
      exact .send command
  | timeout =>
      simp only [Watch.step, Option.ite_none_right_eq_some] at hstep
      obtain ⟨⟨hpolling, _⟩, hnext⟩ := hstep
      cases hnext
      exact .timeout hpolling
  | endReader =>
      simp only [Watch.step, Option.ite_none_right_eq_some] at hstep
      obtain ⟨_, hnext⟩ := hstep
      cases hnext
      exact .endReader
  | readCommand =>
      rw [Watch.step, Watch.stepReadCommand] at hstep
      cases hrequests : call.requests with
      | nil => simp [hrequests] at hstep
      | cons command requests =>
          rw [hrequests] at hstep
          simp only [Option.ite_none_right_eq_some] at hstep
          obtain ⟨_, hnext⟩ := hstep
          cases hnext
          exact .readCommand hrequests
  | failFetch =>
      rw [Watch.step] at hstep
      cases hgenerator : call.generator <;>
        simp only [hgenerator, reduceCtorEq, Option.some.injEq] at hstep
      exact hstep ▸ .failFetch (by simp [hgenerator])
  | abandon =>
      rw [Watch.step] at hstep
      cases hgenerator : call.generator <;>
        simp only [hgenerator, reduceCtorEq, Option.some.injEq,
          Option.ite_none_left_eq_some] at hstep
      exact hstep.2 ▸ .abandon (by simp [hgenerator])
  | commit | dropLink | listener | loseConnection | endListener =>
      exact hthread.elim

theorem thread_frame (hthread : IsThread action)
    (hstep : Watch.step call action = some next) : Frame call next := by
  cases threadCase hthread hstep with
  | handler hhandler => exact handlerStep_frame hhandler
  | cancel => exact ⟨rfl, id, fun _ => rfl, fun _ => rfl⟩
  | endReader | failFetch | abandon =>
      exact ⟨rfl, fun _ => rfl, id, fun _ => rfl⟩
  | send | halfClose | timeout => exact ⟨rfl, id, id, fun _ => rfl⟩
  | @readCommand command =>
      rw [Watch.State.applyCommand]
      cases command.action <;> exact ⟨rfl, id, id, fun _ => rfl⟩

end Threads

section Inversion

variable {limit : ℕ} {state next : State} {action : Action}

theorem actCase_of_drain (hstep : stepDrain state = some next) :
    ActCase limit state .drain next := by
  rw [stepDrain] at hstep
  cases hdrain : state.drain with
  | iterating =>
      rw [hdrain] at hstep
      cases hphase : state.source.phase with
      | returned =>
          rw [hphase] at hstep
          cases hstep
          exact .returned hdrain hphase
      | raised exception =>
          rw [hphase] at hstep
          cases hstep
          exact .raised hdrain hphase
      | disconnected | connected | listening =>
          rw [hphase] at hstep
          cases hstep
  | holding event =>
      rw [hdrain] at hstep
      cases event with
      | resync =>
          cases hstep
          exact .resync hdrain
      | changed productId =>
          cases hstep
          exact .looks hdrain
  | watched productId =>
      rw [hdrain] at hstep
      cases hstep
      exact .queues hdrain
  | ended =>
      rw [hdrain] at hstep
      cases hstep

theorem actCase_of_act (hact : act limit state action = some next) :
    ActCase limit state action next := by
  cases action with
  | call action =>
      simp only [act, Option.ite_none_right_eq_some,
        Option.map_eq_some_iff] at hact
      obtain ⟨hthread, call, hstep, rfl⟩ := hact
      exact .thread hthread hstep
  | serve request =>
      simp only [act, Option.ite_none_right_eq_some,
        Option.some.injEq] at hact
      obtain ⟨_, rfl⟩ := hact
      exact .commit rfl (request.apply_productIds _)
  | update rows =>
      simp only [act, Option.ite_none_right_eq_some,
        Option.some.injEq] at hact
      obtain ⟨_, rfl⟩ := hact
      exact .commit rfl (state.call.db.commit_productIds _)
  | notify payload =>
      cases hact
      exact .commit rfl rfl
  | dropLink =>
      cases hact
      exact .dropLink
  | driver event =>
      simp only [act, Option.ite_none_right_eq_some,
        Option.map_eq_some_iff] at hact
      obtain ⟨⟨hdrain, hdrives⟩, source, hstep, rfl⟩ := hact
      exact .drive hdrain hdrives hstep
  | drain => exact actCase_of_drain hact

/-- Behind a step the generator knows of `stop`, and nothing else differs. -/
theorem share_frame {middle : State} (hshare : middle.share limit = some next) :
    (next.call.stop = true → next.source.stop = true) ∧
      ∃ source, next = { middle with source := source } ∧
        (source = middle.source ∨ middle.call.stop = true ∧
          middle.source.Transition limit .stops source) := by
  rw [State.share] at hshare
  split_ifs at hshare with hset
  · obtain ⟨source, hstep, rfl⟩ := Option.map_eq_some_iff.mp hshare
    have htransition := Notifications.Listener.transition_of_step hstep
    refine ⟨fun _ => ?_, source, rfl, .inr ⟨hset.1, htransition⟩⟩
    rw [Notifications.Listener.stop_of_transition htransition]
    simp [stopAfter]
  · cases hshare
    refine ⟨fun hstop => ?_, next.source, rfl, .inl rfl⟩
    by_contra hrunning
    exact hset ⟨hstop, by simpa using hrunning⟩

end Inversion

end OrderFlow.Inventory.Live
