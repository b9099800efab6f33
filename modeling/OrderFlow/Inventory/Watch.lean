import OrderFlow.Core.Regroup
import OrderFlow.Core.TransitionSystem
import OrderFlow.Inventory.Models
import Mathlib.Data.Finset.SDiff
import Mathlib.Data.List.Sort
import Mathlib.Data.String.Basic

/-!
# One WatchStock call and its threads

`InventoryServicer.WatchStock` with the generators it drives,
`listen_stock_changes` and `_updates`.  The reader thread, the listener thread
and the handler run at once; one action is what one of them does between two
points where another one can come in: one lock section, one operation on the
queue, one read of the database, one round of the loop that yields the rows.
The client, the database and the LISTEN connection act on their own.

PostgreSQL delivers a notification to the connections that listen when the
transaction commits, and in commit order; a connection that is lost takes the
notifications not yet read with it.
-/

namespace OrderFlow.Inventory

structure ProductStockRow where
  productId : ℤ
  sku : String
  name : String
  availableQuantity : ℤ
  deriving DecidableEq

/-- `_to_row`. -/
def Product.toRow (product : Product) : ProductStockRow :=
  ⟨product.id, product.sku, product.name, product.availableQuantity⟩

/-- `fetch_stock`: the latest committed rows of the ids, in SKU order. -/
def fetchStock (db : InventoryDb) (productIds : Finset ℤ) :
    List ProductStockRow :=
  if productIds = ∅ then []
  else
    ((db.products.filter fun product => product.id ∈ productIds).insertionSort
      fun first second => first.sku ≤ second.sku).map Product.toRow

theorem mem_fetchStock {db : InventoryDb} {productIds : Finset ℤ}
    {row : ProductStockRow} :
    row ∈ fetchStock db productIds ↔
      ∃ product ∈ db.products, product.id ∈ productIds ∧
        product.toRow = row := by
  rw [fetchStock]
  split_ifs with hempty
  · simp [hempty]
  · simp [and_assoc]

/-- The primary key finds the row. -/
theorem InventoryDb.product?_of_mem {db : InventoryDb}
    (hids : (db.products.map Product.id).Nodup) {product : Product}
    (hproduct : product ∈ db.products) :
    db.product? product.id = some product :=
  find?_of_nodup_keys hids hproduct

theorem InventoryDb.available?_of_mem {db : InventoryDb}
    (hids : (db.products.map Product.id).Nodup) {product : Product}
    (hproduct : product ∈ db.products) :
    db.available? product.id = some product.availableQuantity :=
  congrArg (Option.map Product.availableQuantity)
    (product?_of_mem hids hproduct)

theorem InventoryDb.product?_eq_some {db : InventoryDb} {productId : ℤ}
    {product : Product} (hfound : db.product? productId = some product) :
    product ∈ db.products ∧ product.id = productId :=
  ⟨List.mem_of_find?_eq_some hfound, by simpa using List.find?_some hfound⟩

/-- A row that was read carries the committed quantity. -/
theorem available?_of_mem_fetchStock {db : InventoryDb}
    (hids : (db.products.map Product.id).Nodup) {productIds : Finset ℤ}
    {row : ProductStockRow} (hrow : row ∈ fetchStock db productIds) :
    db.available? row.productId = some row.availableQuantity := by
  obtain ⟨product, hproduct, _, rfl⟩ := mem_fetchStock.mp hrow
  exact congrArg (Option.map Product.availableQuantity)
    (InventoryDb.product?_of_mem hids hproduct)

/-- A product that exists is read when it is asked for. -/
theorem exists_mem_fetchStock {db : InventoryDb} {productIds : Finset ℤ}
    {productId available : ℤ} (hid : productId ∈ productIds)
    (havailable : db.available? productId = some available) :
    ∃ row ∈ fetchStock db productIds, row.productId = productId := by
  obtain ⟨product, hfound, _⟩ := Option.map_eq_some_iff.mp havailable
  obtain ⟨hproduct, rfl⟩ := InventoryDb.product?_eq_some hfound
  exact ⟨product.toRow, mem_fetchStock.mpr ⟨product, hproduct, hid, rfl⟩, rfl⟩

namespace Watch

open TransitionSystem

/-! ## Messages -/

/-- `WatchCommand.Action`. -/
inductive CommandAction where
  | subscribe
  | unsubscribe
  deriving DecidableEq

structure WatchCommand where
  action : CommandAction
  productIds : List ℤ
  deriving DecidableEq

/-- `StockUpdate.Kind`. -/
inductive Kind where
  | snapshot
  | changed
  deriving DecidableEq

structure StockUpdate where
  productId : ℤ
  sku : String
  name : String
  availableQuantity : ℤ
  kind : Kind
  deriving DecidableEq

/-- The update that `_updates` yields for a row. -/
def update (row : ProductStockRow) (snapshot : Bool) : StockUpdate where
  productId := row.productId
  sku := row.sku
  name := row.name
  availableQuantity := row.availableQuantity
  kind := if snapshot then .snapshot else .changed

/-- A marker in the `events` queue. -/
inductive Marker where
  | snapshot
  | changed (productId : ℤ)
  | resync
  deriving DecidableEq

/-! ## The threads -/

/-- Where `_drain_notifications` and the generator it iterates stand. -/
inductive Listener where
  /-- no connection: before the first one, or in the backoff -/
  | disconnected
  /-- LISTEN was executed, the resync is not queued yet -/
  | connected
  /-- waits in `conn.notifies` -/
  | listening
  /-- holds a notification, before the look at the watch set -/
  | received (productId : ℤ)
  /-- the product is watched, the marker is not queued yet -/
  | watched (productId : ℤ)
  | stopped
  deriving DecidableEq

/-- Where the handler stands. -/
inductive Generator where
  /-- the test of `is_active` and `stop` -/
  | loopHead
  /-- waits in `events.get` -/
  | polling
  /-- a snapshot marker, before `newly_added` is taken -/
  | takingFresh
  /-- a resync marker, before `watch_set` is copied -/
  | takingWatched
  /-- `_rows`, before its lock section -/
  | selecting (ids : Finset ℤ) (snapshot : Bool)
  /-- `_rows`, before `fetch_stock` -/
  | fetching (watched : Finset ℤ) (snapshot : Bool)
  /-- `_updates`, with the rows still to come -/
  | yielding (rows : List ProductStockRow) (snapshot : Bool)
  | closed
  deriving DecidableEq

/-- What an observer of the call writes down. -/
inductive Entry where
  | applied (command : WatchCommand)
  | committed (products : List Product)
  /-- the lock section of `_rows` let these ids through -/
  | selected (watched : Finset ℤ)
  | sent (update : StockUpdate)
  deriving DecidableEq

structure State where
  db : InventoryDb
  /-- commands that have arrived and were not read yet -/
  requests : List WatchCommand
  requestsOpen : Bool
  /-- `context.is_active()` -/
  active : Bool
  /-- the reader thread has not ended -/
  reading : Bool
  watchSet : Finset ℤ
  newlyAdded : Finset ℤ
  lastSeen : ℤ → Option ℤ
  stop : Bool
  events : List Marker
  listener : Listener
  /-- PostgreSQL has a connection that listens -/
  linkUp : Bool
  /-- the notifications delivered to the connection and not yet read -/
  channel : List ℤ
  generator : Generator
  /-- newest entry first -/
  log : List Entry

/-- The call has just been accepted. -/
def State.init (db : InventoryDb) : State where
  db := db
  requests := []
  requestsOpen := true
  active := true
  reading := true
  watchSet := ∅
  newlyAdded := ∅
  lastSeen := fun _ => none
  stop := false
  events := []
  listener := .disconnected
  linkUp := false
  channel := []
  generator := .loopHead
  log := []

inductive Action where
  | send (command : WatchCommand)
  /-- the client ends its request stream -/
  | halfClose
  | cancel
  /-- a transaction that notifies about `notices` -/
  | commit (db : InventoryDb) (notices : List ℤ)
  | dropLink
  | readCommand
  | endReader
  /-- the next step of the listener thread -/
  | listener
  /-- `psycopg.Error`: the generator goes into its backoff -/
  | loseConnection
  | endListener
  /-- the next step of the handler -/
  | generator
  /-- `queue.Empty` -/
  | timeout
  | failFetch
  /-- gRPC closes the generator of a call that is no longer active -/
  | abandon

/-- The handler takes its next steps alone. -/
def rounds (count : ℕ) : List Action := List.replicate count .generator

/-! ## The database -/

/-- The trigger of migration 0003 has fired for every update that changed a
quantity. -/
def Announced (before after : InventoryDb) (notices : List ℤ) : Prop :=
  ∀ old ∈ before.products, ∀ new ∈ after.products, new.id = old.id →
    new.availableQuantity ≠ old.availableQuantity → new.id ∈ notices

instance (before after : InventoryDb) (notices : List ℤ) :
    Decidable (Announced before after notices) :=
  inferInstanceAs (Decidable (∀ old ∈ before.products,
    ∀ new ∈ after.products, new.id = old.id →
      new.availableQuantity ≠ old.availableQuantity → new.id ∈ notices))

/-- The changes become visible, and a connection that listens is notified. -/
def State.commit (state : State) (db : InventoryDb) (notices : List ℤ) :
    State :=
  { state with
    db := db
    channel := if state.linkUp then state.channel ++ notices else state.channel
    log := .committed db.products :: state.log }

/-! ## The reader -/

/-- The lock section of `_drain_commands`. -/
def State.applyCommand (state : State) (command : WatchCommand) : State :=
  match command.action with
  | .subscribe =>
      { state with
        watchSet := state.watchSet ∪ command.productIds.toFinset
        newlyAdded := state.newlyAdded ∪ command.productIds.toFinset
        events := state.events ++ [.snapshot]
        log := .applied command :: state.log }
  | .unsubscribe =>
      { state with
        watchSet := state.watchSet \ command.productIds.toFinset
        newlyAdded := state.newlyAdded \ command.productIds.toFinset
        log := .applied command :: state.log }

section ApplyCommand

variable (state : State) (command : WatchCommand)

@[simp]
theorem State.applyCommand_log :
    (state.applyCommand command).log = .applied command :: state.log := by
  rw [applyCommand]
  cases command.action <;> rfl

@[simp]
theorem State.applyCommand_db :
    (state.applyCommand command).db = state.db := by
  rw [applyCommand]
  cases command.action <;> rfl

@[simp]
theorem State.applyCommand_generator :
    (state.applyCommand command).generator = state.generator := by
  rw [applyCommand]
  cases command.action <;> rfl

@[simp]
theorem State.applyCommand_lastSeen :
    (state.applyCommand command).lastSeen = state.lastSeen := by
  rw [applyCommand]
  cases command.action <;> rfl

end ApplyCommand

def stepReadCommand (state : State) : Option State :=
  match state.requests with
  | [] => none
  | command :: requests =>
      if state.reading then
        some ({ state with requests := requests }.applyCommand command)
      else none

/-! ## The listener -/

def stepListener (state : State) : Option State :=
  match state.listener with
  | .disconnected =>
      some { state with listener := .connected, linkUp := true, channel := [] }
  | .connected =>
      some { state with
        listener := .listening
        events := state.events ++ [.resync] }
  | .listening =>
      match state.channel with
      | [] => none
      | productId :: channel =>
          some { state with
            listener := .received productId
            channel := channel }
  | .received productId =>
      some { state with
        listener :=
          if productId ∈ state.watchSet then .watched productId
          else .listening }
  | .watched productId =>
      some { state with
        listener := .listening
        events := state.events ++ [.changed productId] }
  | .stopped => none

/-! ## The handler -/

def State.goto (state : State) (next : Generator) : State :=
  { state with generator := next }

/-- The handler ends, and its `finally` sets `stop`. -/
def State.close (state : State) : State :=
  { state with generator := .closed, stop := true }

/-- The branch that handles a marker. -/
def Marker.handler : Marker → Generator
  | .snapshot => .takingFresh
  | .changed productId => .selecting {productId} false
  | .resync => .takingWatched

/-- One round of the loop of `_updates`. -/
def State.yieldRow (state : State) (row : ProductStockRow) (snapshot : Bool) :
    State :=
  if snapshot = false ∧
      state.lastSeen row.productId = some row.availableQuantity then state
  else
    { state with
      lastSeen := Function.update state.lastSeen row.productId
        (some row.availableQuantity)
      log := .sent (update row snapshot) :: state.log }

def stepGenerator (state : State) : Option State :=
  match state.generator with
  | .loopHead =>
      if state.active ∧ state.stop = false then some (state.goto .polling)
      else some state.close
  | .polling =>
      match state.events with
      | [] => none
      | marker :: events =>
          some ({ state with events := events }.goto marker.handler)
  | .takingFresh =>
      some ({ state with newlyAdded := ∅ }.goto
        (.selecting state.newlyAdded true))
  | .takingWatched => some (state.goto (.selecting state.watchSet false))
  | .selecting ids snapshot =>
      some ({ state with
          log := .selected (state.watchSet ∩ ids) :: state.log }.goto
        (.fetching (state.watchSet ∩ ids) snapshot))
  | .fetching watched snapshot =>
      some (state.goto (.yielding (fetchStock state.db watched) snapshot))
  | .yielding [] _ => some (state.goto .loopHead)
  | .yielding (row :: rows) snapshot =>
      some ((state.yieldRow row snapshot).goto (.yielding rows snapshot))
  | .closed => none

/-! ## The call -/

def step (state : State) : Action → Option State
  | .send command =>
      if state.requestsOpen then
        some { state with requests := state.requests ++ [command] }
      else none
  | .halfClose => some { state with requestsOpen := false }
  | .cancel => some { state with requestsOpen := false, active := false }
  | .commit db notices =>
      if (db.products.map Product.id).Nodup ∧
          Announced state.db db notices then
        some (state.commit db notices)
      else none
  | .dropLink => some { state with linkUp := false }
  | .readCommand => stepReadCommand state
  | .endReader =>
      -- the iterator ends after the last command, or raises once cancelled
      if state.requestsOpen = false ∧
          (state.requests = [] ∨ state.active = false) then
        some { state with reading := false, stop := true }
      else none
  | .listener => stepListener state
  | .loseConnection =>
      if state.listener = .listening ∧ state.linkUp = false then
        some { state with listener := .disconnected, channel := [] }
      else none
  | .endListener =>
      -- it saw `stop`, or sets it after an exception
      some { state with
        listener := .stopped
        linkUp := false
        channel := []
        stop := true }
  | .generator => stepGenerator state
  | .timeout =>
      if state.generator = .polling ∧ state.events = [] then
        some (state.goto .loopHead)
      else none
  | .failFetch =>
      match state.generator with
      | .fetching _ _ => some state.close
      | _ => none
  | .abandon =>
      match state.generator with
      | .yielding _ _ => if state.active then none else some state.close
      | _ => none

/-! ## What a step can do -/

/-- What only the database, the reader and the handler touch. -/
def State.core (state : State) :=
  (state.db, state.lastSeen, state.log, state.watchSet, state.newlyAdded,
    state.generator)

/-- What the listener works with. -/
def State.feed (state : State) :=
  (state.events, state.listener, state.linkUp, state.channel)

/-- The listener works on its connection and on the queue only. -/
theorem stepListener_core {state next : State}
    (hstep : stepListener state = some next) : next.core = state.core := by
  rw [stepListener] at hstep
  cases hlistener : state.listener with
  | disconnected | connected | received | watched =>
      rw [hlistener] at hstep
      cases hstep
      rfl
  | listening =>
      rw [hlistener] at hstep
      cases hchannel : state.channel with
      | nil => simp [hchannel] at hstep
      | cons productId channel =>
          rw [hchannel] at hstep
          cases hstep
          rfl
  | stopped =>
      rw [hlistener] at hstep
      cases hstep

/-- The steps of the handler, by where it stands. -/
inductive HandlerStep (state : State) : State → Prop where
  | check (hgenerator : state.generator = .loopHead) :
      HandlerStep state (state.goto .polling)
  | leave (hgenerator : state.generator = .loopHead) :
      HandlerStep state state.close
  | get {marker : Marker} {events : List Marker}
      (hgenerator : state.generator = .polling)
      (hevents : state.events = marker :: events) :
      HandlerStep state ({ state with events := events }.goto marker.handler)
  | takeFresh (hgenerator : state.generator = .takingFresh) :
      HandlerStep state ({ state with newlyAdded := ∅ }.goto
        (.selecting state.newlyAdded true))
  | takeWatched (hgenerator : state.generator = .takingWatched) :
      HandlerStep state (state.goto (.selecting state.watchSet false))
  | select {ids : Finset ℤ} {snapshot : Bool}
      (hgenerator : state.generator = .selecting ids snapshot) :
      HandlerStep state ({ state with
          log := .selected (state.watchSet ∩ ids) :: state.log }.goto
        (.fetching (state.watchSet ∩ ids) snapshot))
  | fetch {watched : Finset ℤ} {snapshot : Bool}
      (hgenerator : state.generator = .fetching watched snapshot) :
      HandlerStep state
        (state.goto (.yielding (fetchStock state.db watched) snapshot))
  | done {snapshot : Bool}
      (hgenerator : state.generator = .yielding [] snapshot) :
      HandlerStep state (state.goto .loopHead)
  | skip {row : ProductStockRow} {rows : List ProductStockRow}
      {snapshot : Bool}
      (hgenerator : state.generator = .yielding (row :: rows) snapshot)
      (hskip : snapshot = false ∧
        state.lastSeen row.productId = some row.availableQuantity) :
      HandlerStep state (state.goto (.yielding rows snapshot))
  | send {row : ProductStockRow} {rows : List ProductStockRow}
      {snapshot : Bool}
      (hgenerator : state.generator = .yielding (row :: rows) snapshot)
      (hsend : ¬ (snapshot = false ∧
        state.lastSeen row.productId = some row.availableQuantity)) :
      HandlerStep state ({ state with
          lastSeen := Function.update state.lastSeen row.productId
            (some row.availableQuantity)
          log := .sent (update row snapshot) :: state.log }.goto
        (.yielding rows snapshot))

theorem handlerStep_of_step {state next : State}
    (hstep : stepGenerator state = some next) : HandlerStep state next := by
  rw [stepGenerator] at hstep
  cases hgenerator : state.generator with
  | loopHead =>
      rw [hgenerator] at hstep
      split_ifs at hstep <;> cases hstep
      · exact .check hgenerator
      · exact .leave hgenerator
  | polling =>
      rw [hgenerator] at hstep
      cases hevents : state.events with
      | nil => simp [hevents] at hstep
      | cons marker events =>
          rw [hevents] at hstep
          cases hstep
          exact .get hgenerator hevents
  | takingFresh =>
      rw [hgenerator] at hstep
      cases hstep
      exact .takeFresh hgenerator
  | takingWatched =>
      rw [hgenerator] at hstep
      cases hstep
      exact .takeWatched hgenerator
  | selecting ids snapshot =>
      rw [hgenerator] at hstep
      cases hstep
      exact .select hgenerator
  | fetching watched snapshot =>
      rw [hgenerator] at hstep
      cases hstep
      exact .fetch hgenerator
  | yielding rows snapshot =>
      rw [hgenerator] at hstep
      cases rows with
      | nil =>
          cases hstep
          exact .done hgenerator
      | cons row rows =>
          cases hstep
          rw [State.yieldRow]
          split_ifs with hskip
          · exact .skip hgenerator hskip
          · exact .send hgenerator hskip
  | closed =>
      rw [hgenerator] at hstep
      cases hstep

/-- The steps of the call, by what they touch. -/
inductive Transition (state : State) : Action → State → Prop where
  /-- the client, or the end of its request stream -/
  | client {action : Action} {next : State} (hcore : next.core = state.core)
      (hfeed : next.feed = state.feed) : Transition state action next
  /-- the connection breaks down, or is found broken -/
  | down {action : Action} {next : State} (hcore : next.core = state.core)
      (hevents : next.events = state.events) (hdown : next.linkUp = false) :
      Transition state action next
  | listener {next : State} (hstep : stepListener state = some next) :
      Transition state .listener next
  | commit {db : InventoryDb} {notices : List ℤ}
      (hids : (db.products.map Product.id).Nodup)
      (hannounced : Announced state.db db notices) :
      Transition state (.commit db notices) (state.commit db notices)
  | readCommand {command : WatchCommand} {requests : List WatchCommand}
      (hrequests : state.requests = command :: requests) :
      Transition state .readCommand
        ({ state with requests := requests }.applyCommand command)
  | generator {next : State} (hstep : HandlerStep state next) :
      Transition state .generator next
  | timeout (hgenerator : state.generator = .polling) :
      Transition state .timeout (state.goto .loopHead)
  | close {action : Action} : Transition state action state.close

/-- Every step is one of these. -/
theorem transition_of_step {state next : State} {action : Action}
    (hstep : step state action = some next) :
    Transition state action next := by
  cases action with
  | halfClose | cancel =>
      cases hstep
      exact .client rfl rfl
  | send | endReader =>
      simp only [step, Option.ite_none_right_eq_some] at hstep
      obtain ⟨_, hnext⟩ := hstep
      cases hnext
      exact .client rfl rfl
  | commit db notices =>
      simp only [step, Option.ite_none_right_eq_some] at hstep
      obtain ⟨⟨hids, hannounced⟩, hnext⟩ := hstep
      cases hnext
      exact .commit hids hannounced
  | dropLink | endListener =>
      cases hstep
      exact .down rfl rfl rfl
  | loseConnection =>
      simp only [step, Option.ite_none_right_eq_some] at hstep
      obtain ⟨⟨_, hdown⟩, hnext⟩ := hstep
      cases hnext
      exact .down rfl rfl hdown
  | readCommand =>
      rw [step, stepReadCommand] at hstep
      cases hrequests : state.requests with
      | nil => simp [hrequests] at hstep
      | cons command requests =>
          rw [hrequests] at hstep
          simp only [Option.ite_none_right_eq_some] at hstep
          obtain ⟨_, hnext⟩ := hstep
          cases hnext
          exact .readCommand hrequests
  | listener => exact .listener hstep
  | generator => exact .generator (handlerStep_of_step hstep)
  | timeout =>
      simp only [step, Option.ite_none_right_eq_some] at hstep
      obtain ⟨⟨hgenerator, _⟩, hnext⟩ := hstep
      cases hnext
      exact .timeout hgenerator
  | failFetch =>
      rw [step] at hstep
      split at hstep
      · cases hstep
        exact .close
      · cases hstep
  | abandon =>
      rw [step] at hstep
      split at hstep
      · split_ifs at hstep
        cases hstep
        exact .close
      · cases hstep

end Watch

end OrderFlow.Inventory
