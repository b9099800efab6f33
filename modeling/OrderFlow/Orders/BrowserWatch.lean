import OrderFlow.Inventory.LiveRefinement
import OrderFlow.Inventory.WatchTraffic
import OrderFlow.Orders.StockWatchBridge

/-!
# A browser on `/inventory/stock-watch`

The WebSocket session of order-service in front of the `WatchStock` call of
inventory-service, with the two streams of the gRPC call between them.  A
stream hands over its messages in order; a call that the bridge cancels is
cancelled on the other side some time later.
-/

namespace OrderFlow.Orders.BrowserWatch

open OrderFlow.Inventory (InventoryDb)
open OrderFlow.Inventory.Watch (StockUpdate WatchCommand commandsOf updatesOf
  watchedBy)
open OrderFlow.Orders.StockWatch
open OrderFlow.TransitionSystem

/-! ## The system -/

structure State where
  bridge : Bridge
  server : Inventory.Live.State
  /-- the texts that the browser has sent -/
  frames : List String
  /-- the requests on their way, `none` for the end of the stream -/
  uplink : List (Option WatchCommand)
  /-- the responses on their way -/
  downlink : List StockUpdate

def State.init (db : InventoryDb) : State where
  bridge := .start
  server := .init db
  frames := []
  uplink := []
  downlink := []

inductive Action where
  /-- what the browser and the pumps do -/
  | socket (event : StockWatch.Event)
  | requestArrives
  | cancelArrives
  | responseArrives
  /-- a step of inventory-service, its database or its other clients -/
  | server (action : Inventory.Live.Action)

/-- What the call hears from its client comes over the stream. -/
def fromClient : Inventory.Live.Action → Bool
  | .call (.send _) | .call .halfClose | .call .cancel => true
  | _ => false

def frameText? : StockWatch.Event → Option String
  | .frame text => some text
  | _ => none

/-- What `_command_stream` hands to the call. -/
def taken (bridge : Bridge) : StockWatch.Event → List (Option WatchCommand)
  | .take => bridge.commands.head?.toList
  | _ => []

/-- The updates that the handler has yielded between two logs. -/
def news (before after : List Inventory.Watch.Entry) : List StockUpdate :=
  (updatesOf after).drop (updatesOf before).length

def State.serve (limit : ℕ) (state : State) (action : Inventory.Live.Action) :
    Option State :=
  (Inventory.Live.step limit state.server action).map fun server =>
    { state with
      server := server
      downlink := state.downlink ++ news state.server.call.log server.call.log }

def step (libraries : Libraries) (limit : ℕ) (state : State) :
    Action → Option State
  | .socket (.update _) => none
  | .socket event =>
      (state.bridge.step libraries limit event).map fun bridge =>
        { state with
          bridge := bridge
          frames := state.frames ++ (frameText? event).toList
          uplink := state.uplink ++ taken state.bridge event }
  | .requestArrives =>
      match state.uplink with
      | [] => none
      | some command :: uplink =>
          { state with uplink := uplink }.serve limit (.call (.send command))
      | none :: uplink =>
          { state with uplink := uplink }.serve limit (.call .halfClose)
  | .cancelArrives =>
      if state.bridge.outbound then none
      else state.serve limit (.call .cancel)
  | .responseArrives =>
      match state.downlink with
      | [] => none
      | update :: downlink =>
          (state.bridge.step libraries limit (.update update)).map fun bridge =>
            { state with bridge := bridge, downlink := downlink }
  | .server action =>
      if fromClient action then none else state.serve limit action

/-- The inversion of `step`. -/
inductive StepMove (libraries : Libraries) (limit : ℕ) (state : State) :
    Action → State → Prop
  | socket (event : StockWatch.Event) (bridge : Bridge)
      (hevent : ∀ update, event ≠ .update update)
      (hbridge : state.bridge.step libraries limit event = some bridge) :
      StepMove libraries limit state (.socket event)
        { state with
          bridge := bridge
          frames := state.frames ++ (frameText? event).toList
          uplink := state.uplink ++ taken state.bridge event }
  | request (command : WatchCommand) (uplink : List (Option WatchCommand))
      (next : State) (huplink : state.uplink = some command :: uplink)
      (hserve : { state with uplink := uplink }.serve limit
        (.call (.send command)) = some next) :
      StepMove libraries limit state .requestArrives next
  | requestsEnd (uplink : List (Option WatchCommand)) (next : State)
      (huplink : state.uplink = none :: uplink)
      (hserve : { state with uplink := uplink }.serve limit
        (.call .halfClose) = some next) :
      StepMove libraries limit state .requestArrives next
  | cancel (next : State)
      (hserve : state.serve limit (.call .cancel) = some next) :
      StepMove libraries limit state .cancelArrives next
  | response (update : StockUpdate) (downlink : List StockUpdate)
      (bridge : Bridge) (hdownlink : state.downlink = update :: downlink)
      (hbridge : state.bridge.step libraries limit (.update update) =
        some bridge) :
      StepMove libraries limit state .responseArrives
        { state with bridge := bridge, downlink := downlink }
  | server (action : Inventory.Live.Action) (next : State)
      (hown : fromClient action = false)
      (hserve : state.serve limit action = some next) :
      StepMove libraries limit state (.server action) next

theorem step_moves {libraries : Libraries} {limit : ℕ} {state next : State}
    {action : Action} (hstep : step libraries limit state action = some next) :
    StepMove libraries limit state action next := by
  cases action with
  | socket event =>
      cases event with
      | update => cases hstep
      | frame | disconnect | take | teardown =>
          obtain ⟨bridge, hbridge, rfl⟩ := Option.map_eq_some_iff.mp hstep
          exact .socket _ bridge (fun _ => StockWatch.Event.noConfusion) hbridge
  | requestArrives =>
      rw [step] at hstep
      cases huplink : state.uplink with
      | nil => simp [huplink] at hstep
      | cons head uplink =>
          rw [huplink] at hstep
          cases head with
          | some command => exact .request command uplink next huplink hstep
          | none => exact .requestsEnd uplink next huplink hstep
  | cancelArrives =>
      rw [step] at hstep
      split_ifs at hstep
      exact .cancel next hstep
  | responseArrives =>
      rw [step] at hstep
      cases hdownlink : state.downlink with
      | nil => simp [hdownlink] at hstep
      | cons update downlink =>
          rw [hdownlink] at hstep
          obtain ⟨bridge, hbridge, rfl⟩ := Option.map_eq_some_iff.mp hstep
          exact .response update downlink bridge hdownlink hbridge
  | server action =>
      rw [step] at hstep
      split_ifs at hstep with hclient
      exact .server action next (by simpa using hclient) hstep

/-! ## What the browser has -/

def Outgoing.update? : Outgoing → Option StockUpdateOut
  | .update out => some out
  | .error _ => none

/-- The updates that the browser was sent. -/
def shown (bridge : Bridge) : List StockUpdateOut :=
  bridge.sent.filterMap Outgoing.update?

/-- What the browser shows for a product. -/
def lastShown? (productId : ℤ) (outs : List StockUpdateOut) :
    Option StockUpdateOut :=
  (outs.filter fun out => out.productId = productId).getLast?

/-- The products that the browser has subscribed and not given up, by the
frames it sent. -/
def watchedIn (libraries : Libraries) (limit : ℕ) (frames : List String) :
    Finset ℤ :=
  watchedBy (frames.filterMap (translation? libraries limit))

/-! ## The invariant -/

/-- The commands among the requests on their way. -/
def commandsIn (uplink : List (Option WatchCommand)) : List WatchCommand :=
  uplink.filterMap id

structure Linked (libraries : Libraries) (limit : ℕ) (start : InventoryDb)
    (state : State) : Prop where
  matched : Inventory.Live.Matched limit start state.server
  fifo : state.bridge.Fifo
  /-- while the inbound pump runs it has queued every valid frame -/
  queued : state.bridge.pump = .running → state.bridge.log =
    (state.frames.filterMap (translation? libraries limit)).map .queued
  requests : state.bridge.requests = commandsOf state.server.call.log ++
    state.server.call.requests ++ commandsIn state.uplink
  watchSet : state.server.call.watchSet =
    watchedBy (commandsOf state.server.call.log)
  /-- the browser has what was sent, but for the responses on their way -/
  shown : (updatesOf state.server.call.log).map stockUpdateOut =
    shown state.bridge ++ state.downlink.map stockUpdateOut

section Steps

variable {libraries : Libraries} {limit : ℕ} {start : InventoryDb}
  {state next : State}

theorem Linked.init {db : InventoryDb} (hwell : db.WellFormed)
    (hfits : db.Fits) (hids : (db.products.map Inventory.Product.id).Nodup) :
    Linked libraries limit db (.init db) where
  matched := .init hwell hfits hids
  fifo := rfl
  queued _ := rfl
  requests := rfl
  watchSet := rfl
  shown := rfl

theorem news_of_append {before recent : List Inventory.Watch.Entry} :
    news before (recent ++ before) = updatesOf recent := by
  rw [news, Inventory.Watch.updatesOf_append, List.drop_left]

/-- A step on the other side; what arrives comes off the uplink. -/
theorem Linked.serve {uplink : List (Option WatchCommand)}
    {action : Inventory.Live.Action}
    (hlinked : Linked libraries (limit + 1) start state)
    (harrivals : commandsIn state.uplink =
      action.arrivals ++ commandsIn uplink)
    (hstep : { state with uplink := uplink }.serve (limit + 1) action =
      some next) : Linked libraries (limit + 1) start next := by
  obtain ⟨server, hserver, rfl⟩ := Option.map_eq_some_iff.mp hstep
  obtain ⟨recent, htraffic⟩ := Inventory.Live.traffic_of_step hserver
  refine ⟨hlinked.matched.step hserver, hlinked.fifo, hlinked.queued, ?_, ?_,
    ?_⟩
  · change state.bridge.requests = commandsOf server.call.log ++
      server.call.requests ++ commandsIn uplink
    rw [htraffic.log, Inventory.Watch.commandsOf_append,
      List.append_assoc (commandsOf state.server.call.log),
      htraffic.requests, hlinked.requests, harrivals]
    simp only [List.append_assoc]
  · change server.call.watchSet = watchedBy (commandsOf server.call.log)
    rw [htraffic.watchSet, htraffic.log, Inventory.Watch.commandsOf_append,
      watchedBy, List.foldl_append, hlinked.watchSet, watchedBy]
  · change (updatesOf server.call.log).map stockUpdateOut =
      BrowserWatch.shown state.bridge ++
        (state.downlink ++
          news state.server.call.log server.call.log).map stockUpdateOut
    rw [htraffic.log, news_of_append, Inventory.Watch.updatesOf_append,
      List.map_append, List.map_append, hlinked.shown, List.append_assoc]

/-! The bridge -/

theorem shown_of_transition {bridge after : Bridge} {event : StockWatch.Event}
    (hevent : ∀ update, event ≠ .update update)
    (htransition : bridge.Transition libraries limit event after) :
    BrowserWatch.shown after = BrowserWatch.shown bridge := by
  cases htransition with
  | frame text =>
      cases handleFrame libraries limit text with
      | queues | raises => rfl
      | answers detail =>
          rw [BrowserWatch.shown, Bridge.handle, List.filterMap_append]
          exact List.append_nil _
  | update update => exact absurd rfl (hevent update)
  | _ => rfl

/-- What the call has asked for is on the uplink. -/
theorem requests_of_transition {bridge after : Bridge} {event : StockWatch.Event}
    (htransition : bridge.Transition libraries limit event after) :
    after.requests = bridge.requests ++ commandsIn (taken bridge event) := by
  cases htransition with
  | take _ hcommands =>
      rw [taken, hcommands]
      rfl
  | close _ hcommands =>
      rw [taken, hcommands]
      exact (List.append_nil _).symm
  | frame text =>
      refine Eq.trans ?_ (List.append_nil _).symm
      cases handleFrame libraries limit text <;> rfl
  | _ => exact (List.append_nil _).symm

/-- A pump that goes on has queued the frame, if it is a command. -/
theorem queued_of_step {bridge after : Bridge} {event : StockWatch.Event}
    {frames : List String}
    (hqueued : bridge.pump = .running → bridge.log =
      (frames.filterMap (translation? libraries limit)).map .queued)
    (hstep : bridge.step libraries limit event = some after)
    (hrunning : after.pump = .running) :
    after.log = ((frames ++ (frameText? event).toList).filterMap
      (translation? libraries limit)).map .queued := by
  cases event with
  | frame text =>
      rw [Bridge.step] at hstep
      split_ifs at hstep with hbefore
      · cases hstep
        rw [frameText?, List.filterMap_append, List.map_append,
          ← hqueued hbefore]
        have hcase := handleFrame_case libraries limit text
        cases hhandled : handleFrame libraries limit text with
        | queues command =>
            rw [hhandled] at hcase
            cases hcase with
            | queues _ hcommand =>
                simp [Bridge.handle, hcommand]
        | answers detail =>
            rw [hhandled] at hcase
            cases hcase with
            | answers _ hinvalid =>
                simp [Bridge.handle, hinvalid]
        | raises error =>
            rw [hhandled] at hrunning
            cases hrunning
      · cases hstep
        exact absurd hrunning hbefore
  | disconnect =>
      rw [Bridge.step] at hstep
      split_ifs at hstep with hbefore
      · cases hstep
        cases hrunning
      · cases hstep
        exact absurd hrunning hbefore
  | take | update | teardown =>
      obtain ⟨hpump, hlog, _⟩ := Bridge.step_other rfl hstep
      refine (hlog.trans (hqueued (hpump ▸ hrunning))).trans ?_
      exact congrArg (fun texts : List String =>
        (texts.filterMap (translation? libraries limit)).map Entry.queued)
        (List.append_nil frames).symm

theorem Linked.socket {event : StockWatch.Event} {bridge : Bridge}
    (hlinked : Linked libraries limit start state)
    (hevent : ∀ update, event ≠ .update update)
    (hstep : state.bridge.step libraries limit event = some bridge) :
    Linked libraries limit start
      { state with
        bridge := bridge
        frames := state.frames ++ (frameText? event).toList
        uplink := state.uplink ++ taken state.bridge event } := by
  have htransition := Bridge.transition_of_step hstep
  refine ⟨hlinked.matched, hlinked.fifo.step hstep,
    queued_of_step hlinked.queued hstep, ?_, hlinked.watchSet, ?_⟩
  · change bridge.requests = commandsOf state.server.call.log ++
      state.server.call.requests ++
        commandsIn (state.uplink ++ taken state.bridge event)
    rw [requests_of_transition htransition, hlinked.requests, commandsIn,
      commandsIn, commandsIn, List.filterMap_append, List.append_assoc]
  · change (updatesOf state.server.call.log).map stockUpdateOut =
      BrowserWatch.shown bridge ++ state.downlink.map stockUpdateOut
    rw [shown_of_transition hevent htransition, hlinked.shown]

/-- A response reaches the browser. -/
theorem Linked.respond {update : StockUpdate} {downlink : List StockUpdate}
    {bridge : Bridge} (hlinked : Linked libraries limit start state)
    (hdownlink : state.downlink = update :: downlink)
    (hstep : state.bridge.step libraries limit (.update update) =
      some bridge) :
    Linked libraries limit start
      { state with bridge := bridge, downlink := downlink } := by
  obtain ⟨hpump, hlog, _⟩ := Bridge.step_other rfl hstep
  have hshown : BrowserWatch.shown bridge =
      BrowserWatch.shown state.bridge ++ [stockUpdateOut update] := by
    cases Bridge.transition_of_step hstep
    rw [BrowserWatch.shown, List.filterMap_append]
    rfl
  have hrequests : bridge.requests = state.bridge.requests := by
    rw [requests_of_transition (Bridge.transition_of_step hstep)]
    exact List.append_nil _
  refine ⟨hlinked.matched, hlinked.fifo.step hstep, fun hrunning => ?_,
    hrequests.trans hlinked.requests, hlinked.watchSet, ?_⟩
  · rw [hlog]
    exact hlinked.queued (hpump ▸ hrunning)
  · rw [hlinked.shown, hdownlink, hshown, List.map_cons, List.append_assoc]
    rfl

theorem Linked.step {action : Action}
    (hlinked : Linked libraries (limit + 1) start state)
    (hstep : step libraries (limit + 1) state action = some next) :
    Linked libraries (limit + 1) start next := by
  cases step_moves hstep with
  | socket event bridge hevent hbridge => exact hlinked.socket hevent hbridge
  | request command uplink _ huplink hserve =>
      exact hlinked.serve (by rw [huplink]; rfl) hserve
  | requestsEnd uplink _ huplink hserve =>
      exact hlinked.serve (by rw [huplink]; rfl) hserve
  | cancel _ hserve => exact hlinked.serve rfl hserve
  | response update downlink bridge hdownlink hbridge =>
      exact hlinked.respond hdownlink hbridge
  | server action _ hown hserve =>
      have harrivals : action.arrivals = [] := by
        cases action with
        | call action =>
            cases action with
            | send => exact absurd hown Bool.noConfusion
            | _ => rfl
        | _ => rfl
      exact hlinked.serve (by rw [harrivals]; rfl) hserve

end Steps

end OrderFlow.Orders.BrowserWatch
