import OrderFlow.Core.Json
import OrderFlow.Core.TransitionSystem
import OrderFlow.Inventory.Watch
import OrderFlow.Orders.Service

/-!
# `InventoryService.stock_watch`

A WebSocket bridged to a `WatchStock` call by two pumps: `_pump_inbound` turns
frames into commands on a queue, which `_command_stream` hands to the call, and
`_pump_outbound` forwards what the call yields.  The response stream stays
open, so it is the inbound pump that ends the session.
-/

namespace OrderFlow.Orders.StockWatch

open OrderFlow.Inventory.Watch (CommandAction WatchCommand StockUpdate Kind)
open OrderFlow.Json

/-! ## Libraries -/

/-- What the schema and the socket do beyond this repository. -/
structure Libraries where
  /-- Pydantic's lax conversion to `int` -/
  toInt? : Value → Option ℤ
  toInt?_int : ∀ number, toInt? (.int number) = some number
  /-- `exc.errors()` for a value that is no command -/
  errors : Value → Value
  /-- `send_json` takes a reply with these details: it raises where they echo
  a lone surrogate -/
  sendable : Value → Bool

/-! ## Commands -/

/-- `Literal["subscribe", "unsubscribe"]`. -/
inductive ActionIn where
  | subscribe
  | unsubscribe
  deriving DecidableEq

def actionIn? : Value → Option ActionIn
  | .string text =>
      if text = .ofString "subscribe" then some .subscribe
      else if text = .ofString "unsubscribe" then some .unsubscribe
      else none
  | _ => none

structure WatchCommandIn where
  action : ActionIn
  productIds : List ℤ
  deriving DecidableEq

/-- `WatchCommandIn.model_validate`; `none` for a `ValidationError`. -/
def WatchCommandIn.modelValidate? (libraries : Libraries) :
    Value → Option WatchCommandIn
  | .object members =>
      match lookup? members (.ofString "action"),
          lookup? members (.ofString "product_ids") with
      | some action, some (.array items) => do
          return ⟨← actionIn? action, ← items.mapM libraries.toInt?⟩
      | _, _ => none
  | _ => none

/-- `_COMMAND_ACTIONS`. -/
def commandActions : ActionIn → CommandAction
  | .subscribe => .subscribe
  | .unsubscribe => .unsubscribe

/-- The ids fit the repeated int64 field. -/
def WatchCommandIn.Encodable (command : WatchCommandIn) : Prop :=
  ∀ productId ∈ command.productIds, InInt64 productId

instance (command : WatchCommandIn) : Decidable command.Encodable :=
  inferInstanceAs (Decidable (∀ productId ∈ command.productIds, _))

def WatchCommandIn.message (command : WatchCommandIn) : WatchCommand :=
  ⟨commandActions command.action, command.productIds⟩

/-! ## The inbound pump -/

/-- Exceptions that `_pump_inbound` ends with. -/
inductive PumpError where
  /-- `json.loads` in `receive_json` -/
  | json (error : Json.Error)
  /-- protobuf, for an id outside its field -/
  | valueError
  /-- `send_json` -/
  | sendError
  deriving DecidableEq

inductive Pump where
  | running
  | returned
  | raised (error : PumpError)
  deriving DecidableEq

/-- What one frame comes to. -/
inductive Handled where
  | queues (command : WatchCommand)
  | answers (detail : Value)
  | raises (error : PumpError)

/-- One round of the loop of `_pump_inbound`. -/
def handleFrame (libraries : Libraries) (limit : ℕ) (text : String) : Handled :=
  match loads limit text.toList with
  | .error error => .raises (.json error)
  | .ok raw =>
      match WatchCommandIn.modelValidate? libraries raw with
      | none =>
          if libraries.sendable (libraries.errors raw) then
            .answers (libraries.errors raw)
          else .raises .sendError
      | some command =>
          if command.Encodable then .queues command.message
          else .raises .valueError

/-! ## The session -/

/-- `_UPDATE_KIND_LABELS`. -/
def updateKindLabels : Kind → String
  | .snapshot => "snapshot"
  | .changed => "changed"

structure StockUpdateOut where
  productId : ℤ
  sku : String
  name : String
  availableQuantity : ℤ
  kind : String

def stockUpdateOut (update : StockUpdate) : StockUpdateOut :=
  ⟨update.productId, update.sku, update.name, update.availableQuantity,
    updateKindLabels update.kind⟩

/-- A message to the client. -/
inductive Outgoing where
  /-- `{"error": "invalid command", "detail": ...}` -/
  | error (detail : Value)
  | update (out : StockUpdateOut)

/-- What the inbound pump does to the queue, and when the client leaves. -/
inductive Entry where
  | queued (command : WatchCommand)
  | sentinel
  | disconnected
  deriving DecidableEq

structure Bridge where
  pump : Pump
  /-- the outbound pump, and with it the call, has not been cancelled -/
  outbound : Bool
  commands : List (Option WatchCommand)
  /-- what `_command_stream` has yielded -/
  requests : List WatchCommand
  requestsOpen : Bool
  sent : List Outgoing
  log : List Entry

def Bridge.start : Bridge where
  pump := .running
  outbound := true
  commands := []
  requests := []
  requestsOpen := true
  sent := []
  log := []

inductive Event where
  /-- the client sends a text -/
  | frame (text : String)
  /-- the client closes the socket -/
  | disconnect
  /-- the call asks `_command_stream` for its next command -/
  | take
  /-- the call yields an update -/
  | update (update : StockUpdate)
  /-- `stock_watch` finds the inbound pump done and cancels the other one -/
  | teardown

/-- The pump ends, and its `finally` queues the sentinel. -/
def Bridge.endPump (bridge : Bridge) (pump : Pump) : Bridge :=
  { bridge with
    pump := pump
    commands := bridge.commands ++ [none]
    log := bridge.log ++ [.sentinel] }

def Bridge.handle (bridge : Bridge) : Handled → Bridge
  | .queues command =>
      { bridge with
        commands := bridge.commands ++ [some command]
        log := bridge.log ++ [.queued command] }
  | .answers detail => { bridge with sent := bridge.sent ++ [.error detail] }
  | .raises error => bridge.endPump (.raised error)

/-- `none` where this cannot happen. -/
def Bridge.step (libraries : Libraries) (limit : ℕ) (bridge : Bridge) :
    Event → Option Bridge
  | .frame text =>
      -- once the pump has ended nobody reads the socket
      if bridge.pump = .running then
        some (bridge.handle (handleFrame libraries limit text))
      else some bridge
  | .disconnect =>
      let left := { bridge with log := bridge.log ++ [.disconnected] }
      if bridge.pump = .running then some (left.endPump .returned)
      else some left
  | .take =>
      if bridge.outbound ∧ bridge.requestsOpen then
        match bridge.commands with
        | [] => none
        | some command :: commands =>
            some { bridge with
              commands := commands
              requests := bridge.requests ++ [command] }
        | none :: commands =>
            some { bridge with commands := commands, requestsOpen := false }
      else none
  | .update update =>
      if bridge.outbound then
        some { bridge with
          sent := bridge.sent ++ [.update (stockUpdateOut update)] }
      else none
  | .teardown =>
      if bridge.pump = .running then none
      else some { bridge with outbound := false }

end OrderFlow.Orders.StockWatch
