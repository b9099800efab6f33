import OrderFlow.Core.JsonRecord
import OrderFlow.Core.PyInt
import OrderFlow.Core.TransitionSystem

/-!
# `listen_stock_changes`

The generator between the points where it meets its environment: the driver,
the channel and the `stop` event.  Every failure of the driver is a
`psycopg.Error`; the payload of a notification is any text.
-/

namespace OrderFlow.Inventory.Notifications

open OrderFlow.Json
open OrderFlow.Python (Exception intOf intOf_error)
open OrderFlow.TransitionSystem

/-! ## `_parse_product_id` -/

def jsonException : Json.Error → Exception
  | .valueError => .valueError
  | .recursionError => .recursionError

def productIdKey : Text := .ofString "product_id"

/-- `value["product_id"]`: only a `dict` has string keys. -/
def subscript : Value → Except Exception Value
  | .object members =>
      match lookup? members productIdKey with
      | some value => .ok value
      | none => .error .keyError
  | _ => .error .typeError

/-- `int(json.loads(payload)["product_id"])`. -/
def readProductId (limit : ℕ) (payload : String) : Except Exception ℤ :=
  match loads limit payload.toList with
  | .error error => .error (jsonException error)
  | .ok value =>
      match subscript value with
      | .error exception => .error exception
      | .ok member => intOf member

def parseProductId (limit : ℕ) (payload : String) :
    Except Exception (Option ℤ) :=
  match readProductId limit payload with
  | .ok productId => .ok (some productId)
  | .error .valueError => .ok none
  | .error .keyError => .ok none
  | .error .typeError => .ok none
  | .error exception => .error exception

/-! ## The generator -/

inductive StockEvent where
  | resync
  | changed (productId : ℤ)
  deriving DecidableEq

inductive Phase where
  /-- before `_connect`, or in the backoff -/
  | disconnected
  /-- before LISTEN -/
  | connected (conn : ℕ)
  /-- in `conn.notifies` -/
  | listening (conn : ℕ)
  | returned
  | raised (exception : Exception)
  deriving DecidableEq

/-- What the environment does next. -/
inductive Event where
  | connectFails
  | connects
  | listenFails
  | listens
  | payload (text : String)
  /-- `notifies` comes back at its timeout -/
  | tick
  | drops
  /-- `stop.set()` -/
  | stops
  deriving DecidableEq

structure Listener where
  phase : Phase
  stop : Bool
  /-- connections are numbered as they are opened -/
  opened : ℕ
  closed : List ℕ
  yielded : List StockEvent
  deriving DecidableEq

namespace Listener

def start : Listener where
  phase := .disconnected
  stop := false
  opened := 0
  closed := []
  yielded := []

/-- The test of the outer loop. -/
def outerTest (listener : Listener) : Listener :=
  { listener with
    phase := if listener.stop then .returned else .disconnected }

/-- `conn.close()` in the `finally` clause. -/
def close (listener : Listener) (conn : ℕ) : Listener :=
  { listener with closed := listener.closed ++ [conn] }

/-- The test of the inner loop; behind it `notifies` is called again. -/
def innerTest (listener : Listener) (conn : ℕ) : Listener :=
  if listener.stop then (listener.close conn).outerTest
  else { listener with phase := .listening conn }

def emit (listener : Listener) (event : StockEvent) : Listener :=
  { listener with yielded := listener.yielded ++ [event] }

/-- One notification in the body of the `for` loop. -/
def receive (limit : ℕ) (listener : Listener) (conn : ℕ) (payload : String) :
    Listener :=
  -- the `break`, after which the inner test fails as well
  if listener.stop then listener.innerTest conn
  else match parseProductId limit payload with
    | .ok (some productId) => listener.emit (.changed productId)
    | .ok none => listener
    | .error exception =>
        { listener.close conn with phase := .raised exception }

/-- `none` where the environment cannot do this. -/
def step (limit : ℕ) (listener : Listener) : Event → Option Listener
  | .connectFails =>
      match listener.phase with
      | .disconnected => some listener.outerTest
      | _ => none
  | .connects =>
      match listener.phase with
      | .disconnected =>
          some { listener with
            phase := .connected listener.opened
            opened := listener.opened + 1 }
      | _ => none
  | .listenFails =>
      match listener.phase with
      | .connected conn => some (listener.close conn).outerTest
      | _ => none
  | .listens =>
      match listener.phase with
      | .connected conn => some ((listener.emit .resync).innerTest conn)
      | _ => none
  | .payload text =>
      match listener.phase with
      | .listening conn => some (listener.receive limit conn text)
      | _ => none
  | .tick =>
      match listener.phase with
      | .listening conn => some (listener.innerTest conn)
      | _ => none
  | .drops =>
      match listener.phase with
      | .listening conn => some (listener.close conn).outerTest
      | _ => none
  | .stops =>
      -- the backoff is a `stop.wait` and ends at once
      match listener.phase with
      | .disconnected => some { listener with stop := true, phase := .returned }
      | _ => some { listener with stop := true }

end Listener

/-! ## The trigger -/

/-- `json_build_object` puts a space around its colons. -/
def postgresStyle : Style where
  beforeColon := [' ']
  afterColon := [' ']
  afterComma := [' ']
  beforeColon_space := rfl
  afterColon_space := rfl
  afterComma_space := rfl

/-- `notify_stock_change`. -/
def triggerPayload (productId availableQuantity : ℤ) : String :=
  .ofList (renderRecord postgresStyle
    [("product_id", .int productId),
      ("available_quantity", .int availableQuantity)])

example : triggerPayload 3 10 =
    "\x7b\"product_id\" : 3, \"available_quantity\" : 10\x7d" := by
  decide +kernel

end OrderFlow.Inventory.Notifications
