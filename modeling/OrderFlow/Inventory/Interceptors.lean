import OrderFlow.Core.GrpcServer
import Mathlib.Data.List.Induction
import Mathlib.Logic.Function.Basic

/-!
# The interceptors of inventory-service

`AuthInterceptor` and `LoggingInterceptor` of `grpc_server/interceptors.py`,
composed as `grpc_server/server.py` does.
-/

namespace OrderFlow.Inventory

open OrderFlow.Grpc

variable {State Message : Type*}

/-- `AUTH_METADATA_KEY`. -/
def authMetadataKey : String := "x-auth-token"

/-- `_HEALTH_METHOD_PREFIX`. -/
def healthMethodPrefix : String := "/grpc.health.v1.Health/"

/-- `str.startswith`. -/
def startsWith (text start : String) : Bool :=
  start.toList.isPrefixOf text.toList

/-- `dict(pairs)`: a later pair replaces an earlier one with its key. -/
def dict (pairs : List (String × String)) : String → Option String :=
  pairs.foldl (fun table pair => Function.update table pair.1 (some pair.2))
    fun _ => none

/-! ## `AuthInterceptor` -/

/-- `terminate` inside `_abort_handler`, for one response. -/
def terminate {Request : Type*} (error : RpcError) :
    Single Request State Message :=
  fun _ server => (server, .error (.aborted error))

/-- `terminate` for a response stream: it aborts before it yields. -/
def terminateStream {Request : Type*} (error : RpcError) :
    Streaming Request State Message :=
  fun _ server => .ends server (some (.aborted error))

/-- `_abort_handler`; `None` has no attribute `stream_stream`. -/
def abortHandler (handler : Option (RpcMethodHandler State Message))
    (error : RpcError) :
    Except InterceptorError (RpcMethodHandler State Message) :=
  match handler with
  | none => .error .attributeError
  | some handler =>
      match handler.behavior with
      | .streamStream _ => .ok ⟨.streamStream (terminateStream error), none, none⟩
      | .streamUnary _ => .ok ⟨.streamUnary (terminate error), none, none⟩
      | .unaryStream _ => .ok ⟨.unaryStream (terminateStream error), none, none⟩
      | .unaryUnary _ => .ok ⟨.unaryUnary (terminate error), none, none⟩

def AuthInterceptor.interceptService (expected : String) :
    Interceptor State Message :=
  fun continuation details server =>
    if expected = "" then continuation details server
    else if startsWith details.method healthMethodPrefix then
      continuation details server
    else
      let presented :=
        dict (details.invocationMetadata.getD []) authMetadataKey
      match continuation details server with
      | (server, .error error) => (server, .error error)
      | (server, .ok handler) =>
          if presented ≠ some expected then
            (server.record (.rejecting details.method),
              (abortHandler handler
                ⟨.unauthenticated, "invalid auth token"⟩).map some)
          else (server, .ok handler)

/-! ## `LoggingInterceptor` -/

def timed {Request : Type*} (method : String)
    (inner : Single Request State Message) : Single Request State Message :=
  fun request server =>
    let result := inner request server
    match result.2 with
    | .error raised =>
        (result.1.record (.finished method (.code raised.code?) none),
          .error raised)
    | .ok response =>
        (result.1.record (.finished method .ok none), .ok response)

/-- The responses are counted as they are yielded.  A generator that is left at
a yield writes no line. -/
def counted (method : String) :
    ℕ → Generator State Message → Generator State Message
  | count, .yields server response rest =>
      .yields server response (counted method (count + 1) rest)
  | count, .ends server raised? =>
      .ends (server.record (.finished method (.of raised?) (some count)))
        raised?

def timedStream {Request : Type*} (method : String)
    (inner : Streaming Request State Message) :
    Streaming Request State Message :=
  fun request server => counted method 0 (inner request server)

/-- The handler around the one that was found. -/
def LoggingInterceptor.wrap (method : String)
    (handler : RpcMethodHandler State Message) :
    RpcMethodHandler State Message :=
  { handler with
    behavior :=
      match handler.behavior with
      | .unaryUnary inner => .unaryUnary (timed method inner)
      | .streamUnary inner => .streamUnary (timed method inner)
      | .unaryStream inner => .unaryStream (timedStream method inner)
      | .streamStream inner => .streamStream (timedStream method inner) }

def LoggingInterceptor.interceptService : Interceptor State Message :=
  fun continuation details server =>
    match continuation details server with
    | (server, .error error) => (server, .error error)
    | (server, .ok none) => (server, .ok none)
    | (server, .ok (some handler)) =>
        (server, .ok (some (LoggingInterceptor.wrap details.method handler)))

/-! ## The server -/

/-- A call to the server that `serve` builds. -/
def serve (token : String)
    (registry : String → Option (RpcMethodHandler State Message)) :
    HandlerCallDetails → Sent Message → Server State →
      Server State × Answer Message :=
  handleCall (pipeline
    [LoggingInterceptor.interceptService,
      AuthInterceptor.interceptService token] (query registry))

/-- The same server without the gate. -/
def serveUngated
    (registry : String → Option (RpcMethodHandler State Message)) :
    HandlerCallDetails → Sent Message → Server State →
      Server State × Answer Message :=
  handleCall (pipeline [LoggingInterceptor.interceptService] (query registry))

/-! ## Metadata -/

/-- The value of the last entry with the key. -/
def lastValue? (pairs : List (String × String)) (key : String) :
    Option String :=
  ((pairs.filter fun pair => pair.1 = key).getLast?).map Prod.snd

theorem dict_concat (pairs : List (String × String)) (pair : String × String)
    (key : String) :
    dict (pairs ++ [pair]) key =
      if key = pair.1 then some pair.2 else dict pairs key := by
  rw [dict, List.foldl_append]
  exact Function.update_apply _ _ _ _

/-- The conversion to a dict keeps the last entry of a key. -/
theorem dict_eq_lastValue? (pairs : List (String × String)) (key : String) :
    dict pairs key = lastValue? pairs key := by
  induction pairs using List.reverseRecOn with
  | nil => rfl
  | append_singleton pairs pair ih =>
      rw [dict_concat, ih, lastValue?, lastValue?, List.filter_append]
      by_cases hkey : key = pair.1
      · subst hkey
        simp
      · simp [hkey, Ne.symm hkey]

end OrderFlow.Inventory
