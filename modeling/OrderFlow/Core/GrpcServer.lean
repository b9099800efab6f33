import OrderFlow.Core.Grpc
import Mathlib.Data.List.Basic

/-!
# A gRPC server with interceptors

The server looks a method up, through its interceptors, and runs the handler
that comes back.  A handler is of one of four kinds, by what it reads and what
it sends, and an interceptor may replace it by another one.  The state that the
handlers work on is arbitrary, and so is what they do with it: a handler that
counts its calls is one of them.
-/

namespace OrderFlow.Grpc

variable {State Message : Type*}

/-! ## Handlers -/

/-- An exception that leaves a handler: raised by `context.abort`, or any
other one, by its text. -/
inductive Raised where
  | aborted (error : RpcError)
  | exception (text : String)
  deriving DecidableEq

/-- `context.code()` after the exception; nothing but `abort` sets it. -/
def Raised.code? : Raised → Option StatusCode
  | .aborted error => some error.code
  | .exception _ => none

/-- The status in a line of the log. -/
inductive LoggedStatus where
  | ok
  /-- `context.code()`, which may be `None` -/
  | code (code? : Option StatusCode)
  deriving DecidableEq

/-- How a handler has ended. -/
def LoggedStatus.of : Option Raised → LoggedStatus
  | none => .ok
  | some raised => .code raised.code?

/-- A line that the server logs. -/
inductive LogRecord where
  | rejecting (method : String)
  /-- `msgs` is told of response streams -/
  | finished (method : String) (status : LoggedStatus) (msgs : Option ℕ)
  deriving DecidableEq

structure Server (State : Type*) where
  state : State
  log : List LogRecord

def Server.record (server : Server State) (record : LogRecord) :
    Server State :=
  { server with log := server.log ++ [record] }

/-- Answers with one message, or raises. -/
abbrev Single (Request State Message : Type*) :=
  Request → Server State → Server State × Except Raised Message

/-- A generator of responses, with the server as it is at every yield and at
the end, where an exception may be raised.  Who stops iterating leaves it at a
yield. -/
inductive Generator (State Message : Type*) where
  | yields (server : Server State) (message : Message)
      (rest : Generator State Message)
  | ends (server : Server State) (raised? : Option Raised)

/-- Answers with a stream of messages. -/
abbrev Streaming (Request State Message : Type*) :=
  Request → Server State → Generator State Message

/-- The function of a handler.  An iterator of requests raises where a message
cannot be decoded. -/
inductive Behavior (State Message : Type*) where
  | unaryUnary (inner : Single Message State Message)
  | unaryStream (inner : Streaming Message State Message)
  | streamUnary (inner : Single (List (Option Message)) State Message)
  | streamStream (inner : Streaming (List (Option Message)) State Message)

/-- `grpc.RpcMethodHandler`; without a coder the bytes are passed on. -/
structure RpcMethodHandler (State Message : Type*) where
  behavior : Behavior State Message
  requestDeserializer : Option (Message → Option Message) := none
  responseSerializer : Option (Message → Option Message) := none

/-! ## Interceptors -/

structure HandlerCallDetails where
  method : String
  invocationMetadata : Option (List (String × String))

/-- Python exceptions of an interceptor. -/
inductive InterceptorError where
  | attributeError
  deriving DecidableEq

/-- Looks the handler of a call up; `none` is Python's `None`. -/
abbrev Continuation (State Message : Type*) :=
  HandlerCallDetails → Server State →
    Server State ×
      Except InterceptorError (Option (RpcMethodHandler State Message))

/-- `intercept_service`. -/
abbrev Interceptor (State Message : Type*) :=
  Continuation State Message → Continuation State Message

/-- The handlers that were added to the server. -/
def query (registry : String → Option (RpcMethodHandler State Message)) :
    Continuation State Message :=
  fun details server => (server, .ok (registry details.method))

/-- The first interceptor is the outermost one. -/
def pipeline (interceptors : List (Interceptor State Message))
    (thunk : Continuation State Message) : Continuation State Message :=
  interceptors.foldr (fun interceptor inner => interceptor inner) thunk

/-! ## One call -/

/-- What a call sends: the handler reads one message or the whole stream. -/
structure Sent (Message : Type*) where
  message : Message
  stream : List Message

/-- What the client gets; no status is OK. -/
structure Answer (Message : Type*) where
  messages : List Message
  status : Option RpcError
  deriving DecidableEq

def code (coder : Option (Message → Option Message)) (message : Message) :
    Option Message :=
  match coder with
  | none => some message
  | some transform => transform message

/-- What the client is told of an exception, and of what was going on. -/
def Raised.status (activity : String) : Raised → RpcError
  | .aborted error => error
  | .exception text => ⟨.unknown, activity ++ ": " ++ text⟩

def callingApplication : String := "Exception calling application"

def iteratingResponses : String := "Exception iterating responses"

def Answer.failed (error : RpcError) : Answer Message := ⟨[], some error⟩

def serializationError : RpcError :=
  ⟨.internal, "Failed to serialize response!"⟩

def deserializationError : RpcError :=
  ⟨.internal, "Exception deserializing request!"⟩

/-- The answer to a handler with one response. -/
def answerSingle (serializer : Option (Message → Option Message)) :
    Except Raised Message → Answer Message
  | .error raised => .failed (raised.status callingApplication)
  | .ok message =>
      match code serializer message with
      | none => .failed serializationError
      | some response => ⟨[response], none⟩

/-- The answer to a handler with a stream of responses, for a client that reads
them all.  A response that cannot be serialized ends the iteration. -/
def answerStream (serializer : Option (Message → Option Message)) :
    Generator State Message → Server State × Answer Message
  | .ends server raised? =>
      (server, ⟨[], raised?.map (Raised.status iteratingResponses)⟩)
  | .yields server message rest =>
      match code serializer message with
      | none => (server, .failed serializationError)
      | some response =>
          let later := answerStream serializer rest
          (later.1, ⟨response :: later.2.messages, later.2.status⟩)

def runHandler (handler : RpcMethodHandler State Message)
    (sent : Sent Message) (server : Server State) :
    Server State × Answer Message :=
  let requests := sent.stream.map (code handler.requestDeserializer)
  match handler.behavior with
  | .unaryUnary inner =>
      match code handler.requestDeserializer sent.message with
      | none => (server, .failed deserializationError)
      | some request =>
          let result := inner request server
          (result.1, answerSingle handler.responseSerializer result.2)
  | .unaryStream inner =>
      match code handler.requestDeserializer sent.message with
      | none => (server, .failed deserializationError)
      | some request =>
          answerStream handler.responseSerializer (inner request server)
  | .streamUnary inner =>
      let result := inner requests server
      (result.1, answerSingle handler.responseSerializer result.2)
  | .streamStream inner =>
      answerStream handler.responseSerializer (inner requests server)

/-- A call from its arrival to its answer.  An exception of an interceptor is
an internal error, answered UNKNOWN. -/
def handleCall (resolve : Continuation State Message)
    (details : HandlerCallDetails) (sent : Sent Message)
    (server : Server State) : Server State × Answer Message :=
  match resolve details server with
  | (server, .error _) =>
      (server, .failed ⟨.unknown, "Error in service handler!"⟩)
  | (server, .ok none) =>
      (server, .failed ⟨.unimplemented, "Method not found!"⟩)
  | (server, .ok (some handler)) => runHandler handler sent server

end OrderFlow.Grpc
