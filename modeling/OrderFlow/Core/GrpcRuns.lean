import OrderFlow.Core.GrpcServer

/-!
# Handlers that work on the state

A handler that looks at the state of the server only, and leaves its log to
others, answers the same whatever has been logged before.
-/

namespace OrderFlow.Grpc

variable {State Message Request Result : Type*}

structure Call (Message : Type*) where
  details : HandlerCallDetails
  sent : Sent Message

/-- The server of a generator, with this log at every point. -/
def Generator.withLog (log : List LogRecord) :
    Generator State Message → Generator State Message
  | .yields server message rest =>
      .yields ⟨server.state, log⟩ message (rest.withLog log)
  | .ends server raised? => .ends ⟨server.state, log⟩ raised?

/-- The function reads and writes the state, and nothing else. -/
def OnState (inner : Single Request State Message) : Prop :=
  ∀ request server, inner request server =
    (⟨(inner request ⟨server.state, []⟩).1.state, server.log⟩,
      (inner request ⟨server.state, []⟩).2)

def StreamsOnState (inner : Streaming Request State Message) : Prop :=
  ∀ request server, inner request server =
    (inner request ⟨server.state, []⟩).withLog server.log

def Behavior.OnState : Behavior State Message → Prop
  | .unaryUnary inner => Grpc.OnState inner
  | .unaryStream inner => StreamsOnState inner
  | .streamUnary inner => Grpc.OnState inner
  | .streamStream inner => StreamsOnState inner

/-- The request can be decoded.  A stream is decoded as it is read. -/
def RpcMethodHandler.Decodes (handler : RpcMethodHandler State Message)
    (sent : Sent Message) : Bool :=
  match handler.behavior with
  | .unaryUnary _ | .unaryStream _ =>
      (code handler.requestDeserializer sent.message).isSome
  | .streamUnary _ | .streamStream _ => true

/-- Every response can be encoded. -/
def RpcMethodHandler.Encodes (handler : RpcMethodHandler State Message) :
    Prop :=
  ∀ message, (code handler.responseSerializer message).isSome

section Answers

variable {serializer : Option (Message → Option Message)}

theorem answerSingle_status (hencodes : ∀ message,
    (code serializer message).isSome) (result : Except Raised Message) :
    (answerSingle serializer result).status =
      match result with
      | .error raised => some (raised.status callingApplication)
      | .ok _ => none := by
  cases result with
  | error raised => rfl
  | ok message =>
      obtain ⟨response, hresponse⟩ :=
        Option.isSome_iff_exists.mp (hencodes message)
      rw [answerSingle, hresponse]

theorem answerStream_withLog (log : List LogRecord)
    (generator : Generator State Message) :
    answerStream serializer (generator.withLog log) =
      (⟨(answerStream serializer generator).1.state, log⟩,
        (answerStream serializer generator).2) := by
  induction generator with
  | ends server raised? => rfl
  | yields server message rest ih =>
      rw [Generator.withLog, answerStream, answerStream]
      cases code serializer message with
      | none => rfl
      | some response => simp only [ih]

end Answers

/-- A handler that works on the state answers from the state. -/
theorem runHandler_onState {handler : RpcMethodHandler State Message}
    (honState : handler.behavior.OnState) (sent : Sent Message)
    (server : Server State) :
    runHandler handler sent server =
      (⟨(runHandler handler sent ⟨server.state, []⟩).1.state, server.log⟩,
        (runHandler handler sent ⟨server.state, []⟩).2) := by
  obtain ⟨behavior, requestDeserializer, responseSerializer⟩ := handler
  cases behavior with
  | unaryUnary inner =>
      simp only [runHandler]
      cases code requestDeserializer sent.message with
      | none => rfl
      | some request =>
          exact congrArg (fun result : Server State × Except Raised Message =>
            (result.1, answerSingle responseSerializer result.2))
            (honState request server)
  | unaryStream inner =>
      simp only [runHandler]
      cases code requestDeserializer sent.message with
      | none => rfl
      | some request =>
          exact (congrArg (answerStream responseSerializer)
            (honState request server)).trans (answerStream_withLog _ _)
  | streamUnary inner =>
      exact congrArg (fun result : Server State × Except Raised Message =>
        (result.1, answerSingle responseSerializer result.2))
        (honState _ server)
  | streamStream inner =>
      exact (congrArg (answerStream responseSerializer)
        (honState _ server)).trans (answerStream_withLog _ _)

end OrderFlow.Grpc
