import Mathlib.Logic.Basic

/-!
# Unary gRPC calls

A unary call runs a handler on the state of the server and brings back its
answer, or fails with a status.  A failed call tells the client nothing about
the server: the handler may have run to its end, or not at all.
-/

namespace OrderFlow.Grpc

/-- The statuses a call can fail with, `grpc.StatusCode` without `OK`. -/
inductive StatusCode where
  | cancelled
  | unknown
  | invalidArgument
  | deadlineExceeded
  | notFound
  | alreadyExists
  | permissionDenied
  | unauthenticated
  | resourceExhausted
  | failedPrecondition
  | aborted
  | outOfRange
  | unimplemented
  | internal
  | unavailable
  | dataLoss
  deriving DecidableEq

/-- `exc.code().name`. -/
def StatusCode.name : StatusCode → String
  | .cancelled => "CANCELLED"
  | .unknown => "UNKNOWN"
  | .invalidArgument => "INVALID_ARGUMENT"
  | .deadlineExceeded => "DEADLINE_EXCEEDED"
  | .notFound => "NOT_FOUND"
  | .alreadyExists => "ALREADY_EXISTS"
  | .permissionDenied => "PERMISSION_DENIED"
  | .unauthenticated => "UNAUTHENTICATED"
  | .resourceExhausted => "RESOURCE_EXHAUSTED"
  | .failedPrecondition => "FAILED_PRECONDITION"
  | .aborted => "ABORTED"
  | .outOfRange => "OUT_OF_RANGE"
  | .unimplemented => "UNIMPLEMENTED"
  | .internal => "INTERNAL"
  | .unavailable => "UNAVAILABLE"
  | .dataLoss => "DATA_LOSS"

/-- What the client sees of a failed call, `grpc.aio.AioRpcError`. -/
structure RpcError where
  code : StatusCode
  details : String
  deriving DecidableEq

/-- What becomes of one call. -/
inductive Delivery where
  /-- the handler runs and its answer arrives -/
  | answered
  /-- the call fails, after the handler has run or without it -/
  | failed (error : RpcError) (executed : Bool)
  deriving DecidableEq

variable {State Answer : Type*}

/-- One call, on the state of the server. -/
def call (handler : State → State × Except RpcError Answer)
    (delivery : Delivery) (state : State) : State × Except RpcError Answer :=
  match delivery with
  | .answered => handler state
  | .failed error true => ((handler state).1, .error error)
  | .failed error false => (state, .error error)

@[simp]
theorem call_answered (handler : State → State × Except RpcError Answer)
    (state : State) : call handler .answered state = handler state := rfl

/-- The handler has run, whatever the client was told. -/
def Delivery.executed : Delivery → Bool
  | .answered => true
  | .failed _ executed => executed

theorem call_fst (handler : State → State × Except RpcError Answer)
    (delivery : Delivery) (state : State) :
    (call handler delivery state).1 =
      if delivery.executed then (handler state).1 else state := by
  cases delivery with
  | answered => rfl
  | failed error executed => cases executed <;> rfl

/-- What becomes of a call that has to pass two layers, the outer one first:
nothing behind a layer that fails it is told to the client, and nothing behind
one that does not let it through is run. -/
def Delivery.through (outer inner : Delivery) : Delivery :=
  match outer with
  | .answered => inner
  | .failed error executed => .failed error (executed && inner.executed)

theorem call_through (handler : State → State × Except RpcError Answer)
    (outer inner : Delivery) (state : State) :
    call (call handler inner) outer state =
      call handler (outer.through inner) state := by
  cases outer with
  | answered => rfl
  | failed error executed =>
      cases executed with
      | false => rfl
      | true =>
          have hstate := call_fst handler inner state
          rw [Delivery.through, Bool.true_and, call, hstate]
          cases inner.executed <;> rfl

/-- The server is where it was, or where the handler takes it. -/
theorem call_state (handler : State → State × Except RpcError Answer)
    (delivery : Delivery) (state : State) :
    (call handler delivery state).1 = state ∨
      (call handler delivery state).1 = (handler state).1 := by
  cases delivery with
  | answered => exact .inr rfl
  | failed error executed =>
      cases executed with
      | true => exact .inr rfl
      | false => exact .inl rfl

end OrderFlow.Grpc
