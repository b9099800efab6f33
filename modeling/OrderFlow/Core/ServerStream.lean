import OrderFlow.Core.Grpc
import Mathlib.Data.Nat.Notation

/-!
# Server-streaming gRPC calls

The messages of a response stream as its reader takes them off: one after the
other, until the stream ends or fails.
-/

namespace OrderFlow.Grpc

inductive Messages (α : Type) where
  | done
  | failed (error : RpcError)
  | next (message : α) (rest : Messages α)

namespace Messages

variable {α : Type}

/-- A stream of these messages that comes to its end. -/
def ofList : List α → Messages α
  | [] => .done
  | message :: messages => .next message (ofList messages)

/-- The call is cut off with an error after so many messages. -/
def interrupt (error : RpcError) : ℕ → Messages α → Messages α
  | 0, _ => .failed error
  | position + 1, .next message rest =>
      .next message (interrupt error position rest)
  | _ + 1, stream => stream

/-- What becomes of the stream on its way. -/
def deliver (failure : Option (ℕ × RpcError)) (stream : Messages α) :
    Messages α :=
  match failure with
  | none => stream
  | some (position, error) => stream.interrupt error position

/-- `async for message in stream: yield message`. -/
def reyield : Messages α → Messages α
  | .done => .done
  | .failed error => .failed error
  | .next message rest => .next message rest.reyield

/-- The messages that arrive. -/
def received : Messages α → List α
  | .done => []
  | .failed _ => []
  | .next message rest => message :: rest.received

@[simp]
theorem reyield_eq (stream : Messages α) : stream.reyield = stream := by
  induction stream with
  | done => rfl
  | failed error => rfl
  | next message rest ih => rw [reyield, ih]

theorem received_ofList (messages : List α) :
    (ofList messages).received = messages := by
  induction messages with
  | nil => rfl
  | cons message messages ih => rw [ofList, received, ih]

theorem received_interrupt (error : RpcError) (position : ℕ)
    (stream : Messages α) :
    (stream.interrupt error position).received =
      stream.received.take position := by
  induction stream generalizing position with
  | done => cases position <;> simp [interrupt, received]
  | failed failure => cases position <;> simp [interrupt, received]
  | next message rest ih =>
      cases position with
      | zero => simp [interrupt, received]
      | succ position => simp [interrupt, received, ih]

/-- A stream of messages does not begin with an error, unless it is cut off
there. -/
theorem interrupt_ofList_ne_failed (error other : RpcError) (position : ℕ)
    (messages : List α) :
    (ofList messages).interrupt error (position + 1) ≠ .failed other := by
  cases messages <;> simp [ofList, interrupt]

theorem ofList_ne_failed (messages : List α) (error : RpcError) :
    ofList messages ≠ .failed error := by
  cases messages <;> simp [ofList]

end Messages

end OrderFlow.Grpc
