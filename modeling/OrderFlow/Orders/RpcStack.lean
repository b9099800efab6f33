import OrderFlow.Orders.GatedRuns
import OrderFlow.Orders.Service

/-!
# A call through all layers

`InventoryClient` over a channel with the interceptors that
`auth_client_interceptors` builds, and the server that `serve` builds on the
other end.  An attempt of a call is the handler of the servicer, delivered as
the network has it within the deadline, and then as the two tokens have it.
-/

namespace OrderFlow.Orders

open OrderFlow.Grpc
open OrderFlow.Inventory

/-! ## The channel -/

/-- The kinds of RPCs, in the order in which a channel sorts its
interceptors. -/
inductive RpcKind where
  | unaryUnary
  | unaryStream
  | streamUnary
  | streamStream
  deriving DecidableEq

def RpcKind.all : List RpcKind :=
  [.unaryUnary, .unaryStream, .streamUnary, .streamStream]

/-- An interceptor on `_AuthBase`: its mixins, and the token it keeps. -/
structure AuthClientInterceptor where
  mixins : List RpcKind
  token : String

/-- `auth_client_interceptors`. -/
def authClientInterceptors (token : String) : List AuthClientInterceptor :=
  [⟨[.unaryUnary], token⟩, ⟨[.streamUnary], token⟩, ⟨[.unaryStream], token⟩,
    ⟨[.streamStream], token⟩]

/-- An interceptor serves the first kind that it has the mixin of. -/
def AuthClientInterceptor.bucket? (interceptor : AuthClientInterceptor) :
    Option RpcKind :=
  RpcKind.all.find? fun kind => kind ∈ interceptor.mixins

/-- The call behind the interceptors of its kind. -/
def intercepted {Credentials : Type*}
    (interceptors : List AuthClientInterceptor) (kind : RpcKind)
    (details : ClientCallDetails Credentials) : ClientCallDetails Credentials :=
  (interceptors.filter fun interceptor =>
      interceptor.bucket? = some kind).foldl
    (fun details interceptor => withAuth interceptor.token details) details

/-- Whatever its kind is, a call gets the token, and gets it once. -/
theorem intercepted_auth {Credentials : Type*} (token : String)
    (kind : RpcKind) (details : ClientCallDetails Credentials) :
    intercepted (authClientInterceptors token) kind details =
      withAuth token details := by
  cases kind <;> rfl

/-- An object with all of the mixins would serve unary calls only. -/
theorem intercepted_single {Credentials : Type*} (token : String)
    {kind : RpcKind} (hkind : kind ≠ .unaryUnary)
    (details : ClientCallDetails Credentials) :
    intercepted [⟨RpcKind.all, token⟩] kind details = details := by
  cases kind with
  | unaryUnary => exact absurd rfl hkind
  | unaryStream | streamUnary | streamStream => rfl

/-! ## The client -/

/-- A method of the generated stub, with its coders. -/
structure Stub (Message : Type*) where
  method : String
  serialize : Message → Message
  deserialize : Message → Option Message

/-- How a call is delivered that arrives. -/
def tokenDelivery (clientToken serverToken : String) : Delivery :=
  if serverToken = "" ∨ clientToken = serverToken then .answered
  else .failed ⟨.unauthenticated, "invalid auth token"⟩ false

section Client

variable {State Message : Type*}

/-- What an `await` of a unary call gives. -/
def Stub.awaited (stub : Stub Message) (answer : Answer Message) :
    Except RpcError Message :=
  match answer.status, answer.messages with
  | some error, _ => .error error
  | none, message :: _ =>
      match stub.deserialize message with
      | some response => .ok response
      | none => .error ⟨.internal, "Exception deserializing response!"⟩
  | none, [] => .error ⟨.unknown, ""⟩

/-- The details of a unary call, behind the interceptors. -/
def Stub.details (stub : Stub Message) (token : String) (deadline : ℕ) :
    ClientCallDetails Unit :=
  intercepted (authClientInterceptors token) .unaryUnary
    ⟨stub.method, some deadline, none, none, none⟩

/-- One attempt of a unary call.  What becomes of an attempt with a timeout, by
the network or by the deadline, the `network` says. -/
def Stub.attempt (stub : Stub Message) (clientToken serverToken : String)
    (registry : String → Option (RpcMethodHandler State Message))
    (network : Option ℕ → Delivery) (deadline : ℕ) (request : Message)
    (server : Server State) : Server State × Except RpcError Message :=
  let details := stub.details clientToken deadline
  call (fun server =>
      let result := served serverToken registry server
        ⟨details.arriving, ⟨stub.serialize request, []⟩⟩
      (result.1, stub.awaited result.2))
    (network details.timeout) server

/-- What a method of the client raises. -/
inductive ClientError where
  | python (error : PyError)
  | rpc (error : RpcError)
  deriving DecidableEq

/-- A method of the client: it builds its message and makes an attempt. -/
def Stub.send (stub : Stub Message) (clientToken serverToken : String)
    (registry : String → Option (RpcMethodHandler State Message))
    (network : Option ℕ → Delivery) (deadline : ℕ)
    (request : Except PyError Message) (server : Server State) :
    Server State × Except ClientError Message :=
  match request with
  | .error error => (server, .error (.python error))
  | .ok message =>
      let result := stub.attempt clientToken serverToken registry network
        deadline message server
      (result.1, result.2.mapError .rpc)

theorem Stub.details_eq (stub : Stub Message) (token : String)
    (deadline : ℕ) : stub.details token deadline =
      withAuth token ⟨stub.method, some deadline, none, none, none⟩ :=
  intercepted_auth token .unaryUnary _

/-- The gate asks for nothing but the two tokens. -/
theorem Stub.admitted_iff {stub : Stub Message}
    {clientToken serverToken : String}
    (houtside : startsWith stub.method healthMethodPrefix = false)
    (deadline : ℕ) (sent : Sent Message) :
    Admitted serverToken ⟨(stub.details clientToken deadline).arriving, sent⟩ ↔
      serverToken = "" ∨ clientToken = serverToken := by
  have hmethod : startsWith (stub.details clientToken deadline).arriving.method
      healthMethodPrefix = false := by
    rw [stub.details_eq]
    exact houtside
  rw [Admitted, hmethod, stub.details_eq, lastToken?_withAuth]
  simp

end Client

/-! ## The two ends together -/

section Methods

variable {State Message : Type*} {stub : Stub Message}
  {clientToken serverToken : String}
  {registry : String → Option (RpcMethodHandler State Message)}
  {inner : Single Message State Message}
  {deserializer serializer : Option (Message → Option Message)}

/-- The coders of the two ends undo each other. -/
structure Stub.Coded (stub : Stub Message)
    (deserializer serializer : Option (Message → Option Message)) : Prop where
  request : ∀ message,
    code deserializer (stub.serialize message) = some message
  response : ∀ message,
    (code serializer message).bind stub.deserialize = some message

/-- The handler of a method, on the state of the server. -/
def methodOn (inner : Single Message State Message) (request : Message)
    (state : State) : State × Except RpcError Message :=
  ((inner request ⟨state, []⟩).1.state,
    (inner request ⟨state, []⟩).2.mapError
      (Raised.status callingApplication))

theorem Stub.awaited_answerSingle (hcoded : stub.Coded deserializer serializer)
    (result : Except Raised Message) :
    stub.awaited (answerSingle serializer result) =
      result.mapError (Raised.status callingApplication) := by
  cases result with
  | error raised => rfl
  | ok message =>
      obtain ⟨response, hresponse, hread⟩ :=
        Option.bind_eq_some_iff.mp (hcoded.response message)
      simp only [answerSingle, hresponse, awaited, hread]
      rfl

/-- A call that arrives is its handler, delivered as the tokens have it. -/
theorem Stub.served_eq (hplain : Plain registry)
    (hregistered : registry stub.method =
      some ⟨.unaryUnary inner, deserializer, serializer⟩)
    (hcoded : stub.Coded deserializer serializer)
    (houtside : startsWith stub.method healthMethodPrefix = false)
    (deadline : ℕ) (request : Message) (server : Server State) :
    (served serverToken registry server
        ⟨(stub.details clientToken deadline).arriving,
          ⟨stub.serialize request, []⟩⟩).1.state =
      (call (methodOn inner request) (tokenDelivery clientToken serverToken)
        server.state).1 ∧
    stub.awaited (served serverToken registry server
        ⟨(stub.details clientToken deadline).arriving,
          ⟨stub.serialize request, []⟩⟩).2 =
      (call (methodOn inner request) (tokenDelivery clientToken serverToken)
        server.state).2 := by
  have hadmits := @Stub.admitted_iff _ stub clientToken serverToken houtside
    deadline ⟨stub.serialize request, []⟩
  have hfound : registry (stub.details clientToken deadline).arriving.method =
      some ⟨.unaryUnary inner, deserializer, serializer⟩ := by
    rw [stub.details_eq]
    exact hregistered
  by_cases htokens : serverToken = "" ∨ clientToken = serverToken
  · obtain ⟨lines, hserved, _⟩ :=
      served_admitted hplain (hadmits.mpr htokens) server
    have honState : OnState inner := hplain _ _ hregistered
    have hhandled : handled registry server
        ⟨(stub.details clientToken deadline).arriving,
          ⟨stub.serialize request, []⟩⟩ =
          ((inner request server).1,
            answerSingle serializer (inner request server).2) := by
      simp only [handled, handleCall, query, hfound, runHandler,
        hcoded.request]
    rw [hserved, hhandled, tokenDelivery, if_pos htokens, call_answered,
      Stub.awaited_answerSingle hcoded, honState request server]
    exact ⟨rfl, rfl⟩
  · obtain ⟨lines, hserved, _⟩ := @served_stranger _ _ _ registry _
      (fun hadmitted => htokens (hadmits.mp hadmitted)) server
    rw [hserved, tokenDelivery, if_neg htokens, hfound]
    exact ⟨rfl, rfl⟩

/-- The state and the result of an attempt. -/
theorem Stub.attempt_eq (hplain : Plain registry)
    (hregistered : registry stub.method =
      some ⟨.unaryUnary inner, deserializer, serializer⟩)
    (hcoded : stub.Coded deserializer serializer)
    (houtside : startsWith stub.method healthMethodPrefix = false)
    (network : Option ℕ → Delivery) (deadline : ℕ) (request : Message)
    (server : Server State) :
    let result := stub.attempt clientToken serverToken registry network
      deadline request server
    (result.1.state, result.2) = call (methodOn inner request)
      ((network (some deadline)).through
        (tokenDelivery clientToken serverToken)) server.state := by
  obtain ⟨hstate, hanswer⟩ := @Stub.served_eq _ _ _ clientToken serverToken _ _
    _ _ hplain hregistered hcoded houtside deadline request server
  have htimeout : (stub.details clientToken deadline).timeout =
      some deadline := by
    rw [stub.details_eq]
    rfl
  simp only [attempt, htimeout]
  rw [← call_through]
  cases network (some deadline) with
  | answered => exact Prod.ext hstate hanswer
  | failed error executed =>
      cases executed with
      | true => exact Prod.ext hstate rfl
      | false => rfl

end Methods

/-! ## `InventoryClient` -/

/-- The client on its channel: its settings, and the messages and coders of the
generated code. -/
structure InventoryClient (Message : Type*) where
  token : String
  deadline : ℕ
  reserveStockMessage : ReserveStockRequest → Message
  releaseStockMessage : CharField128 → Message
  serialize : Message → Message
  deserialize : Message → Option Message

section Client

variable {State Message : Type*}

namespace InventoryClient

def reserveStockStub (client : InventoryClient Message) : Stub Message :=
  ⟨"/orderflow.inventory.v1.InventoryService/ReserveStock", client.serialize,
    client.deserialize⟩

def releaseStockStub (client : InventoryClient Message) : Stub Message :=
  ⟨"/orderflow.inventory.v1.InventoryService/ReleaseStock", client.serialize,
    client.deserialize⟩

variable (client : InventoryClient Message) (serverToken : String)
  (registry : String → Option (RpcMethodHandler State Message))
  (network : Option ℕ → Delivery)

/-- `reserve_stock`, in one attempt. -/
def reserveStock (orderRef : CharField128) (items : List (ℤ × ℤ))
    (idempotencyKey : CharField128) (server : Server State) :
    Server State × Except ClientError Message :=
  client.reserveStockStub.send client.token serverToken registry network
    client.deadline ((reserveStockRequest orderRef items idempotencyKey).map
      client.reserveStockMessage) server

/-- `release_stock`, in one attempt. -/
def releaseStock (orderRef : CharField128) (server : Server State) :
    Server State × Except ClientError Message :=
  client.releaseStockStub.send client.token serverToken registry network
    client.deadline (.ok (client.releaseStockMessage orderRef)) server

end InventoryClient

/-- The client gets what the handler answers, as far as it is delivered. -/
def IsDelivered (handler : State → State × Except RpcError Message)
    (delivery : Delivery) (before : Server State)
    (result : Server State × Except ClientError Message) : Prop :=
  result.1.state = (call handler delivery before.state).1 ∧
    result.2 = (call handler delivery before.state).2.mapError .rpc

theorem Stub.send_delivered {stub : Stub Message}
    {clientToken serverToken : String}
    {registry : String → Option (RpcMethodHandler State Message)}
    (hplain : Plain registry) {inner : Single Message State Message}
    {deserializer serializer : Option (Message → Option Message)}
    (hregistered : registry stub.method =
      some ⟨.unaryUnary inner, deserializer, serializer⟩)
    (hcoded : stub.Coded deserializer serializer)
    (houtside : startsWith stub.method healthMethodPrefix = false)
    (network : Option ℕ → Delivery) (deadline : ℕ) (request : Message)
    (server : Server State) :
    IsDelivered (methodOn inner request)
      ((network (some deadline)).through
        (tokenDelivery clientToken serverToken)) server
      (stub.send clientToken serverToken registry network deadline
        (.ok request) server) := by
  have hattempt := @Stub.attempt_eq _ _ _ clientToken serverToken _ _ _ _ hplain
    hregistered hcoded houtside network deadline request server
  rw [IsDelivered, ← hattempt]
  exact ⟨rfl, rfl⟩

/-- Through all layers, an attempt of one of the two calls that an order makes
is the method of the servicer, whatever the servicer does, delivered as the
network and the two tokens have it.  A message that cannot be built is not
sent. -/
theorem client_calls_servicer {client : InventoryClient Message}
    {serverToken : String}
    {registry : String → Option (RpcMethodHandler State Message)}
    (hplain : Plain registry) {reserve release : Single Message State Message}
    {reserveDeserializer reserveSerializer releaseDeserializer
      releaseSerializer : Option (Message → Option Message)}
    (hreserve : registry client.reserveStockStub.method =
      some ⟨.unaryUnary reserve, reserveDeserializer, reserveSerializer⟩)
    (hreserveCoded :
      client.reserveStockStub.Coded reserveDeserializer reserveSerializer)
    (hrelease : registry client.releaseStockStub.method =
      some ⟨.unaryUnary release, releaseDeserializer, releaseSerializer⟩)
    (hreleaseCoded :
      client.releaseStockStub.Coded releaseDeserializer releaseSerializer)
    (network : Option ℕ → Delivery) (orderRef : CharField128)
    (items : List (ℤ × ℤ)) (idempotencyKey : CharField128)
    (server : Server State) :
    ((∀ item ∈ items, InInt64 item.1 ∧ InInt32 item.2) →
      IsDelivered (methodOn reserve (client.reserveStockMessage
          ⟨orderRef, items.map fun item => ⟨item.1, item.2⟩, idempotencyKey⟩))
        ((network (some client.deadline)).through
          (tokenDelivery client.token serverToken)) server
        (client.reserveStock serverToken registry network orderRef items
          idempotencyKey server)) ∧
    ((¬ ∀ item ∈ items, InInt64 item.1 ∧ InInt32 item.2) →
      client.reserveStock serverToken registry network orderRef items
        idempotencyKey server = (server, .error (.python .valueError))) ∧
    IsDelivered (methodOn release (client.releaseStockMessage orderRef))
      ((network (some client.deadline)).through
        (tokenDelivery client.token serverToken)) server
      (client.releaseStock serverToken registry network orderRef server) := by
  have hreserveOutside : startsWith
      "/orderflow.inventory.v1.InventoryService/ReserveStock"
      healthMethodPrefix = false := by decide
  have hreleaseOutside : startsWith
      "/orderflow.inventory.v1.InventoryService/ReleaseStock"
      healthMethodPrefix = false := by decide
  refine ⟨fun hfits => ?_, fun hwide => ?_, ?_⟩
  · rw [InventoryClient.reserveStock, reserveStockRequest, if_pos hfits]
    exact Stub.send_delivered hplain hreserve hreserveCoded hreserveOutside
      network client.deadline _ server
  · rw [InventoryClient.reserveStock, reserveStockRequest, if_neg hwide]
    rfl
  · exact Stub.send_delivered hplain hrelease hreleaseCoded hreleaseOutside
      network client.deadline _ server

end Client

/-- A client of the unary handlers, with messages that are sent as they are. -/
def unaryClient : InventoryClient UnaryMessage where
  token := "secret"
  deadline := 5
  reserveStockMessage := .reserveStockRequest
  releaseStockMessage := .releaseStockRequest
  serialize := id
  deserialize := some

/-- The handler runs, and the deadline passes before its answer arrives. -/
def lateAnswer (_ : Option ℕ) : Delivery :=
  .failed ⟨.deadlineExceeded, "Deadline Exceeded"⟩ true

theorem client_calls_servicer_late :
    (unaryClient.reserveStock "secret" (unaryHandlers id) lateAnswer
        (.ofText "order-123") [(1, 2)] .empty ⟨seededDb, []⟩).2 =
      .error (.rpc ⟨.deadlineExceeded, "Deadline Exceeded"⟩) ∧
    (unaryClient.reserveStock "secret" (unaryHandlers id) lateAnswer
        (.ofText "order-123") [(1, 2)] .empty
        ⟨seededDb, []⟩).1.state.available? 1 = some 98 := by
  have hcoded : ∀ method, (⟨method, id, some⟩ : Stub UnaryMessage).Coded none
      none := fun method => ⟨fun _ => rfl, fun _ => rfl⟩
  obtain ⟨hdelivered, _, _⟩ := @client_calls_servicer _ _ unaryClient "secret" _
    (plain_unaryHandlers id) _ _ _ _ _ _ rfl (hcoded _) rfl (hcoded _)
    lateAnswer (.ofText "order-123") [(1, 2)] .empty ⟨seededDb, []⟩
  obtain ⟨hstate, hanswer⟩ := hdelivered (by decide)
  rw [hstate, hanswer]
  exact ⟨rfl, rfl⟩

end OrderFlow.Orders
