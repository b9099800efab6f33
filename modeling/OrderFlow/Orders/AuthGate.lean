import OrderFlow.Inventory.Feasibility
import OrderFlow.Inventory.Interceptors
import OrderFlow.Inventory.Servicer

/-!
# The auth gate

The client puts its token behind the metadata it is given, and the server
admits a call whose last token is its own.  `_abort_handler` asks the handler
that was found for its kind, and so a call without the token to a method that
does not exist is no longer answered by the gate.
-/

namespace OrderFlow.Orders

open OrderFlow.Grpc
open OrderFlow.Inventory

variable {State Message Credentials : Type*}

/-! ## The client -/

/-- `grpc.aio.ClientCallDetails`. -/
structure ClientCallDetails (Credentials : Type*) where
  method : String
  timeout : Option ℕ
  metadata : Option (List (String × String))
  credentials : Option Credentials
  waitForReady : Option Bool

/-- `_AuthBase._with_auth`. -/
def withAuth (token : String) (details : ClientCallDetails Credentials) :
    ClientCallDetails Credentials where
  method := details.method
  timeout := details.timeout
  metadata :=
    some (details.metadata.getD [] ++ [(authMetadataKey, token)])
  credentials := details.credentials
  waitForReady := details.waitForReady

/-- The call as the server gets it. -/
def ClientCallDetails.arriving (details : ClientCallDetails Credentials) :
    HandlerCallDetails :=
  ⟨details.method, details.metadata⟩

/-! ## What the gate promises -/

/-- The last token of a call. -/
def lastToken? (details : HandlerCallDetails) : Option String :=
  lastValue? (details.invocationMetadata.getD []) authMetadataKey

/-- The call is answered UNAUTHENTICATED, and no handler has touched the
state. -/
def Refused (before : Server State) (result : Server State × Answer Message) :
    Prop :=
  result.1.state = before.state ∧
    result.2 = .failed ⟨.unauthenticated, "invalid auth token"⟩

/-- Outside the health service a call without the token is refused, and a
client with the token is served as if there were no gate. -/
structure Gated (token : String)
    (registry : String → Option (RpcMethodHandler State Message))
    (details : HandlerCallDetails) (sent : Sent Message)
    (server : Server State) : Prop where
  refused : startsWith details.method healthMethodPrefix = false →
    lastToken? details ≠ some token →
      Refused server (serve token registry details sent server)
  admitted : ∀ client : ClientCallDetails Unit,
    serve token registry (withAuth token client).arriving sent server =
      serveUngated registry (withAuth token client).arriving sent server

/-! ## Both interceptors -/

section Gate

variable {token : String}
  {registry : String → Option (RpcMethodHandler State Message)}
  {details : HandlerCallDetails}

/-- The gate lets a call with the token pass. -/
theorem auth_admits (hlast : lastToken? details = some token) :
    AuthInterceptor.interceptService token (query registry) details =
      query registry details := by
  funext server
  rw [AuthInterceptor.interceptService]
  have hpresented : dict (details.invocationMetadata.getD [])
      authMetadataKey = some token := (dict_eq_lastValue? _ _).trans hlast
  simp only [query, hpresented, ne_eq, not_true_eq_false, if_false, ite_self]

theorem serve_of_lastToken (hlast : lastToken? details = some token) :
    serve token registry details = serveUngated registry details := by
  funext sent server
  simp only [serve, serveUngated, handleCall, pipeline, List.foldr_cons,
    List.foldr_nil, LoggingInterceptor.interceptService, auth_admits hlast]

/-- The token that the client appends is the last one. -/
theorem lastToken?_withAuth (token : String)
    (client : ClientCallDetails Credentials) :
    lastToken? (withAuth token client).arriving = some token := by
  rw [lastToken?, ← dict_eq_lastValue?]
  exact (dict_concat _ _ _).trans (if_pos rfl)

/-- The gate puts the handler that aborts in place of the one it found. -/
theorem auth_rejects (htoken : token ≠ "")
    (houtside : startsWith details.method healthMethodPrefix = false)
    (hlast : lastToken? details ≠ some token) (server : Server State) :
    AuthInterceptor.interceptService token (query registry) details server =
      (server.record (.rejecting details.method),
        (abortHandler (registry details.method)
          ⟨.unauthenticated, "invalid auth token"⟩).map some) := by
  have hpresented : dict (details.invocationMetadata.getD [])
      authMetadataKey ≠ some token := fun hsame =>
    hlast ((dict_eq_lastValue? _ _).symm.trans hsame)
  rw [AuthInterceptor.interceptService, if_neg htoken, houtside,
    if_neg Bool.false_ne_true]
  exact if_pos hpresented

/-- A handler that aborts is of the kind of the one it stands for, and the log
line does not change its answer. -/
theorem runHandler_abort {error : RpcError} {method : String}
    {handler abort : RpcMethodHandler State Message}
    (habort : abortHandler (some handler) error = .ok abort)
    (sent : Sent Message) (server : Server State) :
    (runHandler (LoggingInterceptor.wrap method abort) sent server).1.state =
        server.state ∧
      (runHandler (LoggingInterceptor.wrap method abort) sent server).2 =
        .failed error := by
  rw [abortHandler] at habort
  cases hbehavior : handler.behavior with
  | unaryUnary | unaryStream | streamUnary | streamStream =>
      rw [hbehavior] at habort
      obtain rfl := Except.ok.inj habort
      exact ⟨rfl, rfl⟩

/-- Without the token a call to a method that exists is refused. -/
theorem serve_refused (htoken : token ≠ "")
    (houtside : startsWith details.method healthMethodPrefix = false)
    (hlast : lastToken? details ≠ some token)
    (hregistered : (registry details.method).isSome) (sent : Sent Message)
    (server : Server State) :
    Refused server (serve token registry details sent server) := by
  obtain ⟨handler, hhandler⟩ := Option.isSome_iff_exists.mp hregistered
  obtain ⟨abort, habort⟩ : ∃ abort, abortHandler (some handler)
      ⟨.unauthenticated, "invalid auth token"⟩ = .ok abort := by
    rw [abortHandler]
    cases handler.behavior with
    | unaryUnary | unaryStream | streamUnary | streamStream => exact ⟨_, rfl⟩
  have hserve : serve token registry details sent server =
      runHandler (LoggingInterceptor.wrap details.method abort) sent
        (server.record (.rejecting details.method)) := by
    simp only [serve, handleCall, pipeline, List.foldr_cons, List.foldr_nil,
      LoggingInterceptor.interceptService,
      auth_rejects htoken houtside hlast, hhandler, habort, Except.map]
  rw [Refused, hserve]
  exact runHandler_abort habort sent _

/-- To a method that does not exist it is an internal error. -/
theorem serve_unregistered (htoken : token ≠ "")
    (houtside : startsWith details.method healthMethodPrefix = false)
    (hlast : lastToken? details ≠ some token)
    (hunregistered : registry details.method = none) (sent : Sent Message)
    (server : Server State) :
    serve token registry details sent server =
      (server.record (.rejecting details.method),
        .failed ⟨.unknown, "Error in service handler!"⟩) := by
  simp only [serve, handleCall, pipeline, List.foldr_cons, List.foldr_nil,
    LoggingInterceptor.interceptService, auth_rejects htoken houtside hlast,
    hunregistered, abortHandler, Except.map]

/-- Whatever the method is, no handler runs without the token. -/
theorem serve_unauthenticated_state (htoken : token ≠ "")
    (houtside : startsWith details.method healthMethodPrefix = false)
    (hlast : lastToken? details ≠ some token) (sent : Sent Message)
    (server : Server State) :
    (serve token registry details sent server).1.state = server.state := by
  cases hregistered : registry details.method with
  | none =>
      rw [serve_unregistered htoken houtside hlast hregistered]
      rfl
  | some handler =>
      exact (serve_refused htoken houtside hlast
        (by rw [hregistered]; rfl) sent server).1

end Gate

/-- The gate keeps its promise for a call, unless its method is unknown
outside the health service and its last token is not the server's. -/
theorem gated_iff {token : String} (htoken : token ≠ "")
    (registry : String → Option (RpcMethodHandler State Message))
    (details : HandlerCallDetails) (sent : Sent Message)
    (server : Server State) :
    Gated token registry details sent server ↔
      (registry details.method).isSome ∨
        startsWith details.method healthMethodPrefix = true ∨
          lastToken? details = some token := by
  constructor
  · intro hgated
    by_contra hnone
    simp only [not_or, Bool.not_eq_true] at hnone
    obtain ⟨hunregistered, houtside, hlast⟩ := hnone
    have hunregistered' : registry details.method = none := by
      simpa using hunregistered
    have hanswer := (hgated.refused houtside hlast).2
    rw [serve_unregistered htoken houtside hlast hunregistered'] at hanswer
    simp [Answer.failed] at hanswer
  · intro hcondition
    refine ⟨fun houtside hlast => ?_, fun client => ?_⟩
    · rcases hcondition with hregistered | hhealth | hsame
      · exact serve_refused htoken houtside hlast hregistered sent server
      · exact absurd (hhealth.symm.trans houtside) Bool.noConfusion
      · exact absurd hsame hlast
    · rw [serve_of_lastToken (lastToken?_withAuth token client)]

/-! ## The unary methods -/

inductive UnaryMessage where
  | reserveStockRequest (request : ReserveStockRequest)
  | reserveStockResponse (outcome : ReservationOutcome)
  | releaseStockRequest (orderRef : CharField128)
  | releaseStockResponse (outcome : ReleaseOutcome)
  deriving DecidableEq

/-- A servicer method on the tables of the server. -/
def unaryMethod {Response : Type*}
    (method : InventoryDb → InventoryDb × Except RpcError Response)
    (respond : Response → UnaryMessage) (server : Server InventoryDb) :
    Server InventoryDb × Except Raised UnaryMessage :=
  let result := method server.state
  ({ server with state := result.1 },
    match result.2 with
    | .ok response => .ok (respond response)
    | .error error => .error (.aborted error))

def reserveStockHandler (clock : ℕ → ℕ) :
    RpcMethodHandler InventoryDb UnaryMessage where
  behavior := .unaryUnary fun message server =>
    match message with
    | .reserveStockRequest request =>
        unaryMethod (InventoryServicer.reserveStock request clock)
          .reserveStockResponse server
    | _ => (server, .error (.exception "order_ref"))

def releaseStockHandler : RpcMethodHandler InventoryDb UnaryMessage where
  behavior := .unaryUnary fun message server =>
    match message with
    | .releaseStockRequest orderRef =>
        unaryMethod (InventoryServicer.releaseStock orderRef)
          .releaseStockResponse server
    | _ => (server, .error (.exception "order_ref"))

/-- The unary part of `add_InventoryServiceServicer_to_server`. -/
def unaryHandlers (clock : ℕ → ℕ) (method : String) :
    Option (RpcMethodHandler InventoryDb UnaryMessage) :=
  if method = "/orderflow.inventory.v1.InventoryService/ReserveStock" then
    some (reserveStockHandler clock)
  else if method = "/orderflow.inventory.v1.InventoryService/ReleaseStock" then
    some releaseStockHandler
  else none

/-- Releases an order, and presents the right token before a wrong one. -/
def repeatedToken : HandlerCallDetails where
  method := "/orderflow.inventory.v1.InventoryService/ReleaseStock"
  invocationMetadata :=
    some [("x-auth-token", "secret"), ("x-auth-token", "guess")]

def releaseOrder : Sent UnaryMessage :=
  ⟨.releaseStockRequest (.ofText "order-123"), []⟩

theorem gated_repeatedToken :
    Gated "secret" (unaryHandlers id) repeatedToken releaseOrder
      ⟨seededDb, []⟩ :=
  (gated_iff (by decide) (unaryHandlers id) repeatedToken releaseOrder
    ⟨seededDb, []⟩).mpr (.inl (by decide))

/-- A method that the service does not have, called without a token. -/
def unknownMethod : HandlerCallDetails where
  method := "/orderflow.inventory.v1.InventoryService/CancelOrder"
  invocationMetadata := none

/-- The gate fails before it can answer UNAUTHENTICATED. -/
theorem unknownMethod_not_gated :
    ¬ Gated "secret" (unaryHandlers id) unknownMethod releaseOrder
      ⟨seededDb, []⟩ := by
  intro hgated
  have hanswer := (hgated.refused (by decide) (by decide)).2
  have hinternal : (serve "secret" (unaryHandlers id) unknownMethod
      releaseOrder ⟨seededDb, []⟩).2 =
        .failed ⟨.unknown, "Error in service handler!"⟩ := rfl
  rw [hinternal] at hanswer
  exact absurd hanswer (by decide)

end OrderFlow.Orders
