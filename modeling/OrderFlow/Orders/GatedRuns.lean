import OrderFlow.Core.GrpcRuns
import OrderFlow.Core.Unwinding
import OrderFlow.Orders.AuthGate

/-!
# The server over many calls

Calls with the token and calls without it, in any order.  Those without it are
invisible to the others, the interceptors change no answer, and the log has one
line for every call that gets to a handler.
-/

namespace OrderFlow.Orders

open OrderFlow.Grpc
open OrderFlow.Inventory
open OrderFlow.Unwinding

variable {State Message Request : Type*}

/-- One call to the server that `serve` builds. -/
def served (token : String)
    (registry : String → Option (RpcMethodHandler State Message))
    (server : Server State) (call : Call Message) :
    Server State × Answer Message :=
  serve token registry call.details call.sent server

/-- One call to the handlers themselves. -/
def handled (registry : String → Option (RpcMethodHandler State Message))
    (server : Server State) (call : Call Message) :
    Server State × Answer Message :=
  handleCall (query registry) call.details call.sent server

/-- The gate lets the call pass. -/
def Admitted (token : String) (call : Call Message) : Prop :=
  token = "" ∨ startsWith call.details.method healthMethodPrefix = true ∨
    lastToken? call.details = some token

instance (token : String) (call : Call Message) :
    Decidable (Admitted token call) :=
  inferInstanceAs (Decidable (_ ∨ _ ∨ _))

/-- Handlers that work on the state. -/
def Plain (registry : String → Option (RpcMethodHandler State Message)) :
    Prop :=
  ∀ method handler, registry method = some handler → handler.behavior.OnState

/-- Whatever the handlers answer can be serialized. -/
def Serializable (registry : String → Option (RpcMethodHandler State Message)) :
    Prop :=
  ∀ method handler, registry method = some handler → handler.Encodes

/-! ## The lines of a call -/

/-- How the status of a line compares with what the client gets: it is the
same, but for an exception that is no abort, which the line calls `None` and the
client gets as UNKNOWN. -/
def LoggedStatus.Tells : LoggedStatus → Option RpcError → Prop
  | .ok, status => status = none
  | .code (some code), status => status.map RpcError.code = some code
  | .code none, status => status.map RpcError.code = some .unknown

theorem LoggedStatus.tells_of (activity : String) (raised? : Option Raised) :
    Tells (.of raised?) (raised?.map (Raised.status activity)) := by
  rcases raised? with _ | _ | _ <;> rfl

/-- What a line of the log says about a call and its answer. -/
def Accounts (entry : Call Message × Answer Message) (record : LogRecord) :
    Prop :=
  ∃ status msgs, record = .finished entry.1.details.method status msgs ∧
    LoggedStatus.Tells status entry.2.status ∧
      ∀ count, msgs = some count → count = entry.2.messages.length

def isFinished : LogRecord → Bool
  | .finished _ _ _ => true
  | .rejecting _ => false

/-- What the lines have to say of a call. -/
def Logged (reaches : Bool) (call : Call Message) (answer : Answer Message)
    (lines : List LogRecord) : Prop :=
  List.Forall₂ Accounts (if reaches then [(call, answer)] else [])
    (lines.filter isFinished)

section Lines

variable {call : Call Message} {answer : Answer Message}

theorem Logged.nothing {lines : List LogRecord}
    (hlines : lines.filter isFinished = []) :
    Logged false call answer lines := by
  rw [Logged, hlines]
  exact .nil

theorem Logged.finished {lines : List LogRecord} {record : LogRecord}
    (haccounts : Accounts (call, answer) record)
    (hlines : lines.filter isFinished = [record].filter isFinished) :
    Logged true call answer lines := by
  have hfinished : isFinished record = true := by
    obtain ⟨_, _, rfl, _⟩ := haccounts
    rfl
  rw [Logged, hlines, List.filter_cons_of_pos hfinished]
  exact .cons haccounts .nil

end Lines

/-! ## The wrapper of `LoggingInterceptor` -/

/-- The exception of a single response. -/
def raised? : Except Raised Message → Option Raised
  | .error raised => some raised
  | .ok _ => none

section Wrapper

variable {method : String} {handler : RpcMethodHandler State Message}
  {serializer : Option (Message → Option Message)}

theorem timed_eq {inner : Single Request State Message}
    (honState : OnState inner) (request : Request) (server : Server State) :
    timed method inner request server =
      (⟨(inner request server).1.state, server.log ++
          [.finished method (.of (raised? (inner request server).2)) none]⟩,
        (inner request server).2) := by
  have hlog : (inner request server).1.log = server.log := by
    rw [honState request server]
  rw [timed]
  cases hresult : (inner request server).2 with
  | error raised | ok message =>
      simp only [Server.record, hlog, raised?, LoggedStatus.of]

/-- The line of a single response. -/
theorem answerSingle_tells (hencodes : ∀ message,
    (code serializer message).isSome) (result : Except Raised Message) :
    LoggedStatus.Tells (.of (raised? result))
      (answerSingle serializer result).status := by
  rw [answerSingle_status hencodes]
  cases result with
  | error raised =>
      exact LoggedStatus.tells_of callingApplication (some raised)
  | ok message => rfl

/-- The generator that counts answers as the one it iterates.  It writes its
line when it comes to its end, so always if all responses can be serialized. -/
theorem answerStream_counted (log : List LogRecord) (count : ℕ)
    (generator : Generator State Message) :
    ∃ lines, answerStream serializer
        (counted method count (generator.withLog log)) =
      (⟨(answerStream serializer generator).1.state, log ++ lines⟩,
        (answerStream serializer generator).2) ∧
      ((∀ message, (code serializer message).isSome) → ∃ status,
        lines = [.finished method status (some (count +
          (answerStream serializer generator).2.messages.length))] ∧
        LoggedStatus.Tells status
          (answerStream serializer generator).2.status) := by
  induction generator generalizing count with
  | ends server raised? =>
      exact ⟨_, rfl, fun _ => ⟨_, rfl,
        LoggedStatus.tells_of iteratingResponses raised?⟩⟩
  | yields server message rest ih =>
      rw [Generator.withLog, counted, answerStream, answerStream]
      cases hcode : code serializer message with
      | none =>
          refine ⟨[], ?_, fun hencodes => ?_⟩
          · rw [List.append_nil]
          · simpa [hcode] using hencodes message
      | some response =>
          obtain ⟨lines, hrest, hline⟩ := ih (count + 1)
          refine ⟨lines, by simp only [hrest], fun hencodes => ?_⟩
          obtain ⟨status, rfl, htells⟩ := hline hencodes
          exact ⟨status, by simp [add_assoc, add_comm 1], htells⟩

/-- The wrapper writes lines and changes nothing else. -/
theorem runHandler_wrap (honState : handler.behavior.OnState)
    (call : Call Message) (server : Server State) :
    ∃ lines,
      runHandler (LoggingInterceptor.wrap call.details.method handler)
          call.sent server =
        (⟨(runHandler handler call.sent server).1.state,
            server.log ++ lines⟩,
          (runHandler handler call.sent server).2) ∧
        (handler.Encodes → Logged (handler.Decodes call.sent) call
          (runHandler handler call.sent server).2 lines) := by
  have hsingle : ∀ {Asked : Type _} {inner : Single Asked State Message}
      (request : Asked), OnState inner →
      ∃ lines, timed call.details.method inner request server =
          (⟨(inner request server).1.state, server.log ++ lines⟩,
            (inner request server).2) ∧
        (handler.Encodes → Logged true call
          (answerSingle handler.responseSerializer
            (inner request server).2) lines) := by
    intro Asked inner request hinner
    refine ⟨_, timed_eq hinner request server, fun hencodes =>
      .finished ⟨_, _, rfl, answerSingle_tells hencodes _, by simp⟩ rfl⟩
  have hstream : ∀ {Asked : Type _} {inner : Streaming Asked State Message}
      (request : Asked), StreamsOnState inner →
      ∃ lines, answerStream handler.responseSerializer
          (timedStream call.details.method inner request server) =
          (⟨(answerStream handler.responseSerializer
              (inner request server)).1.state, server.log ++ lines⟩,
            (answerStream handler.responseSerializer
              (inner request server)).2) ∧
        (handler.Encodes → Logged true call
          (answerStream handler.responseSerializer
            (inner request server)).2 lines) := by
    intro Asked inner request hinner
    obtain ⟨lines, hanswer, hline⟩ := @answerStream_counted _ _
      call.details.method handler.responseSerializer server.log 0
      (inner request ⟨server.state, []⟩)
    refine ⟨lines, ?_, fun hencodes => ?_⟩
    · rw [timedStream, hinner request server, hanswer, answerStream_withLog]
    · obtain ⟨status, rfl, htells⟩ := hline hencodes
      rw [hinner request server, answerStream_withLog]
      refine .finished ⟨_, _, rfl, htells, ?_⟩ rfl
      rintro count hcount
      rw [← Option.some.inj hcount, zero_add]
  obtain ⟨behavior, requestDeserializer, responseSerializer⟩ := handler
  cases behavior with
  | unaryUnary inner =>
      cases hrequest : code requestDeserializer call.sent.message with
      | none =>
          refine ⟨[], ?_, fun _ => ?_⟩
          · simp only [runHandler, LoggingInterceptor.wrap, hrequest,
              List.append_nil]
          · simp only [RpcMethodHandler.Decodes, hrequest]
            exact .nothing rfl
      | some request =>
          obtain ⟨lines, htimed, hlogged⟩ := hsingle request honState
          refine ⟨lines, ?_, fun hencodes => ?_⟩
          · simp only [runHandler, LoggingInterceptor.wrap, hrequest, htimed]
          · simp only [runHandler, RpcMethodHandler.Decodes, hrequest]
            exact hlogged hencodes
  | unaryStream inner =>
      cases hrequest : code requestDeserializer call.sent.message with
      | none =>
          refine ⟨[], ?_, fun _ => ?_⟩
          · simp only [runHandler, LoggingInterceptor.wrap, hrequest,
              List.append_nil]
          · simp only [RpcMethodHandler.Decodes, hrequest]
            exact .nothing rfl
      | some request =>
          obtain ⟨lines, htimed, hlogged⟩ := hstream request honState
          refine ⟨lines, ?_, fun hencodes => ?_⟩
          · simp only [runHandler, LoggingInterceptor.wrap, hrequest]
            exact htimed
          · simp only [runHandler, RpcMethodHandler.Decodes, hrequest]
            exact hlogged hencodes
  | streamUnary inner =>
      obtain ⟨lines, htimed, hlogged⟩ := hsingle
        (call.sent.stream.map (code requestDeserializer)) honState
      refine ⟨lines, ?_, hlogged⟩
      simp only [runHandler, LoggingInterceptor.wrap, htimed]
  | streamStream inner =>
      obtain ⟨lines, htimed, hlogged⟩ := hstream
        (call.sent.stream.map (code requestDeserializer)) honState
      exact ⟨lines, htimed, hlogged⟩

end Wrapper

/-! ## One call -/

section Calls

variable {token : String}
  {registry : String → Option (RpcMethodHandler State Message)}
  {call : Call Message}

/-- The call gets to a handler, be it the one that aborts. -/
def Reaches (token : String)
    (registry : String → Option (RpcMethodHandler State Message))
    (call : Call Message) : Bool :=
  match registry call.details.method with
  | none => false
  | some handler => handler.Decodes call.sent || !decide (Admitted token call)

/-- The gate is open for a call that is admitted. -/
theorem serve_of_admitted (hadmitted : Admitted token call) :
    serve token registry call.details =
      serveUngated registry call.details := by
  rcases hadmitted with rfl | hhealth | hlast
  · funext sent server
    simp only [serve, serveUngated, handleCall, pipeline, List.foldr_cons,
      List.foldr_nil, LoggingInterceptor.interceptService,
      AuthInterceptor.interceptService, if_true]
  · funext sent server
    simp only [serve, serveUngated, handleCall, pipeline, List.foldr_cons,
      List.foldr_nil, LoggingInterceptor.interceptService,
      AuthInterceptor.interceptService, hhealth, if_true, ite_self]
  · exact serve_of_lastToken hlast

/-- An admitted call is answered by its handler. -/
theorem served_admitted (hplain : Plain registry)
    (hadmitted : Admitted token call) (server : Server State) :
    ∃ lines, served token registry server call =
        (⟨(handled registry server call).1.state, server.log ++ lines⟩,
          (handled registry server call).2) ∧
      (Serializable registry → Logged (Reaches token registry call) call
        (handled registry server call).2 lines) := by
  rw [served, serve_of_admitted hadmitted]
  cases hregistered : registry call.details.method with
  | none =>
      have hreaches : Reaches token registry call = false := by
        simp only [Reaches, hregistered]
      refine ⟨[], ?_, fun _ => ?_⟩
      · simp only [serveUngated, handled, handleCall, pipeline,
          List.foldr_cons, List.foldr_nil,
          LoggingInterceptor.interceptService, query, hregistered,
          List.append_nil]
      · rw [hreaches]
        exact .nothing rfl
  | some handler =>
      have hreaches : Reaches token registry call =
          handler.Decodes call.sent := by
        simp only [Reaches, hregistered, hadmitted, decide_true, Bool.not_true,
          Bool.or_false]
      have hhandled : handled registry server call =
          runHandler handler call.sent server := by
        simp only [handled, handleCall, query, hregistered]
      have hserved : serveUngated registry call.details call.sent server =
          runHandler (LoggingInterceptor.wrap call.details.method handler)
            call.sent server := by
        simp only [serveUngated, handleCall, pipeline, List.foldr_cons,
          List.foldr_nil, LoggingInterceptor.interceptService, query,
          hregistered]
      rw [hreaches, hhandled, hserved]
      obtain ⟨lines, hrun, hlogged⟩ :=
        runHandler_wrap (hplain _ _ hregistered) call server
      exact ⟨lines, hrun, fun hserializable =>
        hlogged (hserializable _ _ hregistered)⟩

/-- What a call without the token is answered. -/
def rejection (registered : Bool) : Answer Message :=
  if registered then .failed ⟨.unauthenticated, "invalid auth token"⟩
  else .failed ⟨.unknown, "Error in service handler!"⟩

/-- A handler that aborts leaves a line, too. -/
theorem runHandler_abort_logged {error : RpcError}
    {handler abort : RpcMethodHandler State Message}
    (habort : abortHandler (some handler) error = .ok abort)
    (call : Call Message) (server : Server State) :
    ∃ record,
      runHandler (LoggingInterceptor.wrap call.details.method abort)
          call.sent server =
        (⟨server.state, server.log ++ [record]⟩, .failed error) ∧
        Accounts (call, .failed error) record := by
  rw [abortHandler] at habort
  cases hbehavior : handler.behavior with
  | unaryUnary | streamUnary =>
      rw [hbehavior] at habort
      obtain rfl := Except.ok.inj habort
      exact ⟨.finished _ (.code (some error.code)) none, rfl, _, _, rfl, rfl,
        by simp⟩
  | unaryStream | streamStream =>
      rw [hbehavior] at habort
      obtain rfl := Except.ok.inj habort
      refine ⟨.finished _ (.code (some error.code)) (some 0), rfl, _, _, rfl,
        rfl, ?_⟩
      rintro count hcount
      cases hcount
      rfl

/-- Any other call touches nothing but the log. -/
theorem served_stranger (hstranger : ¬ Admitted token call)
    (server : Server State) :
    ∃ lines, served token registry server call =
        (⟨server.state, server.log ++ lines⟩,
          rejection (registry call.details.method).isSome) ∧
      Logged (Reaches token registry call) call
        (rejection (registry call.details.method).isSome) lines := by
  have houts := hstranger
  simp only [Admitted, not_or, Bool.not_eq_true] at houts
  obtain ⟨htoken, houtside, hlast⟩ := houts
  cases hregistered : registry call.details.method with
  | none =>
      have hreaches : Reaches token registry call = false := by
        simp only [Reaches, hregistered]
      rw [hreaches]
      exact ⟨[.rejecting call.details.method],
        serve_unregistered htoken houtside hlast hregistered _ _, .nothing rfl⟩
  | some handler =>
      have hreaches : Reaches token registry call = true := by
        simp only [Reaches, hregistered, hstranger, decide_false,
          Bool.not_false, Bool.or_true]
      obtain ⟨abort, habort⟩ : ∃ abort, abortHandler (some handler)
          ⟨.unauthenticated, "invalid auth token"⟩ = .ok abort := by
        rw [abortHandler]
        cases handler.behavior with
        | unaryUnary | unaryStream | streamUnary | streamStream =>
            exact ⟨_, rfl⟩
      have hserved : served token registry server call =
          runHandler (LoggingInterceptor.wrap call.details.method abort)
            call.sent (server.record (.rejecting call.details.method)) := by
        simp only [served, serve, handleCall, pipeline, List.foldr_cons,
          List.foldr_nil, LoggingInterceptor.interceptService,
          auth_rejects htoken houtside hlast, hregistered, habort, Except.map]
      obtain ⟨record, hrun, haccounts⟩ := runHandler_abort_logged habort call
        (server.record (.rejecting call.details.method))
      rw [hreaches, hserved, hrun]
      refine ⟨[.rejecting call.details.method, record], ?_,
        .finished haccounts rfl⟩
      rw [Server.record, List.append_assoc]
      rfl

end Calls

/-! ## Many calls -/

section Runs

variable {token : String}
  {registry : String → Option (RpcMethodHandler State Message)}

/-- Only the calls that are admitted count, and they count as if they went to
the handlers. -/
theorem unwinds_served (hplain : Plain registry) :
    Unwinds (served token registry) (handled registry) (Admitted token)
      (fun server other => server.state = other.state) where
  counted server other call hsame hadmitted := by
    obtain ⟨lines, hserved, _⟩ := served_admitted hplain hadmitted server
    have hhandled : ∀ server : Server State, handled registry server call =
        (⟨(handled registry ⟨server.state, []⟩ call).1.state, server.log⟩,
          (handled registry ⟨server.state, []⟩ call).2) := by
      intro server
      simp only [handled, handleCall, query]
      cases hregistered : registry call.details.method with
      | none => rfl
      | some handler =>
          exact runHandler_onState (hplain _ _ hregistered) _ server
    rw [hserved, hhandled server, hhandled other, hsame]
    exact ⟨rfl, rfl⟩
  silent server other call hsame hstranger := by
    obtain ⟨lines, hserved, _⟩ := @served_stranger _ _ _ registry _ hstranger
      server
    rw [hserved]
    exact hsame

theorem plain_unaryHandlers (clock : ℕ → ℕ) : Plain (unaryHandlers clock) := by
  intro method handler hregistered
  rw [unaryHandlers] at hregistered
  split_ifs at hregistered
  · cases hregistered
    intro message server
    cases message <;> rfl
  · cases hregistered
    intro message server
    cases message <;> rfl

/-- Somebody without the token tries to release an order before and after it
is reserved, and calls a method that does not exist. -/
def guesses : List (Call UnaryMessage) :=
  [⟨repeatedToken, releaseOrder⟩,
    ⟨⟨"/orderflow.inventory.v1.InventoryService/ReserveStock",
        some [("x-auth-token", "secret")]⟩,
      ⟨.reserveStockRequest ⟨.ofText "order-123", [⟨1, 2⟩], .empty⟩, []⟩⟩,
    ⟨repeatedToken, releaseOrder⟩, ⟨unknownMethod, releaseOrder⟩]

/-- Calls without the token, however many there are and whatever they ask for,
change no state and no answer of the others, which are served as if there were
no interceptors. -/
theorem strangers_change_nothing (hplain : Plain registry)
    (server : Server State) (calls : List (Call Message)) :
    (after (served token registry) server calls).state =
        (after (handled registry) server
          (calls.filter fun call => Admitted token call)).state ∧
      (transcript (served token registry) server calls).filter
          (fun entry => Admitted token entry.1) =
        transcript (handled registry) server
          (calls.filter fun call => Admitted token call) :=
  ⟨(unwinds_served hplain).related rfl calls,
    (unwinds_served hplain).answers rfl calls⟩

theorem strangers_change_nothing_guesses :
    (guesses.filter fun call => Admitted "secret" call).length = 1 ∧
      (after (served "secret" (unaryHandlers id)) ⟨seededDb, []⟩
        guesses).state.available? 1 = some 98 ∧
      (transcript (served "secret" (unaryHandlers id)) ⟨seededDb, []⟩
          guesses).filter (fun entry => Admitted "secret" entry.1) =
        transcript (handled (unaryHandlers id)) ⟨seededDb, []⟩
          (guesses.filter fun call => Admitted "secret" call) := by
  obtain ⟨hstate, hanswers⟩ := @strangers_change_nothing _ _ "secret" _
    (plain_unaryHandlers id) ⟨seededDb, []⟩ guesses
  refine ⟨rfl, ?_, hanswers⟩
  rw [hstate]
  rfl

end Runs

end OrderFlow.Orders
