import OrderFlow.Inventory.Notifications

/-!
# What the listener survives

Every failure of the driver, and every payload but two kinds: an object whose
`product_id` is an infinite float, and a text nested too deep.
-/

namespace OrderFlow.Inventory.Notifications

open OrderFlow.Json
open OrderFlow.Python (Exception intOf intOf_error)
open OrderFlow.TransitionSystem

/-! ## Payloads -/

/-- The id in a payload: the `product_id` of a JSON object, converted. -/
def productId? (limit : ℕ) (payload : String) : Option ℤ :=
  match loads limit payload.toList with
  | .ok (.object members) =>
      (lookup? members productIdKey).bind fun value =>
        match intOf value with
        | .ok productId => some productId
        | .error _ => none
  | _ => none

/-- An exception that `_parse_product_id` does not catch comes of it. -/
def Escapes (limit : ℕ) (payload : String) : Prop :=
  loads limit payload.toList = .error .recursionError ∨
    ∃ members negative, loads limit payload.toList = .ok (.object members) ∧
      lookup? members productIdKey = some (.float (.infinite negative))

/-- The three exceptions of the `except` clause. -/
def Caught (exception : Exception) : Prop :=
  exception = .valueError ∨ exception = .keyError ∨ exception = .typeError

section Payloads

variable {limit : ℕ} {payload : String}

theorem productId?_eq (limit : ℕ) (payload : String) :
    productId? limit payload =
      match readProductId limit payload with
      | .ok productId => some productId
      | .error _ => none := by
  rw [productId?, readProductId]
  cases loads limit payload.toList with
  | error error => rfl
  | ok value =>
      cases value with
      | object members =>
          simp only [subscript]
          cases lookup? members productIdKey <;> rfl
      | _ => rfl

theorem escapes_iff :
    Escapes limit payload ↔
      ∃ exception, readProductId limit payload = .error exception ∧
        ¬ Caught exception := by
  constructor
  · rintro (hdeep | ⟨members, negative, hloads, hmember⟩)
    · refine ⟨.recursionError, ?_, by simp [Caught]⟩
      rw [readProductId, hdeep]
      rfl
    · refine ⟨.overflowError, ?_, by simp [Caught]⟩
      rw [readProductId, hloads]
      simp only [subscript, hmember]
      rfl
  · rintro ⟨exception, hread, huncaught⟩
    rw [readProductId] at hread
    cases hloads : loads limit payload.toList with
    | error error =>
        rw [hloads] at hread
        cases hread
        cases error with
        | valueError => exact absurd (.inl rfl) huncaught
        | recursionError => exact .inl hloads
    | ok value =>
        rw [hloads] at hread
        cases value with
        | object members =>
            simp only [subscript] at hread
            cases hmember : lookup? members productIdKey with
            | none =>
                rw [hmember] at hread
                cases hread
                exact absurd (.inr (.inl rfl)) huncaught
            | some member =>
                rw [hmember] at hread
                rcases intOf_error hread with rfl | rfl | ⟨_, negative, rfl⟩
                · exact absurd (.inl rfl) huncaught
                · exact absurd (.inr (.inr rfl)) huncaught
                · exact .inr ⟨members, negative, hloads, hmember⟩
        | _ =>
            cases hread
            exact absurd (.inr (.inr rfl)) huncaught

theorem parseProductId_eq (hnot : ¬ Escapes limit payload) :
    parseProductId limit payload = .ok (productId? limit payload) := by
  rw [productId?_eq, parseProductId]
  cases hread : readProductId limit payload with
  | ok productId => rfl
  | error exception =>
      have hcaught : Caught exception := by
        by_contra huncaught
        exact hnot (escapes_iff.mpr ⟨exception, hread, huncaught⟩)
      rcases hcaught with rfl | rfl | rfl <;> rfl

theorem parseProductId_raises (hescapes : Escapes limit payload) :
    ∃ exception, parseProductId limit payload = .error exception := by
  obtain ⟨exception, hread, huncaught⟩ := escapes_iff.mp hescapes
  refine ⟨exception, ?_⟩
  rw [parseProductId, hread]
  cases exception <;> simp_all [Caught]

theorem parseProductId_ok_iff :
    parseProductId limit payload = .ok (productId? limit payload) ↔
      ¬ Escapes limit payload := by
  refine ⟨fun hok hescapes => ?_, parseProductId_eq⟩
  obtain ⟨exception, hraises⟩ := parseProductId_raises hescapes
  rw [hraises] at hok
  cases hok

/-- With room for its brackets only an infinite `product_id` escapes. -/
theorem escapes_iff_infinite (hroom : brackets payload.toList ≤ limit) :
    Escapes limit payload ↔ ∃ members negative,
      loads limit payload.toList = .ok (.object members) ∧
        lookup? members productIdKey = some (.float (.infinite negative)) :=
  or_iff_right (loads_ne_recursionError hroom)

/-- A payload of the trigger is read, whatever the row has. -/
theorem readProductId_trigger {productId availableQuantity : ℤ}
    (hproduct : (Scalar.int productId).Short)
    (hquantity : (Scalar.int availableQuantity).Short) :
    readProductId (limit + 1) (triggerPayload productId availableQuantity) =
      .ok productId := by
  have hshort : ∀ member ∈ [("product_id", Scalar.int productId),
      ("available_quantity", .int availableQuantity)], member.2.Short := by
    simp [hproduct, hquantity]
  have hloads := loads_renderRecord postgresStyle limit hshort
  have hmember : lookup? [(productIdKey, .int productId),
      (.ofString "available_quantity", .int availableQuantity)] productIdKey =
        some (.int productId) := rfl
  have hsubscript : subscript (recordValue [("product_id", .int productId),
      ("available_quantity", .int availableQuantity)]) =
        .ok (.int productId) := by
    simp only [recordValue, List.map_cons, List.map_nil, Scalar.toValue]
    rw [subscript, ← productIdKey, hmember]
  rw [readProductId, triggerPayload, String.toList_ofList, hloads]
  simp only [hsubscript]
  rfl

theorem parseProductId_trigger {productId availableQuantity : ℤ}
    (hproduct : (Scalar.int productId).Short)
    (hquantity : (Scalar.int availableQuantity).Short) :
    parseProductId (limit + 1) (triggerPayload productId availableQuantity) =
      .ok (some productId) := by
  rw [parseProductId, readProductId_trigger hproduct hquantity]

theorem productId?_trigger {productId availableQuantity : ℤ}
    (hproduct : (Scalar.int productId).Short)
    (hquantity : (Scalar.int availableQuantity).Short) :
    productId? (limit + 1) (triggerPayload productId availableQuantity) =
      some productId := by
  rw [productId?_eq, readProductId_trigger hproduct hquantity]

end Payloads

/-! ## Scripts -/

/-- What an event makes the listener yield. -/
def told (limit : ℕ) (stop : Bool) : Event → List StockEvent
  | .listens => [.resync]
  | .payload text =>
      if stop then [] else (productId? limit text).toList.map .changed
  | _ => []

/-- The payload that an event hands to `_parse_product_id`. -/
def handed (stop : Bool) : Event → List String
  | .payload text => if stop then [] else [text]
  | _ => []

def stopAfter (stop : Bool) (event : Event) : Bool :=
  stop || event = .stops

/-- Everything the listener has to yield: a resync for each LISTEN, and until
`stop` is set a change for each payload with an id. -/
def expected (limit : ℕ) : Bool → List Event → List StockEvent
  | _, [] => []
  | stop, event :: events =>
      told limit stop event ++ expected limit (stopAfter stop event) events

/-- The payloads that come in before `stop` is set. -/
def parsed : Bool → List Event → List String
  | _, [] => []
  | stop, event :: events =>
      handed stop event ++ parsed (stopAfter stop event) events

/-- The connection that is open. -/
def Phase.connection? : Phase → Option ℕ
  | .connected conn => some conn
  | .listening conn => some conn
  | _ => none

/-- The listener has come through a script. -/
structure Survives (limit : ℕ) (events : List Event) (listener : Listener) :
    Prop where
  goesOn : listener.stop = false → listener.phase ≠ .returned
  noException : ∀ exception, listener.phase ≠ .raised exception
  yields : listener.yielded = expected limit false events
  /-- every connection was closed once, except the one that is open -/
  closes : listener.closed ++ listener.phase.connection?.toList =
    List.range listener.opened

namespace Listener

/-! ## What a step can do -/

/-- The phase in which an event can happen, and what it makes of the
listener. -/
inductive Transition (limit : ℕ) (listener : Listener) :
    Event → Listener → Prop
  | connectFails (hphase : listener.phase = .disconnected) :
      Transition limit listener .connectFails listener.outerTest
  | connects (hphase : listener.phase = .disconnected) :
      Transition limit listener .connects
        { listener with
          phase := .connected listener.opened
          opened := listener.opened + 1 }
  | listenFails {conn : ℕ} (hphase : listener.phase = .connected conn) :
      Transition limit listener .listenFails (listener.close conn).outerTest
  | listens {conn : ℕ} (hphase : listener.phase = .connected conn) :
      Transition limit listener .listens
        ((listener.emit .resync).innerTest conn)
  | payload {conn : ℕ} (text : String)
      (hphase : listener.phase = .listening conn) :
      Transition limit listener (.payload text)
        (listener.receive limit conn text)
  | tick {conn : ℕ} (hphase : listener.phase = .listening conn) :
      Transition limit listener .tick (listener.innerTest conn)
  | drops {conn : ℕ} (hphase : listener.phase = .listening conn) :
      Transition limit listener .drops (listener.close conn).outerTest
  | stopsWaiting (hphase : listener.phase = .disconnected) :
      Transition limit listener .stops
        { listener with stop := true, phase := .returned }
  | stops (hphase : listener.phase ≠ .disconnected) :
      Transition limit listener .stops { listener with stop := true }

theorem transition_of_step {limit : ℕ} {listener next : Listener}
    {event : Event} (hstep : step limit listener event = some next) :
    Transition limit listener event next := by
  cases event <;> cases hphase : listener.phase <;>
    rw [step, hphase] at hstep <;> cases hstep
  case stops.disconnected => exact .stopsWaiting hphase
  case connectFails.disconnected => exact .connectFails hphase
  case connects.disconnected => exact .connects hphase
  case listenFails.connected conn => exact .listenFails hphase
  case listens.connected conn => exact .listens hphase
  case payload.listening text conn => exact .payload text hphase
  case tick.listening conn => exact .tick hphase
  case drops.listening conn => exact .drops hphase
  all_goals
    have hstops : Transition limit listener .stops
        { listener with stop := true } := .stops (by rw [hphase]; simp)
    rwa [hphase] at hstops

/-! ## What every step keeps -/

/-- `Survives` without the script. -/
structure Intact (listener : Listener) : Prop where
  goesOn : listener.stop = false → listener.phase ≠ .returned
  noException : ∀ exception, listener.phase ≠ .raised exception
  closes : listener.closed ++ listener.phase.connection?.toList =
    List.range listener.opened

section Steps

variable {limit : ℕ} {listener next : Listener} {conn : ℕ}

theorem Intact.start : start.Intact :=
  ⟨by decide, fun _ => by simp [Listener.start], rfl⟩

theorem Intact.outerTest (hcloses : listener.closed =
    List.range listener.opened) : listener.outerTest.Intact := by
  have hphase : listener.outerTest.phase =
      if listener.stop then .returned else .disconnected := rfl
  refine ⟨fun hstop => ?_, fun exception => ?_, ?_⟩
  · have hgoing : listener.stop = false := hstop
    simp [hphase, hgoing]
  · rw [hphase]
    split_ifs <;> simp
  · rw [hphase]
    split_ifs <;> exact (List.append_nil _).trans hcloses

/-- The connection is closed, and the outer loop goes on or ends. -/
theorem Intact.leave (hintact : listener.Intact)
    (hconn : listener.phase.connection? = some conn) :
    (listener.close conn).outerTest.Intact := by
  have hcloses := hintact.closes
  rw [hconn] at hcloses
  exact Intact.outerTest hcloses

theorem Intact.innerTest (hintact : listener.Intact)
    (hconn : listener.phase.connection? = some conn) :
    (listener.innerTest conn).Intact := by
  rw [Listener.innerTest]
  split_ifs with hstop
  · exact hintact.leave hconn
  · have hcloses := hintact.closes
    rw [hconn] at hcloses
    exact ⟨fun _ => by simp, fun _ => by simp, hcloses⟩

theorem Intact.emit (hintact : listener.Intact) (event : StockEvent) :
    (listener.emit event).Intact :=
  ⟨hintact.goesOn, hintact.noException, hintact.closes⟩

theorem Intact.receive (hintact : listener.Intact)
    (hconn : listener.phase.connection? = some conn) {payload : String}
    (hnot : listener.stop = false → ¬ Escapes limit payload) :
    (listener.receive limit conn payload).Intact := by
  rw [Listener.receive]
  split_ifs with hstop
  · exact hintact.innerTest hconn
  · rw [parseProductId_eq (hnot (by simpa using hstop))]
    cases productId? limit payload with
    | none => exact hintact
    | some productId => exact hintact.emit _

theorem Intact.step {event : Event} (hintact : listener.Intact)
    (hnot : ∀ payload ∈ handed listener.stop event, ¬ Escapes limit payload)
    (htransition : Transition limit listener event next) : next.Intact := by
  have hcloses := hintact.closes
  cases htransition with
  | connectFails hphase =>
      rw [hphase] at hcloses
      exact Intact.outerTest (by simpa [Phase.connection?] using hcloses)
  | connects hphase =>
      rw [hphase] at hcloses
      refine ⟨fun _ => by simp, fun _ => by simp, ?_⟩
      rw [List.range_succ, ← hcloses]
      simp [Phase.connection?]
  | listenFails hphase => exact hintact.leave (congrArg Phase.connection? hphase)
  | listens hphase => exact (hintact.emit _).innerTest (congrArg Phase.connection? hphase)
  | payload text hphase =>
      refine hintact.receive (congrArg Phase.connection? hphase) fun hstop => ?_
      exact hnot text (by simp [handed, hstop])
  | tick hphase => exact hintact.innerTest (congrArg Phase.connection? hphase)
  | drops hphase => exact hintact.leave (congrArg Phase.connection? hphase)
  | stopsWaiting hphase =>
      rw [hphase] at hcloses
      exact ⟨fun hstop => absurd hstop (by simp), fun _ => by simp, hcloses⟩
  | stops hphase =>
      exact ⟨fun hstop => absurd hstop (by simp), hintact.noException, hcloses⟩

/-! ## What a step yields -/

theorem innerTest_frame (listener : Listener) (conn : ℕ) :
    (listener.innerTest conn).stop = listener.stop ∧
      (listener.innerTest conn).yielded = listener.yielded := by
  rw [innerTest]
  split_ifs
  · exact ⟨rfl, rfl⟩
  · exact ⟨rfl, rfl⟩

theorem receive_stop (payload : String) :
    (listener.receive limit conn payload).stop = listener.stop := by
  rw [receive]
  split_ifs
  · exact (innerTest_frame listener conn).1
  · split <;> rfl

theorem receive_yielded {payload : String}
    (hnot : listener.stop = false → ¬ Escapes limit payload) :
    (listener.receive limit conn payload).yielded =
      listener.yielded ++ told limit listener.stop (.payload payload) := by
  rw [receive, told]
  split_ifs with hstop
  · rw [(innerTest_frame listener conn).2, List.append_nil]
  · rw [parseProductId_eq (hnot (by simpa using hstop))]
    cases productId? limit payload with
    | none => exact (List.append_nil _).symm
    | some productId => rfl

theorem stop_of_transition {event : Event}
    (htransition : Transition limit listener event next) :
    next.stop = stopAfter listener.stop event := by
  cases htransition with
  | listens => simp [(innerTest_frame _ _).1, emit, stopAfter]
  | payload text => simp [receive_stop, stopAfter]
  | tick => simp [(innerTest_frame _ _).1, stopAfter]
  | _ => simp [outerTest, close, stopAfter]

theorem yielded_of_transition {event : Event}
    (hnot : ∀ payload ∈ handed listener.stop event, ¬ Escapes limit payload)
    (htransition : Transition limit listener event next) :
    next.yielded = listener.yielded ++ told limit listener.stop event := by
  cases htransition with
  | listens => simp [(innerTest_frame _ _).2, emit, told]
  | payload text =>
      exact receive_yielded fun hstop => hnot text (by simp [handed, hstop])
  | tick => simp [(innerTest_frame _ _).2, told]
  | _ => simp [outerTest, close, told]

/-- An exception of another kind ends the listener. -/
theorem raised_of_transition {event : Event} {payload : String}
    (hpayload : payload ∈ handed listener.stop event)
    (hescapes : Escapes limit payload)
    (htransition : Transition limit listener event next) :
    ∃ exception, next.phase = .raised exception := by
  cases htransition with
  | payload text hphase =>
      rw [handed] at hpayload
      split_ifs at hpayload with hstop
      · cases hpayload
      · rw [List.mem_singleton] at hpayload
        subst hpayload
        obtain ⟨exception, hraises⟩ := parseProductId_raises hescapes
        exact ⟨exception, by rw [receive, if_neg hstop, hraises]⟩
  | _ => cases hpayload

theorem raised_stays {event : Event} {exception : Exception}
    (hraised : listener.phase = .raised exception)
    (htransition : Transition limit listener event next) :
    next.phase = .raised exception := by
  cases htransition with
  | stops => exact hraised
  | _ => simp_all

end Steps

/-! ## Whole scripts -/

section Scripts

variable {limit : ℕ} {events : List Event}

theorem run_intact {listener final : Listener}
    (hrun : run (step limit) listener events = some final)
    (hnot : ∀ payload ∈ parsed listener.stop events, ¬ Escapes limit payload)
    (hintact : listener.Intact) :
    final.Intact ∧
      final.yielded = listener.yielded ++ expected limit listener.stop events := by
  induction events generalizing listener with
  | nil =>
      cases hrun
      exact ⟨hintact, (List.append_nil _).symm⟩
  | cons event events ih =>
      obtain ⟨next, hstep, hrest⟩ := run_cons_eq_some hrun
      have htransition := transition_of_step hstep
      rw [parsed, List.forall_mem_append] at hnot
      have hstop := stop_of_transition htransition
      have hyielded := yielded_of_transition hnot.1 htransition
      obtain ⟨hfinal, hall⟩ := ih hrest (by rw [hstop]; exact hnot.2)
        (hintact.step hnot.1 htransition)
      refine ⟨hfinal, ?_⟩
      rw [hall, hyielded, hstop, expected, List.append_assoc]

theorem run_raised {listener final : Listener} {exception : Exception}
    (hrun : run (step limit) listener events = some final)
    (hraised : listener.phase = .raised exception) :
    final.phase = .raised exception :=
  @run_invariant _ _ _ (fun listener => listener.phase = .raised exception)
    (fun _ _ _ hphase hstep => raised_stays hphase (transition_of_step hstep))
    _ _ _ hraised hrun

theorem run_escapes {listener final : Listener} {payload : String}
    (hrun : run (step limit) listener events = some final)
    (hpayload : payload ∈ parsed listener.stop events)
    (hescapes : Escapes limit payload) :
    ∃ exception, final.phase = .raised exception := by
  induction events generalizing listener with
  | nil => cases hpayload
  | cons event events ih =>
      obtain ⟨next, hstep, hrest⟩ := run_cons_eq_some hrun
      have htransition := transition_of_step hstep
      rw [parsed, List.mem_append] at hpayload
      rcases hpayload with hnow | hlater
      · obtain ⟨exception, hraised⟩ :=
          raised_of_transition hnow hescapes htransition
        exact ⟨exception, run_raised hrest hraised⟩
      · exact ih hrest (by rwa [stop_of_transition htransition])

theorem survives_iff {final : Listener}
    (hrun : run (step limit) start events = some final) :
    Survives limit events final ↔
      ∀ payload ∈ parsed false events, ¬ Escapes limit payload := by
  constructor
  · intro hsurvives payload hpayload hescapes
    obtain ⟨exception, hraised⟩ := run_escapes hrun hpayload hescapes
    exact hsurvives.noException exception hraised
  · intro hnot
    obtain ⟨hintact, hyielded⟩ := run_intact hrun hnot .start
    exact ⟨hintact.goesOn, hintact.noException, hyielded, hintact.closes⟩

end Scripts

/-- The notices of committed changes reach the servicer as their ids. -/
theorem expected_trigger {notices : List (ℤ × ℤ)}
    (hshort : ∀ notice ∈ notices, (Scalar.int notice.1).Short ∧
      (Scalar.int notice.2).Short) :
    expected (limit + 1) false (.connects :: .listens ::
        notices.map fun notice =>
          .payload (triggerPayload notice.1 notice.2)) =
      .resync :: notices.map fun notice => .changed notice.1 := by
  have hchanges : expected (limit + 1) false (notices.map fun notice =>
      .payload (triggerPayload notice.1 notice.2)) =
        notices.map fun notice => .changed notice.1 := by
    induction notices with
    | nil => rfl
    | cons notice notices ih =>
        rw [List.forall_mem_cons] at hshort
        have hid := @productId?_trigger limit _ _ hshort.1.1 hshort.1.2
        rw [List.map_cons, List.map_cons, expected, told, hid,
          if_neg Bool.false_ne_true]
        exact congrArg (StockEvent.changed notice.1 :: ·) (ih hshort.2)
  exact congrArg (StockEvent.resync :: ·) hchanges

end Listener

/-! ## The payloads it survives -/

theorem short_of_bounds {value : ℤ} (hlow : -2 ^ 63 ≤ value)
    (hhigh : value < 2 ^ 63) : (Scalar.int value).Short := by
  have hsmall : value.natAbs < 10 ^ 19 := by omega
  exact hsmall.trans_le (Nat.pow_le_pow_right (by decide) (by decide))

/-- A script is survived exactly when no payload that is parsed escapes, the
payloads that do not escape are those whose id, or want of one, is answered,
and those of the trigger are among them. -/
theorem listener_survives_iff (limit : ℕ) :
    (∀ (events : List Event) (final : Listener),
      run (Listener.step limit) .start events = some final →
      (Survives limit events final ↔
        ∀ payload ∈ parsed false events, ¬ Escapes limit payload)) ∧
    (∀ payload, parseProductId limit payload =
        .ok (productId? limit payload) ↔ ¬ Escapes limit payload) ∧
    (∀ productId availableQuantity : ℤ, -2 ^ 63 ≤ productId →
      productId < 2 ^ 63 → -2 ^ 31 ≤ availableQuantity →
      availableQuantity < 2 ^ 31 →
      parseProductId (limit + 1)
        (triggerPayload productId availableQuantity) =
          .ok (some productId)) := by
  refine ⟨fun events final => Listener.survives_iff,
    fun payload => parseProductId_ok_iff, ?_⟩
  intro productId availableQuantity hidLow hidHigh hlow hhigh
  exact parseProductId_trigger (short_of_bounds hidLow hidHigh)
    (short_of_bounds (by omega) (by omega))

/-- An id too large for a finite float. -/
def hugePayload : String := "\x7b\"product_id\": 1e999\x7d"

/-- The notification ends the generator, and with it the watch. -/
theorem hugePayload_ends :
    run (Listener.step 1) .start [.connects, .listens, .payload hugePayload] =
        some ⟨.raised .overflowError, false, 1, [0], [.resync]⟩ ∧
      parseProductId 1 hugePayload = .error .overflowError ∧
      ¬ ∀ (events : List Event) (final : Listener),
        run (Listener.step 1) .start events = some final →
        Survives 1 events final := by
  have hrun : run (Listener.step 1) .start
      [.connects, .listens, .payload hugePayload] =
        some ⟨.raised .overflowError, false, 1, [0], [.resync]⟩ := by
    decide +kernel
  refine ⟨hrun, by decide +kernel, fun hall => ?_⟩
  exact (hall _ _ hrun).noException .overflowError rfl

end OrderFlow.Inventory.Notifications
