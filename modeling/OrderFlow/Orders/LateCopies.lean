import OrderFlow.Orders.RetryStages

/-!
# Late copies of a message

The channel's retries are safe as long as no copy of the reserve message
commits after the release, and the client does not give up on a rejected copy
while another copy has reserved.  Either of the two spoils the request for
good.
-/

namespace OrderFlow.Orders.RetryPolicy

open OrderFlow.TransitionSystem
open OrderFlow.Inventory
open OrderFlow.Inventory.Refinement

/-! ## The property and its condition -/

/-- Stock is RESERVED exactly if the order is there, and every product was
decremented once at most: a decrement inserts a row. -/
structure Settled (request : CreateRequest) (state : State) : Prop where
  backed : state.inventory.db.reservedForOrder request.orderRef ≠ [] ↔
    state.client.orders.get? request.orderRef ≠ none
  once : ((state.inventory.db.rowsForOrder request.orderRef).map
    StockReservation.productId).Nodup

/-- A reserve copy does not commit when the order is released already, and the
client does not take a rejection while stock is RESERVED for the order. -/
def Careful (request : CreateRequest) (state : State) : Action → Prop
  | .inventory (.advance number) =>
      match state.inventory.sessions number with
      | .reserving _ (.loopHead [] loop) =>
          loop.allOk = true → ¬ Released request state.inventory.db
      | _ => True
  | .answer number =>
      match state.inventory.sessions number with
      | .finished (.reserved outcome) =>
          outcome.success = false →
            state.inventory.db.reservedForOrder request.orderRef = []
      | _ => True
  | _ => True

instance (request : CreateRequest) (state : State) (action : Action) :
    Decidable (Careful request state action) := by
  unfold Careful
  split
  · split <;> infer_instance
  · split <;> infer_instance
  · infer_instance

/-! ## With care -/

section Runs

variable {request : CreateRequest} {start : InventoryDb}
variable {state after : State} {serial next : Serial.State}
variable {action : Action}

/-- The client and the serial inventory behind a state. -/
structure Tracked (request : CreateRequest) (start : InventoryDb)
    (state : State) (serial : Serial.State) : Prop where
  related : Related state.inventory serial
  alone : Alone request state.client serial
  stage : Stage request start state.client serial

theorem Tracked.step
    (htracked : Tracked request start state serial)
    (hunused : start.rowsForOrder request.orderRef = [])
    (hinactive : start.activeForKey request.orderRef = [])
    (hcareful : Careful request state action)
    (hstep : RetryPolicy.step request state action = some after) :
    ∃ next, Tracked request start after next := by
  obtain ⟨hrelated, halone, hstage⟩ := htracked
  obtain ⟨next, hnext, hcase⟩ := step_cases hrelated hstep
  refine ⟨next, hnext, halone.step hcase, ?_⟩
  generalize after.client = client at hcase
  cases hcase with
  | session commitFails client hclient =>
      exact hstage.session (session?_cases halone.carries hclient)
  | reserveCopy number clock message next hsent hserial =>
      exact (hstage.transaction halone hunused hinactive
        (fun _ _ hbody => Serial.Action.noConfusion hbody)
        hserial).of_sameClient (sameClient_countReserve _)
  | releaseCopy number orderRef next hsent hserial =>
      exact (hstage.transaction halone hunused hinactive
        (fun _ _ hbody => Serial.Action.noConfusion hbody)
        hserial).of_sameClient (sameClient_countRelease _)
  | statement action hevent => exact hstage
  | transaction action seen next hevent hcalls hserial =>
      refine hstage.transaction halone hunused hinactive ?_ hserial
      rintro number call rfl hsession hsuccess
      obtain ⟨rfl, loop, hloop, hallOk⟩ :=
        hrelated.reserve_commits hevent hsession hsuccess
      rw [Careful] at hcareful
      simp only [hloop] at hcareful
      rw [hrelated.db]
      exact hcareful hallOk
  | answer number result client hresult hclient =>
      refine hstage.answer hresult ?_ (answer?_cases halone.carries hclient)
      rintro outcome rfl hfailed
      rw [hrelated.result] at hresult
      rw [hrelated.db]
      revert hcareful
      rw [Careful]
      cases hsession : state.inventory.sessions number with
      | finished other =>
          rw [hsession] at hresult
          obtain rfl := Option.some.inj hresult
          exact fun hcareful => hcareful hfailed
      | idle => simp [hsession, Interleaved.Session.result?] at hresult
      | reserving => simp [hsession, Interleaved.Session.result?] at hresult
      | releasing => simp [hsession, Interleaved.Session.result?] at hresult

theorem Tracked.settled (htracked : Tracked request start state serial)
    (hunused : start.rowsForOrder request.orderRef = [])
    (hreturned : ∃ exit, state.client.phase = .done exit) :
    Settled request state := by
  obtain ⟨hrelated, halone, hstage⟩ := htracked
  obtain ⟨exit, hdone⟩ := hreturned
  have hdb := hrelated.db
  cases hstage with
  | waiting hstart hclient hsessions =>
      constructor
      · rw [← hdb, hstart, reservedForOrder_eq_filter, hunused]
        exact iff_of_false (fun hne => hne rfl) fun hne => hne hclient.2.1
      · rw [← hdb, hstart, hunused]
        exact List.nodup_nil
  | holding hbatch hclient hsessions =>
      rw [Holding, hdone] at hclient
      constructor
      · rw [← hdb]
        exact iff_of_true hbatch.reservedForOrder_ne hclient.1
      · rw [← hdb, hbatch.products.nodup_iff]
        exact hbatch.nodup
  | givenUp hbatch hclient =>
      constructor
      · rw [← hdb, hbatch.reservedForOrder_eq_nil]
        exact iff_of_false (fun hne => hne rfl) fun hne => hne hclient.1
      · rw [← hdb, hbatch.products.nodup_iff]
        exact hbatch.nodup

/-! ## Without care -/

/-- What cannot be repaired any more. -/
inductive Spoilt (request : CreateRequest) (client : Client)
    (serial : Serial.State) : Prop
  /-- a product was decremented twice -/
  | twice
      (hproducts : ¬ ((serial.db.rowsForOrder request.orderRef).map
        StockReservation.productId).Nodup)
  /-- the client has ended without an order and without a release -/
  | dropped (exit : Exit) (hphase : client.phase = .done exit)
      (hunsaved : client.orders.get? request.orderRef = none)
      (hunreleased : client.release = none)
      (hheld : serial.db.reservedForOrder request.orderRef ≠ [])

theorem rowsForOrder_grow {action : Serial.Action}
    (hstep : Serial.step serial action = some next)
    (orderRef : CharField128) :
    ∃ added, (next.db.rowsForOrder orderRef).map StockReservation.productId =
      (serial.db.rowsForOrder orderRef).map StockReservation.productId ++
        added := by
  rcases Serial.step_db hstep with
    hsame | ⟨call, loop, hprogress, hcommit⟩ | ⟨rows, hrelease⟩
  · exact ⟨[], by rw [hsame, List.append_nil]⟩
  · refine ⟨((call.rows (sortedItems call.items)).filter
      fun row => row.orderRef = orderRef).map StockReservation.productId, ?_⟩
    rw [hcommit, InventoryDb.rowsForOrder, hprogress.filter_commit,
      List.map_append]
    rfl
  · exact ⟨[], by rw [hrelease, products_releaseBody, List.append_nil]⟩

/-- As long as no release is sent, what is RESERVED stays. -/
theorem Alone.stays_reserved {client : Client}
    (halone : Alone request client serial)
    (hunreleased : client.release = none)
    (hheld : serial.db.reservedForOrder request.orderRef ≠ [])
    {action : Serial.Action}
    (hstep : Serial.step serial action = some next) :
    next.db.reservedForOrder request.orderRef ≠ [] := by
  cases Serial.step_cases hstep with
  | call number call hidle hunused => exact hheld
  | answer number call outcome hsession houtcome => exact hheld
  | proceed number call hsession hitems hreplay => exact hheld
  | select number orderRef rows hsession hselects => exact hheld
  | abort number hopen => exact hheld
  | release number orderRef ids hsession =>
      have hself := halone.copies number
      rw [hsession] at hself
      exact absurd hunreleased hself.1
  | reserve number call hsession =>
      rcases reserveBody_cases serial.db call with
        ⟨hrefused, _⟩ | ⟨_, loop, hprogress, hcommit⟩
      · rw [Serial.State.finish, hrefused]
        exact hheld
      · change (reserveBody serial.db call).1.reservedForOrder _ ≠ []
        rw [hcommit, InventoryDb.reservedForOrder, hprogress.filter_commit]
        intro hnone
        exact hheld (List.append_eq_nil_iff.mp hnone).1

theorem Spoilt.transaction {client : Client}
    (hspoilt : Spoilt request client serial)
    (halone : Alone request client serial) {action : Serial.Action}
    (hstep : Serial.step serial action = some next) :
    Spoilt request client next := by
  cases hspoilt with
  | twice hproducts =>
      obtain ⟨added, hgrow⟩ := rowsForOrder_grow hstep request.orderRef
      refine .twice fun hnodup => hproducts ?_
      rw [hgrow] at hnodup
      exact (List.nodup_append.mp hnodup).1
  | dropped exit hphase hunsaved hunreleased hheld =>
      exact .dropped exit hphase hunsaved hunreleased
        (halone.stays_reserved hunreleased hheld hstep)

theorem Spoilt.of_sameClient {client same : Client}
    (hspoilt : Spoilt request client serial)
    (hsame : SameClient client same) : Spoilt request same serial := by
  cases hspoilt with
  | twice hproducts => exact .twice hproducts
  | dropped exit hphase hunsaved hunreleased hheld =>
      exact .dropped exit (hsame.phase.trans hphase)
        (hsame.orders ▸ hunsaved) (hsame.release.trans hunreleased) hheld

theorem Spoilt.step {client : Client}
    (hspoilt : Spoilt request state.client serial)
    (halone : Alone request state.client serial)
    (hcase : StepCase request state serial action client next) :
    Spoilt request client next := by
  cases hcase with
  | session commitFails client hclient =>
      cases hspoilt with
      | twice hproducts => exact .twice hproducts
      | dropped exit hphase => simp [Client.session?, hphase] at hclient
  | answer number result client hresult hclient =>
      cases hspoilt with
      | twice hproducts => exact .twice hproducts
      | dropped exit hphase => simp [Client.answer?, hphase] at hclient
  | reserveCopy number clock message next hsent hserial =>
      exact (hspoilt.transaction halone hserial).of_sameClient
        (sameClient_countReserve _)
  | releaseCopy number orderRef next hsent hserial =>
      exact (hspoilt.transaction halone hserial).of_sameClient
        (sameClient_countRelease _)
  | statement action hevent => exact hspoilt
  | transaction action seen next hevent hcalls hserial =>
      exact hspoilt.transaction halone hserial

/-- A batch that is reserved after the first one was released. -/
theorem Stage.spoilt_of_commit {client : Client}
    (hstage : Stage request start client serial)
    (halone : Alone request client serial)
    (hunused : start.rowsForOrder request.orderRef = [])
    (hreleased : Released request serial.db) {number : ℕ} {call : ReserveCall}
    (hsession : serial.sessions number = .reserving call true)
    (hsuccess : (reserveBody serial.db call).2.success = true)
    (hstep : Serial.step serial (.body number) = some next) :
    Spoilt request client next := by
  obtain ⟨row, hrow, hstatus⟩ := hreleased
  have hself := halone.copies number
  rw [hsession] at hself
  obtain ⟨_, horder, hitems, _⟩ := hself
  obtain ⟨loop, hprogress, hcommit⟩ := reserveBody_success hsuccess
  have hnext : next.db = serial.db.commit loop.tx := by
    rw [← hcommit]
    simp only [Serial.step, hsession, Option.some.injEq] at hstep
    rw [← hstep]
    rfl
  have hrows : next.db.rowsForOrder request.orderRef =
      serial.db.rowsForOrder request.orderRef ++
        call.rows (sortedItems call.items) := by
    rw [hnext, ← horder, hprogress.rowsForOrder]
  have hproduct : row.productId ∈
      request.reserveItems.map ReserveItem.productId := by
    cases hstage with
    | waiting hdb hclient hsessions =>
        rw [hdb, hunused] at hrow
        exact absurd hrow List.not_mem_nil
    | holding hbatch hclient hsessions =>
        exact Status.noConfusion
          ((hbatch.status row hrow).symm.trans hstatus)
    | givenUp hbatch hclient =>
        exact hbatch.products.mem_iff.mp (List.mem_map_of_mem hrow)
  refine .twice ?_
  rw [hrows, List.map_append, call.map_productId_rows, List.nodup_append]
  rintro ⟨_, _, hdisjoint⟩
  refine hdisjoint _ (List.mem_map_of_mem hrow) row.productId ?_ rfl
  rw [← hitems] at hproduct
  exact ((perm_sortedItems call.items).map _).mem_iff.mpr hproduct

/-- A rejection that is taken while another copy has reserved. -/
theorem Stage.spoilt_of_rejection {client : Client}
    (hstage : Stage request start state.client serial)
    (hunused : start.rowsForOrder request.orderRef = [])
    {outcome : ReservationOutcome} (hfailed : outcome.success = false)
    (hheld : serial.db.reservedForOrder request.orderRef ≠ [])
    (hcase : AnswerCase request state.client (.reserved outcome) client) :
    Spoilt request client serial := by
  cases hcase with
  | reserved _ message _ hsuccess =>
      exact absurd (hsuccess.symm.trans hfailed) Bool.noConfusion
  | rejected _ message exit hreserve _ =>
      cases hstage with
      | waiting hdb hclient hsessions =>
          rw [hdb, reservedForOrder_eq_filter, hunused] at hheld
          exact absurd rfl hheld
      | holding hbatch hclient hsessions =>
          rw [Holding, hreserve] at hclient
          exact .dropped exit rfl hclient.1 hclient.2 hheld
      | givenUp hbatch hclient =>
          have hphase := hclient.2
          rw [hreserve] at hphase
          exact hphase.elim

structure SpoiltForGood (request : CreateRequest) (state : State)
    (serial : Serial.State) : Prop where
  related : Related state.inventory serial
  alone : Alone request state.client serial
  spoilt : Spoilt request state.client serial

theorem SpoiltForGood.step (hspoilt : SpoiltForGood request state serial)
    (hstep : RetryPolicy.step request state action = some after) :
    ∃ next, SpoiltForGood request after next := by
  obtain ⟨next, hnext, hcase⟩ := step_cases hspoilt.related hstep
  exact ⟨next, hnext, hspoilt.alone.step hcase,
    hspoilt.spoilt.step hspoilt.alone hcase⟩

theorem Tracked.spoilt_of_careless
    (htracked : Tracked request start state serial)
    (hunused : start.rowsForOrder request.orderRef = [])
    (hcareless : ¬ Careful request state action)
    (hstep : RetryPolicy.step request state action = some after) :
    ∃ next, SpoiltForGood request after next := by
  obtain ⟨hrelated, halone, hstage⟩ := htracked
  obtain ⟨next, hnext, hcase⟩ := step_cases hrelated hstep
  refine ⟨next, hnext, halone.step hcase, ?_⟩
  have hdb := hrelated.db
  unfold Careful at hcareless
  split at hcareless
  · rename_i number
    split at hcareless
    · rename_i call loop hsession
      rw [Classical.not_imp, not_not] at hcareless
      obtain ⟨hallOk, hreleased⟩ := hcareless
      have hevent : event state.inventory (.advance number) =
          some (.body number) := by
        rw [event, hsession]
        rfl
      obtain ⟨hserial, hbody⟩ := hrelated.loopEnd_body hsession
      have hsuccess : (reserveBody serial.db call).2.success = true := by
        rw [hdb, hbody]
        exact hallOk
      generalize after.client = client at hcase
      cases hcase with
      | statement _ hnone => exact absurd (hevent.symm.trans hnone) (by simp)
      | transaction _ seen next hseen _ hbodyStep =>
          obtain rfl := Option.some.inj (hevent.symm.trans hseen)
          exact hstage.spoilt_of_commit halone hunused (hdb ▸ hreleased)
            hserial hsuccess hbodyStep
    · exact absurd trivial hcareless
  · rename_i number
    split at hcareless
    · rename_i outcome hsession
      rw [Classical.not_imp] at hcareless
      generalize after.client = client at hcase
      cases hcase with
      | answer _ result client hresult hclient =>
          rw [hrelated.result, hsession] at hresult
          obtain rfl := Option.some.inj hresult
          exact hstage.spoilt_of_rejection hunused hcareless.1
            (hdb ▸ hcareless.2) (answer?_cases halone.carries hclient)
    · exact absurd trivial hcareless
  · exact absurd trivial hcareless

theorem SpoiltForGood.not_settled
    (hspoilt : SpoiltForGood request state serial) :
    ¬ Settled request state := by
  obtain ⟨hrelated, _, hspoilt⟩ := hspoilt
  rintro ⟨hbacked, honce⟩
  rw [← hrelated.db] at hbacked honce
  cases hspoilt with
  | twice hproducts => exact hproducts honce
  | dropped exit hphase hunsaved hunreleased hheld =>
      exact hbacked.mp hheld hunsaved

end Runs

/-! ## Careful runs -/

theorem Tracked.init {request : CreateRequest} {orders : OrderDb}
    {start : InventoryDb}
    (hids : (start.reservations.map StockReservation.id).Nodup)
    (hunsaved : orders.get? request.orderRef = none)
    (hinactive : start.activeForKey request.orderRef = [])
    (hsame : ∀ row ∈ start.reservations,
      (row.orderRef = request.orderRef ↔
        row.idempotencyKey = request.orderRef)) :
    Tracked request start (.init orders start) (.init start) where
  related := .init hids
  alone := {
    once := ⟨.init hids, .inl hinactive, fun _ => trivial⟩
    same := hsame
    copies := fun _ => trivial
    sent := nofun
    released := nofun
    lookup := fun _ => rfl
    carries := trivial }
  stage := .waiting rfl ⟨rfl, hunsaved, trivial⟩ fun _ => trivial

/-- When a request for an unused key has returned, its two databases agree
exactly if no reserve copy committed after the release and no rejection was
taken while stock was RESERVED; whatever copies there were, and whatever is
still to come of them. -/
theorem settled_iff_careful {request : CreateRequest} {orders : OrderDb}
    {db : InventoryDb} {schedule : List Action} {final : State}
    (hids : (db.reservations.map StockReservation.id).Nodup)
    (hunused : Unused request.orderRef ⟨orders, db⟩)
    (hrun : run (step request) (.init orders db) schedule = some final)
    (hreturned : ∃ exit, final.client.phase = .done exit) :
    Settled request final ↔
      Along (step request) (Careful request) (.init orders db) schedule := by
  have hrows : db.rowsForOrder request.orderRef = [] := by
    rw [InventoryDb.rowsForOrder, List.filter_eq_nil_iff]
    intro row hrow horder
    exact (hunused.unreserved row hrow).1 (of_decide_eq_true horder)
  have hinactive : db.activeForKey request.orderRef = [] := by
    rw [InventoryDb.activeForKey, List.filter_eq_nil_iff]
    intro row hrow hactive
    exact (hunused.unreserved row hrow).2 (of_decide_eq_true hactive).1
  have hinit : ∃ serial, Tracked request db (.init orders db) serial :=
    ⟨_, .init hids hunused.unsaved hinactive fun row hrow =>
      iff_of_false (hunused.unreserved row hrow).1
        (hunused.unreserved row hrow).2⟩
  have hstep : ∀ state action next,
      (∃ serial, Tracked request db state serial) →
        Careful request state action → step request state action = some next →
          ∃ serial, Tracked request db next serial := by
    rintro state action next ⟨serial, htracked⟩ hcareful hnext
    exact htracked.step hrows hinactive hcareful hnext
  have henter : ∀ state action next,
      (∃ serial, Tracked request db state serial) →
        ¬ Careful request state action →
          step request state action = some next →
            ∃ serial, SpoiltForGood request next serial := by
    rintro state action next ⟨serial, htracked⟩ hcareless hnext
    exact htracked.spoilt_of_careless hrows hcareless hnext
  have hkeep : ∀ state action next,
      (∃ serial, SpoiltForGood request state serial) →
        step request state action = some next →
          ∃ serial, SpoiltForGood request next serial := by
    rintro state action next ⟨serial, hspoilt⟩ hnext
    exact hspoilt.step hnext
  constructor
  · intro hsettled
    rcases along_or_spoilt hstep henter hkeep hinit hrun with
      halong | ⟨_, hspoilt⟩
    · exact halong
    · exact absurd hsettled hspoilt.not_settled
  · intro halong
    obtain ⟨_, htracked⟩ := run_invariant_along hstep hinit halong hrun
    exact htracked.settled hrows hreturned

/-! ## Two copies of one reserve message -/

def statements (number times : ℕ) : List Action :=
  List.replicate times (.inventory (.advance number))

/-- The first copy is held up, the second one reserves and is answered. -/
def secondAnswered : List Action :=
  [.session false, .reserveCopy 0 id, .reserveCopy 1 id] ++ statements 1 5 ++
    [.answer 1]

/-- The commit fails, the release is answered, and the first copy comes to its
replay check only then. -/
def overtakenRelease : List Action :=
  secondAnswered ++ [.session true, .session false, .releaseCopy 2,
    .inventory (.select 2 [⟨⟨1, 0⟩, 1, twoWidgets.orderRef,
      twoWidgets.orderRef, 2, .reserved, 0⟩])] ++ statements 2 5 ++
    [.answer 2] ++ statements 0 5

/-- All copies have ended. -/
def CopiesEnded (state : State) : Prop :=
  ∀ number, state.inventory.sessions number = .idle ∨
    ∃ result, state.inventory.sessions number = .finished result

theorem overtakenRelease_not_settled : ∃ final,
    run (step twoWidgets) (.init [] seededDb) overtakenRelease = some final ∧
      final.client.phase =
        .done (.http ⟨500, .text "failed to persist order"⟩) ∧
      CopiesEnded final ∧ final.client.orders = [] ∧
      final.inventory.db.reservedQuantity 1 = 2 ∧
      ¬ Settled twoWidgets final := by
  have hstranded : ∀ final : State, final.client.orders = [] →
      final.inventory.db.reservedForOrder twoWidgets.orderRef ≠ [] →
        ¬ Settled twoWidgets final := by
    intro final horders hheld hsettled
    apply hsettled.backed.mp hheld
    rw [horders]
    rfl
  refine ⟨_, rfl, rfl, ?_, rfl, by decide, hstranded _ rfl (by decide)⟩
  intro number
  match number with
  | 0 => exact .inr ⟨_, rfl⟩
  | 1 => exact .inr ⟨_, rfl⟩
  | 2 => exact .inr ⟨_, rfl⟩
  | number + 3 => exact .inl rfl

/-- The first copy is only late enough to find the reservation. -/
def lateReplay : List Action :=
  secondAnswered ++ statements 0 1 ++ [.session false]

theorem lateReplay_settled : ∃ final,
    run (step twoWidgets) (.init [] seededDb) lateReplay = some final ∧
      final.client.orders = [twoWidgets.order] ∧
      final.inventory.db.reservedQuantity 1 = 2 ∧
      Settled twoWidgets final := by
  have hunused : Unused twoWidgets.orderRef ⟨[], seededDb⟩ :=
    ⟨rfl, fun row hrow => absurd hrow List.not_mem_nil⟩
  have hsettled : ∀ final,
      run (step twoWidgets) (.init [] seededDb) lateReplay = some final →
        (∃ exit, final.client.phase = .done exit) →
          Settled twoWidgets final := by
    intro final hrun hreturned
    exact (settled_iff_careful (by decide) hunused hrun hreturned).mpr
      (by decide)
  exact ⟨_, rfl, by decide, by decide, hsettled _ rfl ⟨_, rfl⟩⟩

end OrderFlow.Orders.RetryPolicy
