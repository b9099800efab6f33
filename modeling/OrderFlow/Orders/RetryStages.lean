import OrderFlow.Inventory.IdempotencyKey
import OrderFlow.Orders.Compensation
import OrderFlow.Orders.RetryPolicy

/-!
# From the first copy to the last

What holds of the client and of its copies at every point of a run: first
nothing is reserved, then one batch is RESERVED, then it is released.  The
stages follow the rows of the order in inventory-db, and each says where the
client can be meanwhile.
-/

namespace OrderFlow.Orders.RetryPolicy

open OrderFlow.Inventory
open OrderFlow.Inventory.Refinement

/-! ## Nobody else is there -/

/-- What a session can be when it belongs to a copy of what was sent. -/
def CopyOf (request : CreateRequest) (client : Client) :
    Serial.Session → Prop
  | .idle => True
  | .reserving call _ => client.reserve ≠ none ∧
      call.orderRef = request.orderRef ∧
        call.items = request.reserveItems ∧
          call.idempotencyKey = request.orderRef
  | .releasing orderRef _ => client.release ≠ none ∧
      orderRef = request.orderRef
  | .finished (.reserved _) => client.reserve ≠ none
  | .finished (.released _) => client.release ≠ none
  | .finished .raised => True

/-- A call the channel may make. -/
def OwnCall (request : CreateRequest) (client : Client) :
    Interleaved.Request → Prop
  | .reserve orderRef items key _ => client.reserve ≠ none ∧
      orderRef = request.orderRef ∧ items = request.reserveItems ∧
        key = request.orderRef
  | .release orderRef => client.release ≠ none ∧
      orderRef = request.orderRef

structure Alone (request : CreateRequest) (client : Client)
    (serial : Serial.State) : Prop where
  once : OncePerKey request.orderRef request.orderRef request.reserveItems
    serial
  same : ∀ row ∈ serial.db.reservations,
    (row.orderRef = request.orderRef ↔ row.idempotencyKey = request.orderRef)
  copies : ∀ number, CopyOf request client (serial.sessions number)
  sent : ∀ message, client.reserve = some message →
    message = request.message
  released : ∀ orderRef, client.release = some orderRef →
    orderRef = request.orderRef
  lookup : client.phase = .lookup → client.reserve = none
  carries : Carries request client.phase

section Alone

variable {request : CreateRequest} {client after : Client}
variable {serial next : Serial.State}

theorem CopyOf.mono {session : Serial.Session}
    (hcopy : CopyOf request client session)
    (hreserve : client.reserve ≠ none → after.reserve ≠ none)
    (hrelease : client.release ≠ none → after.release ≠ none) :
    CopyOf request after session := by
  cases session with
  | idle => trivial
  | reserving call checked => exact hcopy.imp_left hreserve
  | releasing orderRef snapshot => exact hcopy.imp_left hrelease
  | finished result =>
      cases result with
      | reserved outcome => exact hreserve hcopy
      | released outcome => exact hrelease hcopy
      | raised => trivial

theorem Alone.session (halone : Alone request client serial)
    (hcase : SessionCase request client after) :
    Alone request after serial := by
  cases hcase with
  | found order hphase hfound =>
      have hunsent := halone.lookup hphase
      refine ⟨halone.once, halone.same, fun number => ?_, nofun,
        halone.released, nofun, trivial⟩
      exact (halone.copies number).mono (absurd hunsent) id
  | notEncodable hphase =>
      have hunsent := halone.lookup hphase
      refine ⟨halone.once, halone.same, fun number => ?_, nofun,
        halone.released, nofun, trivial⟩
      exact (halone.copies number).mono (absurd hunsent) id
  | sent hphase hfresh =>
      refine ⟨halone.once, halone.same, fun number => ?_,
        fun message hsent => (Option.some.inj hsent).symm,
        halone.released, nofun, ⟨rfl, rfl⟩⟩
      exact (halone.copies number).mono (fun _ => nofun) id
  | saved hphase hfresh =>
      exact ⟨halone.once, halone.same, fun number =>
        (halone.copies number).mono id id, halone.sent, halone.released,
        nofun, trivial⟩
  | notSaved hphase =>
      exact ⟨halone.once, halone.same, fun number =>
        (halone.copies number).mono id id, halone.sent, halone.released,
        nofun, rfl⟩
  | rolledBack hphase =>
      refine ⟨halone.once, halone.same, fun number => ?_, halone.sent,
        fun orderRef hsent => (Option.some.inj hsent).symm, nofun, rfl⟩
      exact (halone.copies number).mono id fun _ => nofun

theorem Alone.answer (halone : Alone request client serial)
    {result : Interleaved.Result}
    (hcase : AnswerCase request client result after) :
    Alone request after serial := by
  cases hcase with
  | reserved outcome message hphase hsuccess =>
      exact ⟨halone.once, halone.same, fun number =>
        (halone.copies number).mono id id, halone.sent, halone.released,
        nofun, rfl⟩
  | rejected outcome message exit hphase hfailed =>
      exact ⟨halone.once, halone.same, fun number =>
        (halone.copies number).mono id id, halone.sent, halone.released,
        nofun, trivial⟩
  | released outcome exit hphase =>
      exact ⟨halone.once, halone.same, fun number =>
        (halone.copies number).mono id id, halone.sent, halone.released,
        nofun, trivial⟩

/-- Only the session moves. -/
theorem Alone.of_copies (halone : Alone request client serial)
    (honce : OncePerKey request.orderRef request.orderRef
      request.reserveItems next)
    (hsame : ∀ row ∈ next.db.reservations,
      (row.orderRef = request.orderRef ↔
        row.idempotencyKey = request.orderRef))
    {number : ℕ} {session : Serial.Session}
    (hsessions : next.sessions =
      Function.update serial.sessions number session)
    (hcopy : CopyOf request client session) :
    Alone request client next where
  once := honce
  same := hsame
  copies := by
    rw [hsessions, Function.forall_update_iff serial.sessions
      (p := fun _ session => CopyOf request client session)]
    exact ⟨hcopy, fun other _ => halone.copies other⟩
  sent := halone.sent
  released := halone.released
  lookup := halone.lookup
  carries := halone.carries

theorem Alone.transaction (halone : Alone request client serial)
    {action : Serial.Action}
    (hcalls : SerialCalls (OwnCall request client) action)
    (hstep : Serial.step serial action = some next) :
    Alone request client next := by
  have honce : OncePerKey request.orderRef request.orderRef
      request.reserveItems next := by
    apply halone.once.step request.orderRef_ne _ hstep
    cases action with
    | call number call =>
        cases call with
        | reserve orderRef items key clock =>
            exact fun _ => ⟨hcalls.2.1, hcalls.2.2.1⟩
        | release orderRef => trivial
    | _ => trivial
  cases Serial.step_cases hstep with
  | call number call hidle hunused =>
      apply halone.of_copies honce halone.same rfl
      cases call with
      | reserve orderRef items key clock => exact hcalls
      | release orderRef => exact hcalls
  | answer number call outcome hsession houtcome =>
      have hself := halone.copies number
      rw [hsession] at hself
      exact halone.of_copies honce halone.same rfl hself.1
  | proceed number call hsession hitems hreplay =>
      have hself := halone.copies number
      rw [hsession] at hself
      exact halone.of_copies honce halone.same rfl hself
  | select number orderRef rows hsession hselects =>
      have hself := halone.copies number
      rw [hsession] at hself
      exact halone.of_copies honce halone.same rfl hself
  | reserve number call hsession =>
      have hself := halone.copies number
      rw [hsession] at hself
      refine halone.of_copies honce ?_ rfl hself.1
      intro row hrow
      rcases reserveBody_cases serial.db call with
        ⟨hrefused, _⟩ | ⟨_, loop, hprogress, hcommit⟩
      · rw [Serial.State.finish, hrefused] at hrow
        exact halone.same row hrow
      · rw [Serial.State.finish, hcommit] at hrow
        rcases hprogress.mem_commit hrow with hold | ⟨item, _, line, rfl⟩
        · exact halone.same row hold
        · exact iff_of_true hself.2.1 hself.2.2.2
  | release number orderRef ids hsession =>
      have hself := halone.copies number
      rw [hsession] at hself
      refine halone.of_copies honce ?_ rfl hself.1
      intro row hrow
      obtain ⟨before, hbefore, horder, hkey, _⟩ := mem_releaseBody hrow
      rw [horder, hkey]
      exact halone.same before hbefore
  | abort number hopen =>
      exact halone.of_copies honce halone.same rfl trivial

end Alone

/-! ## From the reservation to the release -/

/-- The rows of the order are one batch of the request, all in one status. -/
structure Batch (request : CreateRequest) (db : InventoryDb)
    (status : Status) : Prop where
  products : ((db.rowsForOrder request.orderRef).map
    StockReservation.productId).Perm
      (request.reserveItems.map ReserveItem.productId)
  nodup : (request.reserveItems.map ReserveItem.productId).Nodup
  status : ∀ row ∈ db.rowsForOrder request.orderRef, row.status = status

/-- The order has RELEASED rows. -/
def Released (request : CreateRequest) (db : InventoryDb) : Prop :=
  ∃ row ∈ db.rowsForOrder request.orderRef, row.status = .released

instance (request : CreateRequest) (db : InventoryDb) :
    Decidable (Released request db) :=
  inferInstanceAs (Decidable (∃ row ∈ _, _))

section Stage

variable (request : CreateRequest) (start : InventoryDb)

/-- The client before anything was reserved. -/
def Waiting (client : Client) : Prop :=
  client.release = none ∧ client.orders.get? request.orderRef = none ∧
    match client.phase with
    | .lookup => True
    | .reserve _ _ => True
    | .done _ => client.reserve = none ∨ ¬ Reservable request start
    | _ => False

/-- The client while its batch is RESERVED. -/
def Holding (client : Client) : Prop :=
  match client.phase with
  | .lookup => False
  | .release _ => client.orders.get? request.orderRef = none
  | .done _ => client.orders.get? request.orderRef ≠ none ∧
      client.release = none
  | _ => client.orders.get? request.orderRef = none ∧ client.release = none

/-- The client once its batch was released. -/
def GivenUp (client : Client) : Prop :=
  client.orders.get? request.orderRef = none ∧
    match client.phase with
    | .release _ => True
    | .done _ => True
    | _ => False

/-- Before anything was reserved a copy can only have been rejected, and then
every copy will be. -/
def WaitingSession : Serial.Session → Prop
  | .finished (.reserved outcome) =>
      outcome.success = false ∧ ¬ Reservable request start
  | _ => True

/-- While the batch is RESERVED every snapshot holds all of it, and no release
has been through. -/
def HoldingSession (rows : List StockReservation) : Serial.Session → Prop
  | .releasing _ (some ids) => ∀ row ∈ rows, row.id ∈ ids
  | .finished (.released _) => False
  | _ => True

inductive Stage (client : Client) (serial : Serial.State) : Prop
  | waiting (hdb : serial.db = start) (hclient : Waiting request start client)
      (hsessions : ∀ number,
        WaitingSession request start (serial.sessions number))
  | holding (hbatch : Batch request serial.db .reserved)
      (hclient : Holding request client)
      (hsessions : ∀ number,
        HoldingSession (serial.db.rowsForOrder request.orderRef)
          (serial.sessions number))
  | givenUp (hbatch : Batch request serial.db .released)
      (hclient : GivenUp request client)

end Stage

section Steps

variable {request : CreateRequest} {start : InventoryDb}
variable {client after : Client} {serial : Serial.State} {number : ℕ}

theorem Batch.exists_row {db : InventoryDb} {status : Status}
    (hbatch : Batch request db status) :
    ∃ row ∈ db.rowsForOrder request.orderRef, row.status = status := by
  have hrows : db.rowsForOrder request.orderRef ≠ [] := by
    intro hnone
    have hproducts := hbatch.products
    rw [hnone] at hproducts
    exact request.reserveItems_ne
      (List.map_eq_nil_iff.mp hproducts.symm.eq_nil)
  obtain ⟨row, hrow⟩ := List.exists_mem_of_ne_nil _ hrows
  exact ⟨row, hrow, hbatch.status row hrow⟩

theorem Batch.reservedForOrder_ne {db : InventoryDb}
    (hbatch : Batch request db .reserved) :
    db.reservedForOrder request.orderRef ≠ [] := by
  obtain ⟨row, hrow, hstatus⟩ := hbatch.exists_row
  obtain ⟨hmem, horder⟩ := mem_rowsForOrder_iff.mp hrow
  exact List.ne_nil_of_mem
    (mem_reservedForOrder_iff.mpr ⟨hmem, horder, hstatus⟩)

theorem Batch.reservedForOrder_eq_nil {db : InventoryDb}
    (hbatch : Batch request db .released) :
    db.reservedForOrder request.orderRef = [] := by
  rw [reservedForOrder_eq_filter, List.filter_eq_nil_iff]
  intro row hrow hreserved
  have hstatus := (hbatch.status row hrow).symm.trans
    (of_decide_eq_true hreserved)
  exact Status.noConfusion hstatus

theorem Batch.activeForKey_ne (halone : Alone request client serial)
    (hbatch : Batch request serial.db .reserved) :
    serial.db.activeForKey request.orderRef ≠ [] := by
  obtain ⟨row, hrow, hstatus⟩ := hbatch.exists_row
  obtain ⟨hmem, horder⟩ := mem_rowsForOrder_iff.mp hrow
  exact List.ne_nil_of_mem (mem_activeForKey_iff.mpr
    ⟨hmem, (halone.same row hmem).mp horder, hstatus⟩)

/-- A session moves and the tables stay. -/
theorem Stage.goto (hstage : Stage request start client serial)
    {session : Serial.Session}
    (hwaiting : serial.db = start → WaitingSession request start session)
    (hholding : Batch request serial.db .reserved →
      HoldingSession (serial.db.rowsForOrder request.orderRef) session) :
    Stage request start client (serial.goto number session) := by
  cases hstage with
  | waiting hdb hclient hsessions =>
      refine .waiting hdb hclient ?_
      rw [Serial.State.goto, Function.forall_update_iff serial.sessions
        (p := fun _ session => WaitingSession request start session)]
      exact ⟨hwaiting hdb, fun other _ => hsessions other⟩
  | holding hbatch hclient hsessions =>
      refine .holding hbatch hclient ?_
      rw [Serial.State.goto, Function.forall_update_iff serial.sessions
        (p := fun _ session => HoldingSession
          (serial.db.rowsForOrder request.orderRef) session)]
      exact ⟨hholding hbatch, fun other _ => hsessions other⟩
  | givenUp hbatch hclient => exact .givenUp hbatch hclient

theorem reserveBody_success_iff (halone : Alone request client serial)
    (hinactive : serial.db.activeForKey request.orderRef = [])
    {call : ReserveCall} {checked : Bool}
    (hsession : serial.sessions number = .reserving call checked) :
    (reserveBody serial.db call).2.success = true ↔
      Reservable request serial.db := by
  have hself := halone.copies number
  rw [hsession] at hself
  obtain ⟨_, _, hitems, hkey⟩ := hself
  have hitemsNe : call.items ≠ [] := by
    rw [hitems]
    exact request.reserveItems_ne
  rw [← hkey] at hinactive
  rw [← reserveStock_eq_body hitemsNe fun _ => hinactive,
    reserveStock_success_iff hitemsNe (hkey ▸ request.orderRef_ne) hinactive,
    hitems]
  rfl

/-- The first reservation makes the batch. -/
theorem Stage.reserve_first (halone : Alone request client serial)
    (hclient : Waiting request start client) (hdb : serial.db = start)
    (hunused : start.rowsForOrder request.orderRef = [])
    (hinactive : start.activeForKey request.orderRef = [])
    {call : ReserveCall}
    (hsession : serial.sessions number = .reserving call true)
    (hsuccess : (reserveBody serial.db call).2.success = true) :
    Stage request start client (serial.finish number
      (reserveBody serial.db call).1
      (.reserved (reserveBody serial.db call).2)) := by
  have hself := halone.copies number
  rw [hsession] at hself
  obtain ⟨hsent, horder, hitems, hkey⟩ := hself
  have hreservable : Reservable request start := by
    rw [← hdb] at hinactive ⊢
    exact (reserveBody_success_iff halone hinactive hsession).mp hsuccess
  obtain ⟨loop, hprogress, hcommit⟩ := reserveBody_success hsuccess
  have hrows : (reserveBody serial.db call).1.rowsForOrder request.orderRef =
      call.rows (sortedItems call.items) := by
    rw [hcommit, ← horder, hprogress.rowsForOrder, horder, hdb, hunused,
      List.nil_append]
  refine .holding ⟨?_, hreservable.2, ?_⟩ ?_ ?_
  · change ((reserveBody serial.db call).1.rowsForOrder _ |>.map _).Perm _
    rw [hrows, call.map_productId_rows, ← hitems]
    exact (perm_sortedItems call.items).map _
  · intro row hrow
    change row ∈ (reserveBody serial.db call).1.rowsForOrder _ at hrow
    rw [hrows] at hrow
    obtain ⟨item, _, line, rfl⟩ := ReserveCall.mem_rows hrow
    rfl
  · obtain ⟨hunreleased, hunsaved, hphase⟩ := hclient
    rw [Holding]
    split at hphase
    · exact absurd (halone.lookup ‹_›) hsent
    · simp only [‹client.phase = _›]
      exact ⟨hunsaved, hunreleased⟩
    · rcases hphase with hunsent | hnot
      · exact absurd hunsent hsent
      · exact absurd hreservable hnot
    · exact hphase.elim
  · rw [Serial.State.finish, Function.forall_update_iff serial.sessions
      (p := fun _ session => HoldingSession
        ((reserveBody serial.db call).1.rowsForOrder request.orderRef)
          session)]
    refine ⟨trivial, fun other _ => ?_⟩
    have hcopy := halone.copies other
    cases hother : serial.sessions other with
    | idle => trivial
    | reserving => trivial
    | releasing =>
        rw [hother] at hcopy
        exact absurd hclient.1 hcopy.1
    | finished result =>
        rw [hother] at hcopy
        cases result with
        | reserved => trivial
        | released => exact absurd hclient.1 hcopy
        | raised => trivial

/-- A reserve body makes the first batch, or changes nothing. -/
theorem Stage.reserve (hstage : Stage request start client serial)
    (halone : Alone request client serial)
    (hunused : start.rowsForOrder request.orderRef = [])
    (hinactive : start.activeForKey request.orderRef = [])
    {call : ReserveCall}
    (hsession : serial.sessions number = .reserving call true)
    (hcareful : (reserveBody serial.db call).2.success = true →
      ¬ Released request serial.db) :
    Stage request start client (serial.finish number
      (reserveBody serial.db call).1
      (.reserved (reserveBody serial.db call).2)) := by
  cases hsuccess : (reserveBody serial.db call).2.success with
  | false =>
      rw [reserveBody_refused hsuccess]
      refine hstage.goto ?_ fun _ => trivial
      intro hdb
      refine ⟨hsuccess, ?_⟩
      rw [← hdb] at hinactive ⊢
      rw [← reserveBody_success_iff halone hinactive hsession, hsuccess]
      exact Bool.false_ne_true
  | true =>
      cases hstage with
      | waiting hdb hclient hsessions =>
          exact .reserve_first halone hclient hdb hunused hinactive hsession
            hsuccess
      | holding hbatch hclient hsessions =>
          -- the unique index rejects a second batch
          exfalso
          have hself := halone.copies number
          rw [hsession] at hself
          obtain ⟨_, _, hitems, hkey⟩ := hself
          obtain ⟨loop, hprogress, _⟩ := reserveBody_success hsuccess
          apply hbatch.activeForKey_ne halone
          apply halone.once.rows.nil_of_free
          intro item hitem
          rw [← hitems] at hitem
          rw [← hkey]
          exact (hprogress.index (hkey ▸ request.orderRef_ne)).2 item
            ((perm_sortedItems call.items).mem_iff.mpr hitem)
      | givenUp hbatch hclient =>
          exact absurd hbatch.exists_row (hcareful hsuccess)

theorem products_releaseBody (db : InventoryDb)
    (rows : List StockReservation) (orderRef : CharField128) :
    ((releaseBody db rows).1.rowsForOrder orderRef).map
        StockReservation.productId =
      (db.rowsForOrder orderRef).map StockReservation.productId := by
  rw [rowsForOrder_releaseBody, List.map_map]
  simp only [Function.comp_def, Tx.applyToRow_productId]

/-- A release ends with the batch released. -/
theorem Stage.release (hstage : Stage request start client serial)
    (halone : Alone request client serial) {orderRef : CharField128}
    {ids : List RowId}
    (hsession : serial.sessions number = .releasing orderRef (some ids))
    (result : Interleaved.Result) :
    Stage request start client (serial.finish number (releaseBody serial.db
      (Serial.currentRows serial.db orderRef ids)).1 result) := by
  have hself := halone.copies number
  rw [hsession] at hself
  obtain ⟨hsent, rfl⟩ := hself
  have hreleased : ∀ status, Batch request serial.db status →
      (∀ row ∈ serial.db.rowsForOrder request.orderRef,
        row.status = .reserved → row.id ∈ ids) →
      Batch request (releaseBody serial.db (Serial.currentRows serial.db
        request.orderRef ids)).1 .released := by
    intro status hbatch hall
    refine ⟨?_, hbatch.nodup, ?_⟩
    · rw [products_releaseBody]
      exact hbatch.products
    · intro row hrow
      rw [rowsForOrder_releaseBody] at hrow
      obtain ⟨before, hbefore, rfl⟩ := List.mem_map.mp hrow
      obtain ⟨hmem, horder⟩ := mem_rowsForOrder_iff.mp hbefore
      rw [Tx.applyToRow]
      split
      · rfl
      · rename_i hkept
        rw [mem_released_iff, Serial.mem_map_currentRows_iff
          halone.once.fresh.ids_nodup hmem] at hkept
        cases hstatus : before.status with
        | reserved =>
            exact absurd ⟨hall before hbefore hstatus, horder, hstatus⟩ hkept
        | released => rfl
  cases hstage with
  | waiting hdb hclient hsessions => exact absurd hclient.1 hsent
  | holding hbatch hclient hsessions =>
      have hsnapshot := hsessions number
      rw [hsession] at hsnapshot
      refine .givenUp (hreleased .reserved hbatch fun row hrow _ =>
        hsnapshot row hrow) ?_
      rw [Holding] at hclient
      split at hclient
      · exact hclient.elim
      · refine ⟨hclient, ?_⟩
        simp only [‹client.phase = _›]
      · exact absurd hclient.2 hsent
      · exact absurd hclient.2 hsent
  | givenUp hbatch hclient =>
      refine .givenUp (hreleased .released hbatch ?_) hclient
      intro row hrow hstatus
      exact Status.noConfusion ((hbatch.status row hrow).symm.trans hstatus)

/-- A serial step, when no reservation is made after the release. -/
theorem Stage.transaction (hstage : Stage request start client serial)
    (halone : Alone request client serial)
    (hunused : start.rowsForOrder request.orderRef = [])
    (hinactive : start.activeForKey request.orderRef = [])
    {action : Serial.Action} {next : Serial.State}
    (hcareful : ∀ number call, action = .body number →
      serial.sessions number = .reserving call true →
        (reserveBody serial.db call).2.success = true →
          ¬ Released request serial.db)
    (hstep : Serial.step serial action = some next) :
    Stage request start client next := by
  cases Serial.step_cases hstep with
  | call number call hidle hunusedNumber =>
      apply hstage.goto
      · intro _
        cases call <;> trivial
      · intro _
        cases call <;> trivial
  | answer number call outcome hsession houtcome =>
      refine hstage.goto ?_ fun _ => trivial
      intro hdb
      have hself := halone.copies number
      rw [hsession] at hself
      obtain ⟨_, _, hitems, hkey⟩ := hself
      rcases houtcome with ⟨_, hempty⟩ | ⟨_, hreplay⟩
      · exact absurd (hitems.symm.trans hempty) request.reserveItems_ne
      · have hnone : replay? serial.db call.idempotencyKey = none := by
          rw [hkey, hdb]
          exact (replay?_eq_none_iff _ _).mpr fun _ => hinactive
        exact absurd (hnone.symm.trans hreplay) (by simp)
  | proceed number call hsession hitems hreplay =>
      exact hstage.goto (fun _ => trivial) fun _ => trivial
  | select number orderRef rows hsession hselects =>
      refine hstage.goto (fun _ => trivial) ?_
      intro hbatch row hrow
      have hself := halone.copies number
      rw [hsession] at hself
      obtain ⟨hmem, horder⟩ := mem_rowsForOrder_iff.mp hrow
      apply List.mem_map_of_mem
      rw [hselects.1.mem_iff, mem_reservedForOrder_iff, hself.2]
      exact ⟨hmem, horder, hbatch.status row hrow⟩
  | reserve number call hsession =>
      exact hstage.reserve halone hunused hinactive hsession
        (hcareful number call rfl hsession)
  | release number orderRef ids hsession =>
      exact hstage.release halone hsession _
  | abort number hopen =>
      exact hstage.goto (fun _ => trivial) fun _ => trivial

/-! ## The steps of the client -/

theorem Stage.session (hstage : Stage request start client serial)
    (hcase : SessionCase request client after) :
    Stage request start after serial := by
  cases hstage with
  | waiting hdb hclient hsessions =>
      refine .waiting hdb ?_ hsessions
      obtain ⟨hunreleased, hunsaved, hphase⟩ := hclient
      cases hcase with
      | found order _ hfound => simp [hunsaved] at hfound
      | notEncodable _ => exact ⟨hunreleased, hunsaved, .inl rfl⟩
      | sent _ _ => exact ⟨hunreleased, hunsaved, trivial⟩
      | saved hpersist _ => simp [hpersist] at hphase
      | notSaved hpersist => simp [hpersist] at hphase
      | rolledBack hrollback => simp [hrollback] at hphase
  | holding hbatch hclient hsessions =>
      refine .holding hbatch ?_ hsessions
      rw [Holding] at hclient
      cases hcase with
      | found order hlookup _ => simp [hlookup] at hclient
      | notEncodable hlookup => simp [hlookup] at hclient
      | sent hlookup _ => simp [hlookup] at hclient
      | saved hpersist hfresh =>
          simp only [hpersist] at hclient
          have hsaved : OrderDb.get? (client.orders ++ [request.order])
              request.order.id = some request.order := get?_concat hfresh
          exact ⟨fun hnone => Option.some_ne_none _
            (hsaved.symm.trans hnone), hclient.2⟩
      | notSaved hpersist =>
          simp only [hpersist] at hclient
          exact hclient
      | rolledBack hrollback =>
          simp only [hrollback] at hclient
          exact hclient.1
  | givenUp hbatch hclient =>
      refine .givenUp hbatch ?_
      obtain ⟨hunsaved, hphase⟩ := hclient
      cases hcase with
      | found order hlookup _ => simp [hlookup] at hphase
      | notEncodable hlookup => simp [hlookup] at hphase
      | sent hlookup _ => simp [hlookup] at hphase
      | saved hpersist _ => simp [hpersist] at hphase
      | notSaved hpersist => simp [hpersist] at hphase
      | rolledBack hrollback => simp [hrollback] at hphase

theorem finished_of_result {session : Serial.Session}
    {result : Interleaved.Result} (hresult : session.result? = some result) :
    session = .finished result := by
  cases session with
  | finished other =>
      rw [Serial.Session.result?, Option.some.injEq] at hresult
      rw [hresult]
  | idle => simp [Serial.Session.result?] at hresult
  | reserving => simp [Serial.Session.result?] at hresult
  | releasing => simp [Serial.Session.result?] at hresult

/-- The client takes an answer, but no rejection while stock is RESERVED. -/
theorem Stage.answer (hstage : Stage request start client serial)
    {result : Interleaved.Result}
    (hresult : (serial.sessions number).result? = some result)
    (hcareful : ∀ outcome, result = .reserved outcome →
      outcome.success = false →
        serial.db.reservedForOrder request.orderRef = [])
    (hcase : AnswerCase request client result after) :
    Stage request start after serial := by
  have hsession := finished_of_result hresult
  cases hstage with
  | waiting hdb hclient hsessions =>
      refine .waiting hdb ?_ hsessions
      obtain ⟨hunreleased, hunsaved, hphase⟩ := hclient
      have hself := hsessions number
      rw [hsession] at hself
      cases hcase with
      | reserved outcome message _ hsuccess =>
          exact absurd (hsuccess.symm.trans hself.1) Bool.noConfusion
      | rejected outcome message exit _ _ =>
          exact ⟨hunreleased, hunsaved, .inr hself.2⟩
      | released outcome exit hrelease => simp [hrelease] at hphase
  | holding hbatch hclient hsessions =>
      refine .holding hbatch ?_ hsessions
      rw [Holding] at hclient
      cases hcase with
      | reserved outcome message hreserve _ =>
          simp only [hreserve] at hclient
          exact hclient
      | rejected outcome message exit _ hfailed =>
          exact absurd (hcareful outcome rfl hfailed)
            hbatch.reservedForOrder_ne
      | released outcome exit _ =>
          have hself := hsessions number
          rw [hsession] at hself
          exact hself.elim
  | givenUp hbatch hclient =>
      refine .givenUp hbatch ?_
      obtain ⟨hunsaved, hphase⟩ := hclient
      cases hcase with
      | reserved outcome message hreserve _ => simp [hreserve] at hphase
      | rejected outcome message exit hreserve _ => simp [hreserve] at hphase
      | released outcome exit _ => exact ⟨hunsaved, trivial⟩

end Steps

/-! ## Further copies -/

section Copies

variable {request : CreateRequest} {start : InventoryDb}
variable {state : State} {client : Client} {serial next : Serial.State}
variable {action : Action}

/-- A client that has only counted a copy. -/
structure SameClient (client after : Client) : Prop where
  orders : after.orders = client.orders
  phase : after.phase = client.phase
  reserve : after.reserve = client.reserve
  release : after.release = client.release

theorem sameClient_countReserve (client : Client) :
    SameClient client client.countReserve :=
  ⟨rfl, rfl, rfl, rfl⟩

theorem sameClient_countRelease (client : Client) :
    SameClient client client.countRelease :=
  ⟨rfl, rfl, rfl, rfl⟩

theorem Alone.of_sameClient {after : Client}
    (halone : Alone request client serial)
    (hsame : SameClient client after) : Alone request after serial where
  once := halone.once
  same := halone.same
  copies number := (halone.copies number).mono (hsame.reserve ▸ id)
    (hsame.release ▸ id)
  sent := hsame.reserve ▸ halone.sent
  released := hsame.release ▸ halone.released
  lookup := by
    rw [hsame.phase, hsame.reserve]
    exact halone.lookup
  carries := hsame.phase ▸ halone.carries

theorem Alone.step (halone : Alone request state.client serial)
    (hcase : StepCase request state serial action client next) :
    Alone request client next := by
  cases hcase with
  | session commitFails client hclient =>
      exact halone.session (session?_cases halone.carries hclient)
  | reserveCopy number clock message next hsent hserial =>
      have hmessage := halone.sent message hsent
      subst hmessage
      refine (halone.transaction ?_ hserial).of_sameClient
        (sameClient_countReserve _)
      exact ⟨fun hnone => Option.some_ne_none _ (hsent.symm.trans hnone),
        rfl, rfl, rfl⟩
  | releaseCopy number orderRef next hsent hserial =>
      refine (halone.transaction ?_ hserial).of_sameClient
        (sameClient_countRelease _)
      exact ⟨fun hnone => Option.some_ne_none _ (hsent.symm.trans hnone),
        halone.released orderRef hsent⟩
  | statement action hevent => exact halone
  | transaction action seen next hevent hcalls hserial =>
      refine halone.transaction ?_ hserial
      cases seen with
      | call number call => exact hcalls.elim
      | _ => trivial
  | answer number result client hresult hclient =>
      exact halone.answer (answer?_cases halone.carries hclient)

theorem Stage.of_sameClient {after : Client}
    (hstage : Stage request start client serial)
    (hsame : SameClient client after) : Stage request start after serial := by
  obtain ⟨horders, hphase, hreserve, hrelease⟩ := hsame
  cases hstage with
  | waiting hdb hclient hsessions =>
      refine .waiting hdb ?_ hsessions
      rw [Waiting, horders, hphase, hreserve, hrelease]
      exact hclient
  | holding hbatch hclient hsessions =>
      refine .holding hbatch ?_ hsessions
      rw [Holding, horders, hphase, hrelease]
      exact hclient
  | givenUp hbatch hclient =>
      refine .givenUp hbatch ?_
      rw [GivenUp, horders, hphase]
      exact hclient

end Copies

end OrderFlow.Orders.RetryPolicy
