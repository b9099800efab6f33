import OrderFlow.Inventory.Refinement
import OrderFlow.Inventory.ReleaseSpec

/-!
# Every interleaved run is a serial run

The relation of `Refinement` is kept by every statement.  A commit changes
only what the committing session holds, so no other session notices it; the
statement that ends a transaction is matched by the whole body of the call.
-/

namespace OrderFlow.Inventory.Refinement

open OrderFlow
open OrderFlow.TransitionSystem
open OrderFlow.Inventory.Interleaved

/-! ## What a commit may touch -/

/-- The pending writes of a session lie within what it holds. -/
structure Footprint (db : InventoryDb) (holdsProduct : ℤ → Prop)
    (holdsRow : RowId → Prop) (number : ℕ) (tx : Tx) : Prop where
  writes : ∀ productId, tx.writes productId ≠ none → holdsProduct productId
  inserted : ∀ row ∈ tx.inserted,
    holdsProduct row.productId ∧ row.id.call = number
  fresh : ∀ row ∈ tx.inserted,
    row.id ∉ db.reservations.map StockReservation.id
  inserted_nodup : (tx.inserted.map StockReservation.id).Nodup
  released : ∀ id ∈ tx.released, holdsRow id
  products : ∀ row ∈ db.reservations, row.id ∈ tx.released →
    db.available? row.productId ≠ none → holdsProduct row.productId

theorem stillReserved?_commit {db : InventoryDb} {tx : Tx}
    (orderRef : CharField128) {id : RowId}
    (hinserted : ∀ row ∈ tx.inserted, row.id ≠ id) :
    (db.commit tx).stillReserved? orderRef id =
      if id ∈ tx.released then none else db.stillReserved? orderRef id := by
  have hnew : tx.inserted.find? (fun row => decide (row.id = id ∧
      row.orderRef = orderRef ∧ row.status = .reserved)) = none := by
    rw [List.find?_eq_none]
    intro row hrow hmatch
    exact hinserted row hrow (of_decide_eq_true hmatch).1
  rw [InventoryDb.stillReserved?, InventoryDb.stillReserved?,
    InventoryDb.commit, List.find?_append, hnew, Option.or_none,
    List.find?_map]
  by_cases hreleased : id ∈ tx.released
  · rw [if_pos hreleased, Option.map_eq_none_iff, List.find?_eq_none]
    intro row _ hmatch
    have hfields := of_decide_eq_true hmatch
    rw [Tx.applyToRow_id, Tx.applyToRow_status_reserved_iff] at hfields
    exact hfields.2.2.1 (hfields.1 ▸ hreleased)
  · rw [if_neg hreleased]
    have hkeep : ∀ row : StockReservation, row.id = id →
        tx.applyToRow row = row :=
      fun row hid => Tx.applyToRow_of_not_mem (hid ▸ hreleased)
    have hfilter : (fun row => decide (row.id = id ∧
        row.orderRef = orderRef ∧ row.status = .reserved)) ∘ tx.applyToRow =
          fun row => decide (row.id = id ∧ row.orderRef = orderRef ∧
            row.status = .reserved) := by
      funext row
      rw [Function.comp_apply, decide_eq_decide, Tx.applyToRow_id]
      apply and_congr_right
      intro hid
      rw [hkeep row hid]
    rw [hfilter]
    cases hfound : db.reservations.find? (fun row => decide (row.id = id ∧
        row.orderRef = orderRef ∧ row.status = .reserved)) with
    | none => rfl
    | some row =>
        have hmatch := List.find?_some hfound
        rw [Option.map_some, hkeep row (of_decide_eq_true hmatch).1]

/-- A commit within the footprint of one session is invisible to a session
that holds none of it. -/
theorem Footprint.agrees {db : InventoryDb} {tx : Tx}
    {holdsProduct otherProduct : ℤ → Prop}
    {holdsRow otherRow : RowId → Prop} {number other : ℕ}
    (hfootprint : Footprint db holdsProduct holdsRow number tx)
    (hproducts : ∀ productId, otherProduct productId →
      ¬ holdsProduct productId)
    (hrows : ∀ id, otherRow id → ¬ holdsRow id) (hne : other ≠ number) :
    Agrees otherProduct otherRow other db (db.commit tx) where
  available productId hheld := by
    have hunwritten : tx.writes productId = none := by
      by_contra hwritten
      exact hproducts productId hheld (hfootprint.writes productId hwritten)
    rw [InventoryDb.available?_commit, Tx.available?, hunwritten]
    simp
  missing productId := by
    rw [InventoryDb.available?_commit, Tx.available?_eq_none_iff]
  active key productId hheld hexists := by
    have hnew : (tx.inserted.any fun row => decide
        (row.idempotencyKey = key ∧ row.productId = productId ∧
          row.status = .reserved)) = false := by
      rw [List.any_eq_false]
      intro row hrow hmatch
      have hproduct := (of_decide_eq_true hmatch).2.1
      exact hproducts productId hheld
        (hproduct ▸ (hfootprint.inserted row hrow).1)
    rw [InventoryDb.hasActive, InventoryDb.hasActive, InventoryDb.commit,
      List.any_append, hnew, Bool.or_false, List.any_map]
    rw [Bool.eq_iff_iff, List.any_eq_true, List.any_eq_true]
    refine exists_congr fun row => and_congr_right fun hrow => ?_
    by_cases hreleased : row.id ∈ tx.released
    · have hother : row.productId ≠ productId := by
        rintro rfl
        exact hproducts _ hheld
          (hfootprint.products row hrow hreleased hexists)
      simp [hother]
    · rw [Function.comp_apply, Tx.applyToRow_of_not_mem hreleased]
  locked orderRef id hknown hheld := by
    have hkept : id ∉ tx.released := fun hreleased =>
      hrows id hheld (hfootprint.released id hreleased)
    rw [stillReserved?_commit orderRef (fun row hrow hsame =>
      hfootprint.fresh row hrow (hsame ▸ hknown)), if_neg hkept]
  gone orderRef id hknown hgone := by
    rw [stillReserved?_commit orderRef (fun row hrow hsame =>
      hfootprint.fresh row hrow (hsame ▸ hknown)), hgone, ite_self]
  ids id hid := by
    obtain ⟨row, hrow, rfl⟩ := List.mem_map.mp hid
    refine List.mem_map.mpr ⟨tx.applyToRow row, ?_, Tx.applyToRow_id tx row⟩
    exact List.mem_append_left _ (List.mem_map_of_mem hrow)
  unused hunused row hrow := by
    rcases List.mem_append.mp hrow with hold | hnew
    · obtain ⟨before, hbefore, rfl⟩ := List.mem_map.mp hold
      rw [Tx.applyToRow_id]
      exact hunused before hbefore
    · rw [(hfootprint.inserted row hnew).2]
      exact Ne.symm hne

/-- A commit keeps the primary keys distinct. -/
theorem Footprint.ids_nodup {db : InventoryDb} {tx : Tx}
    {holdsProduct : ℤ → Prop} {holdsRow : RowId → Prop} {number : ℕ}
    (hfootprint : Footprint db holdsProduct holdsRow number tx)
    (hids : (db.reservations.map StockReservation.id).Nodup) :
    ((db.commit tx).reservations.map StockReservation.id).Nodup := by
  have hold : (db.reservations.map tx.applyToRow).map StockReservation.id =
      db.reservations.map StockReservation.id := by
    simp [Function.comp_def]
  rw [InventoryDb.commit, List.map_append, hold, List.nodup_append]
  refine ⟨hids, hfootprint.inserted_nodup, ?_⟩
  rintro id hid other hother rfl
  obtain ⟨row, hrow, rfl⟩ := List.mem_map.mp hother
  exact hfootprint.fresh row hrow hid

theorem ReserveOk.footprint {db : InventoryDb} {holdsProduct : ℤ → Prop}
    {holdsRow : RowId → Prop} {number : ℕ} {call : ReserveCall}
    {done todo : List ReserveItem} {loop : ReserveLoop}
    (hok : ReserveOk db holdsProduct call done todo loop)
    (hnumber : call.number = number)
    (hunused : ∀ row ∈ db.reservations, row.id.call ≠ number) :
    Footprint db holdsProduct holdsRow number loop.tx := by
  obtain ⟨accepted, hprogress⟩ := reserveLoop_progress hok.loop_eq
  have hheld : ∀ item ∈ accepted, holdsProduct item.productId := by
    intro item hitem
    obtain ⟨available, havailable, _⟩ := hprogress.covered item hitem
    exact hok.covers item (hprogress.sublist.subset hitem)
      (hprogress.positive item hitem) (by simp [havailable])
  have hrow : ∀ row ∈ loop.tx.inserted,
      holdsProduct row.productId ∧ row.id.call = number := by
    intro row hrow
    rw [hprogress.inserted] at hrow
    obtain ⟨item, hitem, line, rfl⟩ := ReserveCall.mem_rows hrow
    exact ⟨hheld item hitem, hnumber⟩
  refine
    { writes := ?_
      inserted := hrow
      fresh := ?_
      inserted_nodup := ?_
      released := ?_
      products := ?_ }
  · intro productId hwritten
    obtain ⟨item, hitem, rfl⟩ := hprogress.written productId hwritten
    exact hheld item hitem
  · intro row hinserted hknown
    obtain ⟨before, hbefore, hsame⟩ := List.mem_map.mp hknown
    apply hunused before hbefore
    rw [hsame]
    exact (hrow row hinserted).2
  · rw [hprogress.inserted]
    exact call.rows_ids_nodup accepted
  · simp [hprogress.released]
  · simp [hprogress.released]

theorem ReleaseOk.footprint {db : InventoryDb} {holdsProduct : ℤ → Prop}
    {holdsRow : RowId → Prop} {number : ℕ} {orderRef : CharField128}
    {ids : List RowId} {done todo reservations : List StockReservation}
    (hok : ReleaseOk db holdsProduct holdsRow orderRef ids done todo
      reservations)
    (hids : (db.reservations.map StockReservation.id).Nodup) :
    Footprint db holdsProduct holdsRow number
      (releaseLoop db .start done) := by
  have hprogress := releaseLoop_progress db done
  have hdone : ∀ row ∈ done, row ∈ reservations := fun row hrow =>
    hok.split ▸ List.mem_append_left todo hrow
  refine
    { writes := ?_
      inserted := by simp [hprogress.inserted]
      fresh := by simp [hprogress.inserted]
      inserted_nodup := by simp [hprogress.inserted]
      released := ?_
      products := ?_ }
  · intro productId hwritten
    rw [hprogress.writes] at hwritten
    by_cases hmem : productId ∈ done.map StockReservation.productId
    · rw [if_pos hmem, Ne, Option.map_eq_none_iff] at hwritten
      obtain ⟨row, hrow, rfl⟩ := List.mem_map.mp hmem
      exact hok.covers row hrow hwritten
    · rw [if_neg hmem] at hwritten
      exact absurd rfl hwritten
  · intro id hid
    rw [hprogress.released] at hid
    obtain ⟨row, hrow, rfl⟩ := List.mem_map.mp hid
    exact hok.held row (hdone row hrow)
  · intro row hrow hreleased hexists
    rw [hprogress.released] at hreleased
    obtain ⟨other, hother, hsame⟩ := List.mem_map.mp hreleased
    have hcurrent : other ∈ db.reservations :=
      (Serial.mem_currentRows (hok.rows ▸ hdone other hother)).1
    have hrowEq : other = row :=
      List.inj_on_of_nodup_map hids hcurrent hrow hsame
    subst hrowEq
    exact hok.covers other hother hexists

/-! ## The relation of whole states -/

/-- The interleaved and the serial state: the same committed tables, and every
session at the same point. -/
structure Related (state : Interleaved.State) (serial : Serial.State) :
    Prop where
  db : serial.db = state.db
  ids_nodup : (state.db.reservations.map StockReservation.id).Nodup
  sessions : ∀ number, SessionRelated state.db
    (state.productLocks.Holds number) (state.rowLocks.Holds number) number
    (state.sessions number) (serial.sessions number)

theorem Related.init {db : InventoryDb}
    (hids : (db.reservations.map StockReservation.id).Nodup) :
    Related (.init db) (.init db) where
  db := rfl
  ids_nodup := hids
  sessions _ := .idle

theorem Related.result {state : Interleaved.State} {serial : Serial.State}
    (hrelated : Related state serial) (number : ℕ) :
    (serial.sessions number).result? = (state.sessions number).result? := by
  have hsession := hrelated.sessions number
  revert hsession
  cases state.sessions number <;> cases serial.sessions number <;>
    intro hsession <;> cases hsession <;> rfl

/-- A session may take further locks; nobody else loses one. -/
structure LocksMore (number : ℕ) (state next : Interleaved.State) : Prop where
  db : next.db = state.db
  sessions : next.sessions = state.sessions
  products : ∀ owner productId, state.productLocks.Holds owner productId →
    next.productLocks.Holds owner productId
  rows : ∀ owner id, state.rowLocks.Holds owner id →
    next.rowLocks.Holds owner id

theorem LocksMore.refl (number : ℕ) (state : Interleaved.State) :
    LocksMore number state state where
  db := rfl
  sessions := rfl
  products _ _ hheld := hheld
  rows _ _ hheld := hheld

theorem LocksMore.lockProduct {number : ℕ} {state : Interleaved.State}
    {productId : ℤ}
    (hgrant : state.productLocks.Grantable number productId) :
    LocksMore number state (state.lockProduct number productId) where
  db := rfl
  sessions := rfl
  products owner held hheld := by
    by_cases hsame : owner = number
    · subst hsame
      exact hheld.acquire productId
    · exact hheld.acquire_other hsame hgrant
  rows _ _ hheld := hheld

theorem LocksMore.lockRow {number : ℕ} {state : Interleaved.State}
    {id : RowId} (hgrant : state.rowLocks.Grantable number id) :
    LocksMore number state (state.lockRow number id) where
  db := rfl
  sessions := rfl
  products _ _ hheld := hheld
  rows owner held hheld := by
    by_cases hsame : owner = number
    · subst hsame
      exact hheld.acquire id
    · exact hheld.acquire_other hsame hgrant

theorem LocksMore.lockIndex (number : ℕ) (state : Interleaved.State)
    (key : CharField128) (productId : ℤ) :
    LocksMore number state (state.lockIndex number key productId) := by
  by_cases hkey : key = .empty
  · rw [Interleaved.State.lockIndex, if_pos hkey]
    exact .refl number state
  · rw [Interleaved.State.lockIndex, if_neg hkey]
    exact ⟨rfl, rfl, fun _ _ hheld => hheld, fun _ _ hheld => hheld⟩

/-- One session moves on, in both systems. -/
theorem Related.goto {state locked : Interleaved.State}
    {serial : Serial.State} (hrelated : Related state serial) {number : ℕ}
    (hmore : LocksMore number state locked) {next : Interleaved.Session}
    {serialNext : Serial.Session}
    (hself : SessionRelated state.db (locked.productLocks.Holds number)
      (locked.rowLocks.Holds number) number next serialNext) :
    Related (locked.goto number next) (serial.goto number serialNext) where
  db := hrelated.db.trans hmore.db.symm
  ids_nodup := by
    rw [Interleaved.State.goto, hmore.db]
    exact hrelated.ids_nodup
  sessions other := by
    simp only [Interleaved.State.goto, Serial.State.goto, hmore.db,
      hmore.sessions]
    by_cases hsame : other = number
    · subst hsame
      simpa using hself
    · rw [Function.update_of_ne hsame, Function.update_of_ne hsame]
      exact (hrelated.sessions other).stable (Agrees.refl _ _ _ _)
        (fun productId => hmore.products other productId)
        (fun id => hmore.rows other id)

/-- One session moves on by a statement the serial system does not see. -/
theorem Related.goto_internal {state locked : Interleaved.State}
    {serial : Serial.State} (hrelated : Related state serial) {number : ℕ}
    (hmore : LocksMore number state locked) {next : Interleaved.Session}
    (hself : SessionRelated state.db (locked.productLocks.Holds number)
      (locked.rowLocks.Holds number) number next (serial.sessions number)) :
    Related (locked.goto number next) serial := by
  have hsame : serial.goto number (serial.sessions number) = serial := by
    rw [Serial.State.goto, Function.update_eq_self]
  rw [← hsame]
  exact hrelated.goto hmore hself

/-- The end of a transaction that committed `tx`; nothing was written when it
was rolled back. -/
theorem Related.finish {state : Interleaved.State} {serial : Serial.State}
    (hrelated : Related state serial) {number : ℕ} {db : InventoryDb}
    (hagrees : ∀ other, other ≠ number →
      Agrees (state.productLocks.Holds other) (state.rowLocks.Holds other)
        other state.db db)
    (hids : (db.reservations.map StockReservation.id).Nodup)
    (result : Result) :
    Related (state.finish number db result)
      (serial.finish number db result) where
  db := rfl
  ids_nodup := hids
  sessions other := by
    simp only [Interleaved.State.finish, Serial.State.finish]
    by_cases hsame : other = number
    · subst hsame
      simpa using SessionRelated.finished result
    · rw [Function.update_of_ne hsame, Function.update_of_ne hsame]
      exact (hrelated.sessions other).stable (hagrees other hsame)
        (fun _ hheld => hheld.releaseAll_other hsame)
        (fun _ hheld => hheld.releaseAll_other hsame)

theorem Related.finish_rollback {state : Interleaved.State}
    {serial : Serial.State} (hrelated : Related state serial) (number : ℕ)
    (result : Result) :
    Related (state.finish number state.db result)
      (serial.finish number serial.db result) := by
  rw [hrelated.db]
  exact hrelated.finish (fun _ _ => Agrees.refl _ _ _ _) hrelated.ids_nodup
    result

theorem Related.finish_commit {state : Interleaved.State}
    {serial : Serial.State} (hrelated : Related state serial) {number : ℕ}
    {tx : Tx} (hfootprint : Footprint state.db
      (state.productLocks.Holds number) (state.rowLocks.Holds number) number
      tx) (result : Result) :
    Related (state.finish number (state.db.commit tx) result)
      (serial.finish number (state.db.commit tx) result) := by
  refine hrelated.finish (fun other hne => ?_)
    (hfootprint.ids_nodup hrelated.ids_nodup) result
  exact hfootprint.agrees
    (fun _ hother hself => hne (hother.owner_eq hself))
    (fun _ hother hself => hne (hother.owner_eq hself)) hne

theorem Related.reserving {state : Interleaved.State} {serial : Serial.State}
    (hrelated : Related state serial) {number : ℕ} {call : ReserveCall}
    {phase : ReservePhase}
    (hsession : state.sessions number = .reserving call phase) :
    ∃ checked, serial.sessions number = .reserving call checked ∧
      call.number = number ∧
      (∀ row ∈ state.db.reservations, row.id.call ≠ number) ∧
      ReservePhaseRelated state.db (state.productLocks.Holds number) call
        checked phase := by
  have hself := hrelated.sessions number
  rw [hsession] at hself
  generalize serial.sessions number = session at hself
  cases hself with
  | reserving hnumber hunused hphase =>
      exact ⟨_, rfl, hnumber, hunused, hphase⟩

theorem Related.releasing {state : Interleaved.State} {serial : Serial.State}
    (hrelated : Related state serial) {number : ℕ} {orderRef : CharField128}
    {phase : ReleasePhase}
    (hsession : state.sessions number = .releasing orderRef phase) :
    ∃ snapshot, serial.sessions number = .releasing orderRef snapshot ∧
      ReleasePhaseRelated state.db (state.productLocks.Holds number)
        (state.rowLocks.Holds number) orderRef snapshot phase := by
  have hself := hrelated.sessions number
  rw [hsession] at hself
  generalize serial.sessions number = session at hself
  cases hself with
  | releasing hphase => exact ⟨_, rfl, hphase⟩

/-! ## The statements of `reserve_stock` -/

section Reserve

variable {state : Interleaved.State} {serial : Serial.State}
variable {number : ℕ} {call : ReserveCall}

theorem Related.replayCheck (hrelated : Related state serial)
    (hsession : state.sessions number = .reserving call .replayCheck) :
    ∃ next, Serial.step serial (.check number) = some next ∧
      Related (stepReplayCheck state number call) next := by
  obtain ⟨checked, hserial, hnumber, hunused, hphase⟩ :=
    hrelated.reserving hsession
  have hchecked : checked = false := hphase
  subst hchecked
  refine ⟨Serial.stepCheck serial number call, by simp [Serial.step, hserial],
    ?_⟩
  rw [stepReplayCheck, Serial.stepCheck]
  by_cases hitems : call.items = []
  · rw [if_pos hitems, if_pos hitems]
    exact hrelated.finish_rollback number _
  rw [if_neg hitems, if_neg hitems, hrelated.db]
  cases replay? state.db call.idempotencyKey with
  | some outcome =>
      have hfinish := hrelated.finish_rollback number (.reserved outcome)
      rwa [hrelated.db] at hfinish
  | none =>
      apply hrelated.goto (.refl number state)
      refine .reserving hnumber hunused ⟨rfl, [], rfl, rfl, ?_⟩
      exact fun item hitem => absurd hitem List.not_mem_nil

/-- The lines processed so far, one more of them. -/
theorem ReserveOk.next {db : InventoryDb} {holdsProduct holdsMore : ℤ → Prop}
    {done todo : List ReserveItem} {item : ReserveItem}
    {loop next : ReserveLoop}
    (hok : ReserveOk db holdsProduct call done (item :: todo) loop)
    (hmore : ∀ productId, holdsProduct productId → holdsMore productId)
    (hline : reserveLine db call loop item = .ok next)
    (hheld : 0 < item.quantity → db.available? item.productId ≠ none →
      holdsMore item.productId) :
    ReserveOk db holdsMore call (done ++ [item]) todo next where
  sorted := by
    rw [List.append_assoc]
    exact hok.sorted
  loop_eq := (reserveLoop_concat item hok.loop_eq).trans hline
  covers other hother hquantity hexists := by
    rcases List.mem_append.mp hother with hearlier | hnow
    · exact hmore _ (hok.covers other hearlier hquantity hexists)
    · rw [List.mem_singleton] at hnow
      subst hnow
      exact hheld hquantity hexists

/-- At the end of the loop the serial body has the same result. -/
theorem Related.loopEnd_body (hrelated : Related state serial)
    {loop : ReserveLoop}
    (hsession : state.sessions number = .reserving call (.loopHead [] loop)) :
    serial.sessions number = .reserving call true ∧
      reserveBody state.db call = loop.finish state.db := by
  obtain ⟨checked, hserial, _, _, hchecked, done, hok⟩ :=
    hrelated.reserving hsession
  subst hchecked
  have hsorted : done = sortedItems call.items := by
    rw [← hok.sorted, List.append_nil]
  refine ⟨hserial, ?_⟩
  rw [reserveBody, ← hsorted, hok.loop_eq]

theorem Related.loopEnd (hrelated : Related state serial)
    {loop : ReserveLoop}
    (hsession : state.sessions number = .reserving call (.loopHead [] loop)) :
    ∃ next, Serial.step serial (.body number) = some next ∧
      Related (state.finish number (loop.finish state.db).1
        (.reserved (loop.finish state.db).2)) next := by
  obtain ⟨hserial, hbody⟩ := hrelated.loopEnd_body hsession
  obtain ⟨_, _, hnumber, hunused, _, done, hok⟩ :=
    hrelated.reserving hsession
  refine ⟨serial.finish number (loop.finish state.db).1
    (.reserved (loop.finish state.db).2),
    by simp [Serial.step, hserial, hrelated.db, hbody], ?_⟩
  cases hallOk : loop.allOk with
  | true =>
      simp only [ReserveLoop.finish, hallOk, if_true]
      exact hrelated.finish_commit (hok.footprint hnumber hunused) _
  | false =>
      simp only [ReserveLoop.finish, hallOk]
      have hfinish := hrelated.finish_rollback number
        (.reserved ⟨false, loop.outcomes⟩)
      rwa [hrelated.db] at hfinish

theorem Related.loopHead (hrelated : Related state serial)
    {item : ReserveItem} {todo : List ReserveItem} {loop : ReserveLoop}
    {next : Interleaved.State}
    (hsession : state.sessions number =
      .reserving call (.loopHead (item :: todo) loop))
    (hstep : stepLoopHead state number call loop (item :: todo) = some next) :
    Related next serial := by
  obtain ⟨checked, hserial, hnumber, hunused, hchecked, done, hok⟩ :=
    hrelated.reserving hsession
  subst hchecked
  rw [stepLoopHead] at hstep
  by_cases hquantity : item.quantity ≤ 0
  · rw [if_pos hquantity, Option.some.injEq] at hstep
    subst hstep
    have hline : reserveLine state.db call loop item =
        .ok (loop.reject item "quantity must be positive") := by
      rw [reserveLine, if_pos hquantity]
    apply hrelated.goto_internal (.refl number state)
    rw [hserial]
    exact .reserving hnumber hunused ⟨rfl, done ++ [item],
      hok.next (fun _ hheld => hheld) hline
        fun hpositive => absurd hquantity (not_le.mpr hpositive)⟩
  rw [if_neg hquantity] at hstep
  cases hread : loop.tx.available? state.db item.productId with
  | none =>
      simp only [hread, Option.some.injEq] at hstep
      subst hstep
      have hline : reserveLine state.db call loop item =
          .ok (loop.reject item "product not found") := by
        rw [reserveLine, if_neg hquantity, hread]
      have hmissing := (Tx.available?_eq_none_iff _ _ _).mp hread
      apply hrelated.goto_internal (.refl number state)
      rw [hserial]
      exact .reserving hnumber hunused ⟨rfl, done ++ [item],
        hok.next (fun _ hheld => hheld) hline
          fun _ hexists => absurd hmissing hexists⟩
  | some available =>
      simp only [hread] at hstep
      by_cases hgrant : state.productLocks.Grantable number item.productId
      · rw [if_pos hgrant, Option.some.injEq] at hstep
        subst hstep
        have hmore := LocksMore.lockProduct hgrant
        have hheld :
            (state.lockProduct number item.productId).productLocks.Holds number
              item.productId := LockTable.holds_acquire _ _ _
        rw [stepRead]
        by_cases hshort : available < item.quantity
        · rw [if_pos hshort]
          have hline : reserveLine state.db call loop item =
              .ok (loop.reject item (ReserveLoop.insufficientStock
                item.quantity available)) := by
            rw [reserveLine, if_neg hquantity, hread]
            exact if_pos hshort
          apply hrelated.goto_internal hmore
          rw [hserial]
          exact .reserving hnumber hunused ⟨rfl, done ++ [item],
            hok.next (fun productId => hmore.products number productId) hline
              fun _ _ => hheld⟩
        · rw [if_neg hshort]
          apply hrelated.goto_internal hmore
          rw [hserial]
          exact .reserving hnumber hunused ⟨rfl, done,
            hok.stable (Agrees.refl _ (state.rowLocks.Holds number) number _)
              (fun productId => hmore.products number productId),
            ⟨not_le.mp hquantity, hheld, hread, not_lt.mp hshort⟩⟩
      · rw [if_neg hgrant] at hstep
        exact absurd hstep (Option.some_ne_none next).symm

theorem Related.saveProduct (hrelated : Related state serial)
    {item : ReserveItem} {available : ℤ} {todo : List ReserveItem}
    {loop : ReserveLoop}
    (hsession : state.sessions number =
      .reserving call (.saveProduct item available todo loop)) :
    Related (stepSaveProduct state number call item available todo loop)
      serial := by
  obtain ⟨checked, hserial, hnumber, hunused, hchecked, done, hok, hread⟩ :=
    hrelated.reserving hsession
  subst hchecked
  apply hrelated.goto_internal (.refl number state)
  rw [hserial]
  exact .reserving hnumber hunused
    ⟨rfl, done, loop, available, hok, hread, rfl⟩

/-- The line is what its three statements do together. -/
theorem ReadOk.reserveLine_eq {db : InventoryDb} {holdsProduct : ℤ → Prop}
    {loop : ReserveLoop} {item : ReserveItem} {available : ℤ}
    (hread : ReadOk db holdsProduct loop item available) :
    reserveLine db call loop item =
      (loop.saveProduct item available).createReservation db call item := by
  rw [reserveLine, if_neg (not_le.mpr hread.positive), hread.read]
  exact if_neg (not_lt.mpr hread.enough)

theorem Related.createReservation_ok (hrelated : Related state serial)
    {item : ReserveItem} {todo : List ReserveItem} {loop after : ReserveLoop}
    (hsession : state.sessions number =
      .reserving call (.createReservation item todo loop))
    (hcreate : loop.createReservation state.db call item = .ok after) :
    Related ((state.lockIndex number call.idempotencyKey
      item.productId).goto number (.reserving call (.loopHead todo after)))
      serial := by
  obtain ⟨checked, hserial, hnumber, hunused, hchecked, done, before,
    available, hok, hread, hloop⟩ := hrelated.reserving hsession
  subst hchecked hloop
  have hmore := LocksMore.lockIndex number state call.idempotencyKey
    item.productId
  apply hrelated.goto_internal hmore
  rw [hserial]
  exact .reserving hnumber hunused ⟨rfl, done ++ [item],
    hok.next (fun productId => hmore.products number productId)
      (hread.reserveLine_eq.trans hcreate)
      fun _ _ => hmore.products number _ hread.held⟩

/-- An IntegrityError ends the body where it occurs. -/
theorem Related.createReservation_error_body
    (hrelated : Related state serial) {item : ReserveItem}
    {todo : List ReserveItem} {loop : ReserveLoop} {error : DbError}
    (hsession : state.sessions number =
      .reserving call (.createReservation item todo loop))
    (hcreate : loop.createReservation state.db call item = .error error) :
    serial.sessions number = .reserving call true ∧
      reserveBody state.db call = (state.db, duplicateOutcome call) := by
  obtain ⟨checked, hserial, _, _, hchecked, done, before,
    available, hok, hread, hloop⟩ := hrelated.reserving hsession
  subst hchecked hloop
  have hloop : reserveLoop state.db call .start (sortedItems call.items) =
      .error error := by
    rw [← hok.sorted, reserveLoop_append, hok.loop_eq]
    change reserveLoop state.db call before (item :: todo) = _
    rw [reserveLoop_cons, hread.reserveLine_eq, hcreate]
    rfl
  refine ⟨hserial, ?_⟩
  rw [reserveBody, hloop]

theorem Related.createReservation_error (hrelated : Related state serial)
    {item : ReserveItem} {todo : List ReserveItem} {loop : ReserveLoop}
    {error : DbError}
    (hsession : state.sessions number =
      .reserving call (.createReservation item todo loop))
    (hcreate : loop.createReservation state.db call item = .error error) :
    ∃ next, Serial.step serial (.body number) = some next ∧
      Related (state.finish number state.db
        (.reserved (duplicateOutcome call))) next := by
  obtain ⟨hserial, hbody⟩ :=
    hrelated.createReservation_error_body hsession hcreate
  refine ⟨serial.finish number serial.db (.reserved (duplicateOutcome call)),
    by simp [Serial.step, hserial, hrelated.db, hbody], ?_⟩
  exact hrelated.finish_rollback number _

end Reserve

/-! ## The statements of `release_stock` -/

section Release

variable {state next : Interleaved.State} {serial : Serial.State}
variable {number : ℕ} {orderRef : CharField128}

theorem Related.select (hrelated : Related state serial)
    {rows : List StockReservation}
    (hstep : stepSelect state number rows = some next) :
    ∃ serialNext, Serial.step serial (.select number rows) =
        some serialNext ∧ Related next serialNext := by
  rw [stepSelect] at hstep
  cases hsession : state.sessions number with
  | releasing orderRef phase =>
      rw [hsession] at hstep
      cases phase with
      | select =>
          obtain ⟨snapshot, hserial, hphase⟩ := hrelated.releasing hsession
          have hsnapshot : snapshot = none := hphase
          subst hsnapshot
          simp only at hstep
          by_cases hselects : Selects state.db orderRef rows
          · rw [if_pos hselects, Option.some.injEq] at hstep
            subst hstep
            refine ⟨serial.goto number (.releasing orderRef
              (some (rows.map StockReservation.id))),
              by simp [Serial.step, hserial, hrelated.db, hselects], ?_⟩
            apply hrelated.goto (.refl number state)
            refine .releasing ⟨[], rfl, fun id hid => ?_, rfl,
              fun row hrow => absurd hrow List.not_mem_nil⟩
            obtain ⟨row, hrow, rfl⟩ := List.mem_map.mp hid
            have hmem := hselects.1.mem_iff.mp hrow
            exact List.mem_map_of_mem (List.mem_of_mem_filter hmem)
          · rw [if_neg hselects] at hstep
            exact absurd hstep (Option.some_ne_none next).symm
      | lockRows todo locked => exact absurd hstep (by simp)
      | addBack todo reservations tx => exact absurd hstep (by simp)
      | saveStatus row todo reservations tx => exact absurd hstep (by simp)
  | idle => simp [hsession] at hstep
  | reserving call phase => simp [hsession] at hstep
  | finished result => simp [hsession] at hstep

theorem currentRows_concat (db : InventoryDb) (seen : List RowId)
    (id : RowId) :
    Serial.currentRows db orderRef (seen ++ [id]) =
      Serial.currentRows db orderRef seen ++
        (db.stillReserved? orderRef id).toList := by
  rw [Serial.currentRows, List.filterMap_append]
  cases hcurrent : db.stillReserved? orderRef id <;>
    simp [Serial.currentRows, hcurrent]

theorem Related.lockRows (hrelated : Related state serial)
    {todo : List RowId} {locked : List StockReservation}
    (hsession : state.sessions number =
      .releasing orderRef (.lockRows todo locked))
    (hstep : stepLockRows state number orderRef locked todo = some next) :
    Related next serial := by
  obtain ⟨snapshot, hserial, seen, hsnapshot, hknown, hlocked, hheld⟩ :=
    hrelated.releasing hsession
  subst hsnapshot
  cases todo with
  | nil =>
      rw [stepLockRows, Option.some.injEq] at hstep
      subst hstep
      apply hrelated.goto_internal (.refl number state)
      rw [hserial]
      rw [List.append_nil] at hknown ⊢
      refine .releasing ⟨seen, [], rfl, ⟨hknown, hlocked, hheld, rfl, ?_⟩, rfl⟩
      exact fun row hrow => absurd hrow List.not_mem_nil
  | cons id todo =>
      rw [stepLockRows] at hstep
      by_cases hgrant : state.rowLocks.Grantable number id
      · rw [if_pos hgrant] at hstep
        cases hcurrent : state.db.stillReserved? orderRef id with
        | some row =>
            simp only [hcurrent, Option.some.injEq] at hstep
            subst hstep
            have hmore := LocksMore.lockRow hgrant
            have hrowId := (InventoryDb.stillReserved?_eq_some hcurrent).2.1
            apply hrelated.goto_internal hmore
            rw [hserial]
            refine .releasing ⟨seen ++ [id], by simp, by simpa using hknown,
              ?_, ?_⟩
            · rw [currentRows_concat, hcurrent, ← hlocked]
              rfl
            · intro other hother
              rcases List.mem_append.mp hother with hearlier | hnow
              · exact hmore.rows number _ (hheld other hearlier)
              · rw [List.mem_singleton] at hnow
                rw [hnow, hrowId]
                exact LockTable.holds_acquire _ _ _
        | none =>
            simp only [hcurrent, Option.some.injEq] at hstep
            subst hstep
            have hmore := LocksMore.lockRow hgrant
            apply hrelated.goto_internal hmore
            rw [hserial]
            refine .releasing ⟨seen ++ [id], by simp, by simpa using hknown,
              ?_, fun other hother => hmore.rows number _
                (hheld other hother)⟩
            rw [currentRows_concat, hcurrent, ← hlocked]
            exact (List.append_nil locked).symm
      · rw [if_neg hgrant] at hstep
        exact absurd hstep (Option.some_ne_none next).symm

theorem Related.releaseEnd (hrelated : Related state serial)
    {reservations : List StockReservation} {tx : Tx}
    (hsession : state.sessions number =
      .releasing orderRef (.addBack [] reservations tx)) :
    ∃ serialNext, Serial.step serial (.body number) = some serialNext ∧
      Related (state.finish number (state.db.commit tx)
        (releaseResult reservations)) serialNext := by
  obtain ⟨snapshot, hserial, ids, done, hsnapshot, hok, htx⟩ :=
    hrelated.releasing hsession
  subst hsnapshot
  have hdone : done = reservations := by
    rw [← hok.split, List.append_nil]
  have hrows : Serial.currentRows state.db orderRef ids = done :=
    (hdone.trans hok.rows).symm
  refine ⟨serial.finish number (state.db.commit tx)
    (releaseResult reservations), ?_, ?_⟩
  · simp [Serial.step, hserial, hrelated.db, hrows, releaseBody,
      releaseResult, htx, hdone]
  · rw [htx]
    exact hrelated.finish_commit (hok.footprint hrelated.ids_nodup) _

theorem Related.addBack (hrelated : Related state serial)
    {row : StockReservation} {todo reservations : List StockReservation}
    {tx : Tx}
    (hsession : state.sessions number =
      .releasing orderRef (.addBack (row :: todo) reservations tx))
    (hstep : stepAddBack state number orderRef reservations tx
      (row :: todo) = some next) :
    Related next serial := by
  obtain ⟨snapshot, hserial, ids, done, hsnapshot, hok, htx⟩ :=
    hrelated.releasing hsession
  subst hsnapshot htx
  rw [stepAddBack] at hstep
  by_cases hmissing : state.db.available? row.productId = none
  · rw [if_pos hmissing, Option.some.injEq] at hstep
    subst hstep
    apply hrelated.goto_internal (.refl number state)
    rw [hserial]
    refine .releasing ⟨ids, done, rfl, hok, fun other hother hexists => ?_,
      rfl⟩
    rw [List.mem_singleton] at hother
    exact absurd (hother ▸ hmissing) hexists
  rw [if_neg hmissing] at hstep
  by_cases hgrant : state.productLocks.Grantable number row.productId
  · rw [if_pos hgrant, Option.some.injEq] at hstep
    subst hstep
    have hmore := LocksMore.lockProduct hgrant
    apply hrelated.goto_internal hmore
    rw [hserial]
    refine .releasing ⟨ids, done, rfl,
      hok.stable (Agrees.refl _ _ number _)
        (fun productId => hmore.products number productId)
        (fun id => hmore.rows number id),
      fun other hother hexists => ?_, rfl⟩
    rw [List.mem_singleton] at hother
    rw [hother]
    exact LockTable.holds_acquire _ _ _
  · rw [if_neg hgrant] at hstep
    exact absurd hstep (Option.some_ne_none next).symm

theorem Related.saveStatus (hrelated : Related state serial)
    {row : StockReservation} {todo reservations : List StockReservation}
    {tx : Tx}
    (hsession : state.sessions number =
      .releasing orderRef (.saveStatus row todo reservations tx)) :
    Related (stepSaveStatus state number orderRef row todo reservations tx)
      serial := by
  obtain ⟨snapshot, hserial, ids, done, hsnapshot, hok, hrow, htx⟩ :=
    hrelated.releasing hsession
  subst hsnapshot htx
  have hmore := LocksMore.lockIndex number state row.idempotencyKey
    row.productId
  apply hrelated.goto_internal hmore
  rw [hserial]
  refine .releasing ⟨ids, done ++ [row], rfl, ⟨hok.known, hok.rows,
    fun other hother => hmore.rows number _ (hok.held other hother), ?_, ?_⟩,
    ?_⟩
  · rw [List.append_assoc]
    exact hok.split
  · intro other hother hexists
    apply hmore.products number
    rcases List.mem_append.mp hother with hearlier | hnow
    · exact hok.covers other hearlier hexists
    · exact hrow other hnow hexists
  · rw [releaseLoop_concat]
    rfl

end Release

/-! ## The simulation -/

/-- The statement of a session that the serial system sees. -/
def advanceEvent (number : ℕ) (db : InventoryDb) :
    Interleaved.Session → Option Serial.Action
  | .reserving _ .replayCheck => some (.check number)
  | .reserving _ (.loopHead [] _) => some (.body number)
  | .reserving call (.createReservation item _ loop) =>
      match loop.createReservation db call item with
      | .error _ => some (.body number)
      | .ok _ => none
  | .releasing _ (.addBack [] _ _) => some (.body number)
  | _ => none

/-- The transaction-level event of an action, `none` for a statement inside a
transaction. -/
def event (state : Interleaved.State) :
    Interleaved.Action → Option Serial.Action
  | .call number request => some (.call number request)
  | .advance number => advanceEvent number state.db (state.sessions number)
  | .select number rows => some (.select number rows)
  | .abort number => some (.abort number)

/-- The event of a transaction body is the last statement of its session. -/
theorem event_body {state : Interleaved.State}
    {action : Interleaved.Action} {number : ℕ}
    (hevent : event state action = some (.body number)) :
    action = .advance number ∧
      advanceEvent number state.db (state.sessions number) =
        some (.body number) := by
  cases action with
  | call other request => exact absurd (Option.some.inj hevent) nofun
  | select other rows => exact absurd (Option.some.inj hevent) nofun
  | abort other => exact absurd (Option.some.inj hevent) nofun
  | advance other =>
      obtain rfl : other = number := by
        rw [event, advanceEvent.eq_def] at hevent
        split at hevent
        · cases hevent
        · exact Serial.Action.body.inj (Option.some.inj hevent)
        · split at hevent
          · exact Serial.Action.body.inj (Option.some.inj hevent)
          · cases hevent
        · exact Serial.Action.body.inj (Option.some.inj hevent)
        · cases hevent
      exact ⟨rfl, hevent⟩

/-- A serial reserve body that succeeds is the COMMIT of a loop in which every
line went through. -/
theorem Related.reserve_commits {state : Interleaved.State}
    {serial : Serial.State} (hrelated : Related state serial)
    {action : Interleaved.Action} {number : ℕ}
    (hevent : event state action = some (.body number)) {call : ReserveCall}
    (hsession : serial.sessions number = .reserving call true)
    (hsuccess : (reserveBody serial.db call).2.success = true) :
    action = .advance number ∧ ∃ loop,
      state.sessions number = .reserving call (.loopHead [] loop) ∧
        loop.allOk = true := by
  obtain ⟨rfl, hlast⟩ := event_body hevent
  refine ⟨rfl, ?_⟩
  rw [hrelated.db] at hsuccess
  unfold advanceEvent at hlast
  split at hlast
  · cases hlast
  · rename_i other loop hconcrete
    obtain ⟨hserial, hbody⟩ := hrelated.loopEnd_body hconcrete
    obtain ⟨rfl, _⟩ :=
      Serial.Session.reserving.inj (hserial.symm.trans hsession)
    rw [hbody] at hsuccess
    exact ⟨loop, hconcrete, hsuccess⟩
  · rename_i other item todo loop hconcrete
    split at hlast
    · rename_i error hcreate
      obtain ⟨hserial, hbody⟩ :=
        hrelated.createReservation_error_body hconcrete hcreate
      obtain ⟨rfl, _⟩ :=
        Serial.Session.reserving.inj (hserial.symm.trans hsession)
      rw [hbody] at hsuccess
      exact absurd hsuccess Bool.false_ne_true
    · cases hlast
  · rename_i orderRef reservations tx hconcrete
    obtain ⟨snapshot, hserial, _⟩ := hrelated.releasing hconcrete
    exact Serial.Session.noConfusion (hserial.symm.trans hsession)
  · cases hlast

/-- An action is matched by its event, or not seen at all. -/
def Matched (serial : Serial.State) (next : Interleaved.State) :
    Option Serial.Action → Prop
  | none => Related next serial
  | some action => ∃ serialNext,
      Serial.step serial action = some serialNext ∧ Related next serialNext

theorem Related.call {state next : Interleaved.State} {serial : Serial.State}
    (hrelated : Related state serial) {number : ℕ} {request : Request}
    (hstep : stepCall state number request = some next) :
    ∃ serialNext, Serial.step serial (.call number request) =
        some serialNext ∧ Related next serialNext := by
  have hself := hrelated.sessions number
  rw [stepCall] at hstep
  cases hsession : state.sessions number with
  | idle =>
      rw [hsession] at hself hstep
      generalize hserial : serial.sessions number = session at hself
      cases hself with
      | idle =>
          simp only at hstep
          by_cases hunused : Unused state number
          · rw [if_pos hunused, Option.some.injEq] at hstep
            subst hstep
            refine ⟨serial.goto number (Serial.session number request), ?_, ?_⟩
            · rw [Serial.step, hserial, hrelated.db]
              exact if_pos hunused
            apply hrelated.goto (.refl number state)
            cases request with
            | reserve orderRef items key clock =>
                exact .reserving rfl hunused rfl
            | release orderRef => exact .releasing rfl
          · rw [if_neg hunused] at hstep
            exact absurd hstep (Option.some_ne_none next).symm
  | reserving call phase => simp [hsession] at hstep
  | releasing orderRef phase => simp [hsession] at hstep
  | finished result => simp [hsession] at hstep

theorem Related.abort {state next : Interleaved.State}
    {serial : Serial.State} (hrelated : Related state serial) {number : ℕ}
    (hstep : stepAbort state number = some next) :
    ∃ serialNext, Serial.step serial (.abort number) = some serialNext ∧
      Related next serialNext := by
  rw [stepAbort] at hstep
  cases hsession : state.sessions number with
  | reserving call phase =>
      obtain ⟨checked, hserial, _⟩ := hrelated.reserving hsession
      simp only [hsession, Option.some.injEq] at hstep
      subst hstep
      exact ⟨_, by simp [Serial.step, hserial],
        hrelated.finish_rollback number .raised⟩
  | releasing orderRef phase =>
      obtain ⟨snapshot, hserial, _⟩ := hrelated.releasing hsession
      simp only [hsession, Option.some.injEq] at hstep
      subst hstep
      exact ⟨_, by simp [Serial.step, hserial],
        hrelated.finish_rollback number .raised⟩
  | idle => simp [hsession] at hstep
  | finished result => simp [hsession] at hstep

theorem Related.advance {state next : Interleaved.State}
    {serial : Serial.State} (hrelated : Related state serial) {number : ℕ}
    (hstep : stepAdvance state number = some next) :
    Matched serial next
      (advanceEvent number state.db (state.sessions number)) := by
  rw [stepAdvance] at hstep
  cases hsession : state.sessions number with
  | idle => simp [hsession] at hstep
  | finished result => simp [hsession] at hstep
  | reserving call phase =>
      simp only [hsession] at hstep
      cases phase with
      | replayCheck =>
          rw [stepReserve, Option.some.injEq] at hstep
          exact hstep ▸ hrelated.replayCheck hsession
      | loopHead todo loop =>
          cases todo with
          | nil =>
              rw [stepReserve, stepLoopHead, Option.some.injEq] at hstep
              exact hstep ▸ hrelated.loopEnd hsession
          | cons item todo => exact hrelated.loopHead hsession hstep
      | saveProduct item available todo loop =>
          rw [stepReserve, Option.some.injEq] at hstep
          exact hstep ▸ hrelated.saveProduct hsession
      | createReservation item todo loop =>
          rw [stepReserve, stepCreateReservation] at hstep
          split at hstep
          · simp only [advanceEvent]
            cases hcreate : loop.createReservation state.db call item with
            | error error =>
                simp only [hcreate, Option.some.injEq] at hstep
                exact hstep ▸ hrelated.createReservation_error hsession hcreate
            | ok after =>
                simp only [hcreate, Option.some.injEq] at hstep
                exact hstep ▸ hrelated.createReservation_ok hsession hcreate
          · exact absurd hstep (Option.some_ne_none next).symm
  | releasing orderRef phase =>
      simp only [hsession] at hstep
      cases phase with
      | select => exact absurd hstep (Option.some_ne_none next).symm
      | lockRows todo locked => exact hrelated.lockRows hsession hstep
      | addBack todo reservations tx =>
          cases todo with
          | nil =>
              rw [stepRelease, stepAddBack, Option.some.injEq] at hstep
              exact hstep ▸ hrelated.releaseEnd hsession
          | cons row todo => exact hrelated.addBack hsession hstep
      | saveStatus row todo reservations tx =>
          rw [stepRelease, Option.some.injEq] at hstep
          exact hstep ▸ hrelated.saveStatus hsession

/-- One action of the interleaved system, seen by the serial one. -/
theorem Related.step {state next : Interleaved.State} {serial : Serial.State}
    (hrelated : Related state serial) {action : Interleaved.Action}
    (hstep : Interleaved.step state action = some next) :
    Matched serial next (event state action) := by
  cases action with
  | call number request => exact hrelated.call hstep
  | advance number => exact hrelated.advance hstep
  | select number rows => exact hrelated.select hstep
  | abort number => exact hrelated.abort hstep

/-- The serial system simulates the interleaved one, event by event. -/
theorem simulation : ForwardSimulation Interleaved.step Serial.step event
    (fun _ _ => True) Related where
  internal state action next serial hrelated _ hstep hevent := by
    have hmatched := hrelated.step hstep
    rwa [hevent] at hmatched
  matched state action next serial label hrelated _ hstep hevent := by
    have hmatched := hrelated.step hstep
    rwa [hevent] at hmatched

/-! ## Invariants of the serial system -/

/-- Every call of the action meets `allowed`. -/
def Calls (allowed : Request → Prop) : Interleaved.Action → Prop
  | .call _ request => allowed request
  | _ => True

def SerialCalls (allowed : Request → Prop) : Serial.Action → Prop
  | .call _ request => allowed request
  | _ => True

theorem Calls.serial {allowed : Request → Prop} {state : Interleaved.State}
    {action : Interleaved.Action} {seen : Serial.Action}
    (hcalls : Calls allowed action) (hevent : event state action = some seen) :
    SerialCalls allowed seen := by
  cases action with
  | call number request => exact Option.some.inj hevent ▸ hcalls
  | select number rows => exact Option.some.inj hevent ▸ trivial
  | abort number => exact Option.some.inj hevent ▸ trivial
  | advance number =>
      cases seen with
      | call other request =>
          rw [event] at hevent
          unfold advanceEvent at hevent
          split at hevent <;> try simp at hevent
          split at hevent <;> simp at hevent
      | _ => trivial

section Invariant

variable {allowed : Request → Prop} {Invariant : Serial.State → Prop}

/-- Some serial state that meets the invariant is behind the interleaved one. -/
def Behind (Invariant : Serial.State → Prop) (state : Interleaved.State) :
    Prop :=
  ∃ serial, Related state serial ∧ Invariant serial

theorem Behind.step
    (hstep : ∀ serial action next, Invariant serial →
      SerialCalls allowed action → Serial.step serial action = some next →
        Invariant next)
    {state next : Interleaved.State} {action : Interleaved.Action}
    (hbehind : Behind Invariant state) (hcalls : Calls allowed action)
    (hnext : Interleaved.step state action = some next) :
    Behind Invariant next := by
  obtain ⟨serial, hboth⟩ := hbehind
  have hallowed : ForwardSimulation Interleaved.step Serial.step event
      (fun _ action => Calls allowed action) Related :=
    simulation.strengthen fun _ _ _ => trivial
  have hsimulation := hallowed.withInvariant
    (fun _ _ _ _ _ hcalls hevent => hcalls.serial hevent) hstep
  exact hsimulation.exists_related hboth hcalls hnext

/-- An invariant of the serial system holds behind every interleaved run. -/
theorem Behind.run
    (hstep : ∀ serial action next, Invariant serial →
      SerialCalls allowed action → Serial.step serial action = some next →
        Invariant next)
    {state final : Interleaved.State} {schedule : List Interleaved.Action}
    (hbehind : Behind Invariant state)
    (hcalls : ∀ action ∈ schedule, Calls allowed action)
    (hrun : TransitionSystem.run Interleaved.step state schedule =
      some final) : Behind Invariant final :=
  run_invariant_along
    (fun _ _ _ hkept hallowed hnext => hkept.step hstep hallowed hnext)
    hbehind (Along.of_forall hcalls state) hrun

end Invariant

end OrderFlow.Inventory.Refinement
