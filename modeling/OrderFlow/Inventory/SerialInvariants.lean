import OrderFlow.Inventory.Feasibility
import OrderFlow.Inventory.ReleaseSpec
import OrderFlow.Inventory.Serial

/-!
# Invariants of serial runs

One inversion lemma says what a serial step can do, and two lemmas say what a
transaction body does to the tables.  Every invariant of the serial system is
derived from these, and the simulation carries it to the interleaved system.
-/

namespace OrderFlow.Inventory.Serial

open OrderFlow
open OrderFlow.TransitionSystem
open OrderFlow.Inventory.Interleaved (Request Result Selects)

/-- The ways one serial step can go. -/
inductive StepCase (state : State) : Action → State → Prop
  | call (number : ℕ) (request : Request)
      (hidle : state.sessions number = .idle)
      (hunused : ∀ row ∈ state.db.reservations, row.id.call ≠ number) :
      StepCase state (.call number request)
        (state.goto number (session number request))
  | answer (number : ℕ) (call : ReserveCall) (outcome : ReservationOutcome)
      (hsession : state.sessions number = .reserving call false)
      (houtcome : outcome = ⟨false, []⟩ ∧ call.items = [] ∨
        call.items ≠ [] ∧
          replay? state.db call.idempotencyKey = some outcome) :
      StepCase state (.check number)
        (state.finish number state.db (.reserved outcome))
  | proceed (number : ℕ) (call : ReserveCall)
      (hsession : state.sessions number = .reserving call false)
      (hitems : call.items ≠ [])
      (hreplay : replay? state.db call.idempotencyKey = none) :
      StepCase state (.check number)
        (state.goto number (.reserving call true))
  | select (number : ℕ) (orderRef : CharField128)
      (rows : List StockReservation)
      (hsession : state.sessions number = .releasing orderRef none)
      (hselects : Selects state.db orderRef rows) :
      StepCase state (.select number rows)
        (state.goto number (.releasing orderRef
          (some (rows.map StockReservation.id))))
  | reserve (number : ℕ) (call : ReserveCall)
      (hsession : state.sessions number = .reserving call true) :
      StepCase state (.body number)
        (state.finish number (reserveBody state.db call).1
          (.reserved (reserveBody state.db call).2))
  | release (number : ℕ) (orderRef : CharField128) (ids : List RowId)
      (hsession : state.sessions number = .releasing orderRef (some ids)) :
      StepCase state (.body number)
        (state.finish number
          (releaseBody state.db (currentRows state.db orderRef ids)).1
          (.released
            (releaseBody state.db (currentRows state.db orderRef ids)).2))
  | abort (number : ℕ)
      (hopen : (∃ call checked,
          state.sessions number = .reserving call checked) ∨
        ∃ orderRef snapshot,
          state.sessions number = .releasing orderRef snapshot) :
      StepCase state (.abort number)
        (state.finish number state.db .raised)

theorem step_cases {state next : State} {action : Action}
    (hstep : step state action = some next) : StepCase state action next := by
  cases action with
  | call number request =>
      cases hsession : state.sessions number <;>
        simp only [step, hsession, reduceCtorEq] at hstep
      split at hstep
      · rename_i hunused
        exact Option.some.inj hstep ▸ .call number request hsession hunused
      · exact absurd hstep (by simp)
  | check number =>
      cases hsession : state.sessions number with
      | reserving call checked =>
          cases checked <;>
            simp only [step, hsession, reduceCtorEq, Option.some.injEq]
              at hstep
          rw [stepCheck] at hstep
          by_cases hitems : call.items = []
          · rw [if_pos hitems] at hstep
            exact hstep ▸ .answer number call _ hsession
              (.inl ⟨rfl, hitems⟩)
          rw [if_neg hitems] at hstep
          cases hreplay : replay? state.db call.idempotencyKey with
          | some outcome =>
              rw [hreplay] at hstep
              exact hstep ▸ .answer number call outcome hsession
                (.inr ⟨hitems, hreplay⟩)
          | none =>
              rw [hreplay] at hstep
              exact hstep ▸ .proceed number call hsession hitems hreplay
      | idle => simp [step, hsession] at hstep
      | releasing orderRef snapshot => simp [step, hsession] at hstep
      | finished result => simp [step, hsession] at hstep
  | select number rows =>
      cases hsession : state.sessions number with
      | releasing orderRef snapshot =>
          cases snapshot <;>
            simp only [step, hsession, reduceCtorEq] at hstep
          split at hstep
          · rename_i hselects
            exact Option.some.inj hstep ▸
              .select number orderRef rows hsession hselects
          · exact absurd hstep (by simp)
      | idle => simp [step, hsession] at hstep
      | reserving call checked => simp [step, hsession] at hstep
      | finished result => simp [step, hsession] at hstep
  | body number =>
      cases hsession : state.sessions number with
      | reserving call checked =>
          cases checked <;>
            simp only [step, hsession, reduceCtorEq, Option.some.injEq]
              at hstep
          exact hstep ▸ .reserve number call hsession
      | releasing orderRef snapshot =>
          cases snapshot <;>
            simp only [step, hsession, reduceCtorEq, Option.some.injEq]
              at hstep
          exact hstep ▸ .release number orderRef _ hsession
      | idle => simp [step, hsession] at hstep
      | finished result => simp [step, hsession] at hstep
  | abort number =>
      cases hsession : state.sessions number <;>
        simp only [step, hsession, reduceCtorEq, Option.some.injEq] at hstep
      · exact hstep ▸ .abort number (.inl ⟨_, _, hsession⟩)
      · exact hstep ▸ .abort number (.inr ⟨_, _, hsession⟩)

/-- All that a step can do to the tables. -/
theorem step_db {state next : State} {action : Action}
    (hstep : step state action = some next) :
    next.db = state.db ∨
      (∃ call loop, Progress state.db call (sortedItems call.items)
        (sortedItems call.items) loop ∧
          next.db = state.db.commit loop.tx) ∨
        ∃ rows, next.db = (releaseBody state.db rows).1 := by
  cases step_cases hstep with
  | call number request hidle hunused => exact .inl rfl
  | answer number call outcome hsession houtcome => exact .inl rfl
  | proceed number call hsession hitems hreplay => exact .inl rfl
  | select number orderRef rows hsession hselects => exact .inl rfl
  | abort number hopen => exact .inl rfl
  | reserve number call hsession =>
      rcases reserveBody_cases state.db call with
        ⟨hsame, _⟩ | ⟨_, loop, hprogress, hcommit⟩
      · exact .inl hsame
      · exact .inr (.inl ⟨call, loop, hprogress, hcommit⟩)
  | release number orderRef ids hsession => exact .inr (.inr ⟨_, rfl⟩)

/-! ## Primary keys -/

/-- The table has only grown, by fresh primary keys of the given session. -/
def RowsGrow (number : ℕ) (db after : InventoryDb) : Prop :=
  ∃ added, after.reservations.map StockReservation.id =
      db.reservations.map StockReservation.id ++ added ∧
    added.Nodup ∧ ∀ id ∈ added, id.call = number

theorem RowsGrow.refl (number : ℕ) (db : InventoryDb) :
    RowsGrow number db db :=
  ⟨[], (List.append_nil _).symm, List.nodup_nil,
    fun _ hid => absurd hid List.not_mem_nil⟩

theorem reserveBody_rowsGrow (db : InventoryDb) (call : ReserveCall) :
    RowsGrow call.number db (reserveBody db call).1 := by
  rcases reserveBody_cases db call with
    ⟨hsame, _⟩ | ⟨_, loop, hprogress, hcommit⟩
  · rw [hsame]
    exact .refl call.number db
  · refine ⟨(call.rows (sortedItems call.items)).map StockReservation.id,
      ?_, call.rows_ids_nodup _, fun id hid => ?_⟩
    · rw [hcommit, hprogress.reservations_commit, List.map_append]
    · obtain ⟨row, hrow, rfl⟩ := List.mem_map.mp hid
      obtain ⟨item, _, line, rfl⟩ := ReserveCall.mem_rows hrow
      rfl

theorem reserveBody_ids_nodup {db : InventoryDb} {call : ReserveCall}
    (hids : (db.reservations.map StockReservation.id).Nodup)
    (hunused : ∀ row ∈ db.reservations, row.id.call ≠ call.number) :
    ((reserveBody db call).1.reservations.map StockReservation.id).Nodup := by
  obtain ⟨added, hgrown, hnodup, hadded⟩ := reserveBody_rowsGrow db call
  rw [hgrown, List.nodup_append]
  refine ⟨hids, hnodup, ?_⟩
  rintro id hid _ hnew rfl
  obtain ⟨row, hrow, rfl⟩ := List.mem_map.mp hid
  exact hunused row hrow (hadded _ hnew)

theorem releaseBody_rowsGrow (number : ℕ) (db : InventoryDb)
    (rows : List StockReservation) :
    RowsGrow number db (releaseBody db rows).1 := by
  refine ⟨[], ?_, List.nodup_nil, fun _ hid => absurd hid List.not_mem_nil⟩
  rw [releaseBody_ids, List.append_nil]

/-- What a session knows about primary keys: those a reserve will draw are
fresh, those a release has found exist. -/
def SessionFresh (db : InventoryDb) (number : ℕ) : Session → Prop
  | .reserving call _ => call.number = number ∧
      ∀ row ∈ db.reservations, row.id.call ≠ number
  | .releasing _ (some ids) => ids.Nodup ∧
      ∀ id ∈ ids, id ∈ db.reservations.map StockReservation.id
  | _ => True

structure Fresh (state : State) : Prop where
  ids_nodup : (state.db.reservations.map StockReservation.id).Nodup
  sessions : ∀ number, SessionFresh state.db number (state.sessions number)

theorem Fresh.init {db : InventoryDb}
    (hids : (db.reservations.map StockReservation.id).Nodup) :
    Fresh (.init db) where
  ids_nodup := hids
  sessions _ := trivial

theorem SessionFresh.grow {db after : InventoryDb} {number other : ℕ}
    {session : Session} (hfresh : SessionFresh db other session)
    (hgrow : RowsGrow number db after) (hne : other ≠ number) :
    SessionFresh after other session := by
  obtain ⟨added, hids, _, hadded⟩ := hgrow
  cases session with
  | idle => trivial
  | finished result => trivial
  | reserving call checked =>
      refine ⟨hfresh.1, fun row hrow => ?_⟩
      have hid : row.id ∈ after.reservations.map StockReservation.id :=
        List.mem_map_of_mem hrow
      rw [hids, List.mem_append] at hid
      rcases hid with hold | hnew
      · obtain ⟨before, hbefore, hsame⟩ := List.mem_map.mp hold
        exact hsame ▸ hfresh.2 before hbefore
      · rw [hadded _ hnew]
        exact hne.symm
  | releasing orderRef snapshot =>
      cases snapshot with
      | none => trivial
      | some ids =>
          refine ⟨hfresh.1, fun id hid => ?_⟩
          rw [hids]
          exact List.mem_append_left added (hfresh.2 id hid)

theorem Fresh.goto {state : State} (hfresh : Fresh state) {number : ℕ}
    {next : Session} (hnext : SessionFresh state.db number next) :
    Fresh (state.goto number next) where
  ids_nodup := hfresh.ids_nodup
  sessions := by
    rw [State.goto, Function.forall_update_iff state.sessions
      (p := fun other session => SessionFresh state.db other session)]
    exact ⟨hnext, fun other _ => hfresh.sessions other⟩

theorem Fresh.finish {state : State} (hfresh : Fresh state) {number : ℕ}
    {db : InventoryDb} (hgrow : RowsGrow number state.db db)
    (hids : (db.reservations.map StockReservation.id).Nodup)
    (result : Result) : Fresh (state.finish number db result) where
  ids_nodup := hids
  sessions := by
    rw [State.finish, Function.forall_update_iff state.sessions
      (p := fun other session => SessionFresh db other session)]
    exact ⟨trivial, fun other hne => (hfresh.sessions other).grow hgrow hne⟩

theorem Fresh.rollback {state : State} (hfresh : Fresh state) (number : ℕ)
    (result : Result) : Fresh (state.finish number state.db result) :=
  hfresh.finish (.refl number state.db) hfresh.ids_nodup result

/-- Primary keys stay unique, and no session can lose what it knows of them. -/
theorem Fresh.step {state next : State} {action : Action}
    (hfresh : Fresh state) (hstep : step state action = some next) :
    Fresh next := by
  cases step_cases hstep with
  | call number request hidle hunused =>
      apply hfresh.goto
      cases request with
      | reserve orderRef items key clock => exact ⟨rfl, hunused⟩
      | release orderRef => trivial
  | answer number call outcome hsession houtcome =>
      exact hfresh.rollback number _
  | proceed number call hsession hitems hreplay =>
      have hself := hfresh.sessions number
      rw [hsession] at hself
      exact hfresh.goto hself
  | select number orderRef rows hsession hselects =>
      apply hfresh.goto
      have hsub : ∀ row ∈ rows, row ∈ state.db.reservations := fun row hrow =>
        List.mem_of_mem_filter (hselects.1.mem_iff.mp hrow)
      refine ⟨?_, fun id hid => ?_⟩
      · rw [(hselects.1.map _).nodup_iff]
        exact hfresh.ids_nodup.sublist (List.filter_sublist.map _)
      · obtain ⟨row, hrow, rfl⟩ := List.mem_map.mp hid
        exact List.mem_map_of_mem (hsub row hrow)
  | reserve number call hsession =>
      have hself := hfresh.sessions number
      rw [hsession] at hself
      obtain ⟨hnumber, hunused⟩ := hself
      subst hnumber
      exact hfresh.finish (reserveBody_rowsGrow _ call)
        (reserveBody_ids_nodup hfresh.ids_nodup hunused) _
  | release number orderRef ids hsession =>
      refine hfresh.finish (releaseBody_rowsGrow number _ _) ?_ _
      rw [releaseBody_ids]
      exact hfresh.ids_nodup
  | abort number hopen => exact hfresh.rollback number _

/-- With unique keys the current version of a RESERVED row is found. -/
theorem stillReserved?_of_mem {db : InventoryDb}
    (hids : (db.reservations.map StockReservation.id).Nodup)
    {row : StockReservation} (hrow : row ∈ db.reservations)
    (hstatus : row.status = .reserved) :
    db.stillReserved? row.orderRef row.id = some row := by
  cases hfound : db.stillReserved? row.orderRef row.id with
  | none =>
      rw [InventoryDb.stillReserved?, List.find?_eq_none] at hfound
      exact absurd (decide_eq_true ⟨rfl, rfl, hstatus⟩) (hfound row hrow)
  | some other =>
      obtain ⟨hother, hid, _⟩ := InventoryDb.stillReserved?_eq_some hfound
      rw [List.inj_on_of_nodup_map hids hother hrow hid]

/-- With unique keys, the rows a release locks are the snapshot rows that are
still RESERVED. -/
theorem mem_currentRows_iff {db : InventoryDb}
    (hids : (db.reservations.map StockReservation.id).Nodup)
    {orderRef : CharField128} {ids : List RowId} {row : StockReservation} :
    row ∈ currentRows db orderRef ids ↔ row ∈ db.reservations ∧
      row.id ∈ ids ∧ row.orderRef = orderRef ∧ row.status = .reserved := by
  refine ⟨mem_currentRows, ?_⟩
  rintro ⟨hrow, hid, rfl, hstatus⟩
  exact List.mem_filterMap.mpr
    ⟨row.id, hid, stillReserved?_of_mem hids hrow hstatus⟩

/-- A RESERVED row is released with its snapshot and its order. -/
theorem mem_map_currentRows_iff {db : InventoryDb}
    (hids : (db.reservations.map StockReservation.id).Nodup)
    {orderRef : CharField128} {ids : List RowId} {row : StockReservation}
    (hrow : row ∈ db.reservations) :
    row.id ∈ (currentRows db orderRef ids).map StockReservation.id ↔
      row.id ∈ ids ∧ row.orderRef = orderRef ∧ row.status = .reserved := by
  constructor
  · intro hid
    obtain ⟨other, hother, hsame⟩ := List.mem_map.mp hid
    obtain ⟨hmem, hfields⟩ := mem_currentRows hother
    rwa [← List.inj_on_of_nodup_map hids hmem hrow hsame]
  · rintro ⟨hid, horder, hstatus⟩
    exact List.mem_map_of_mem
      ((mem_currentRows_iff hids).mpr ⟨hrow, hid, horder, hstatus⟩)

/-- A snapshot names no row twice, so a release locks no row twice. -/
theorem currentRows_ids_nodup {db : InventoryDb} (orderRef : CharField128)
    {ids : List RowId} (hids : ids.Nodup) :
    ((currentRows db orderRef ids).map StockReservation.id).Nodup := by
  induction ids with
  | nil => exact List.nodup_nil
  | cons id ids ih =>
      rw [List.nodup_cons] at hids
      rw [currentRows, List.filterMap_cons]
      cases hfound : db.stillReserved? orderRef id with
      | none => exact ih hids.2
      | some row =>
          rw [List.map_cons, List.nodup_cons]
          refine ⟨fun hagain => ?_, ih hids.2⟩
          obtain ⟨other, hother, hsame⟩ := List.mem_map.mp hagain
          apply hids.1
          rw [← (InventoryDb.stillReserved?_eq_some hfound).2.1, ← hsame]
          exact (mem_currentRows hother).2.1

end OrderFlow.Inventory.Serial
