import OrderFlow.Inventory.Interleaved

/-!
# What one statement can do

The inversion lemma of the interleaved system: every enabled action is one of
the statements below, with the guard it passed and the state it leads to.
-/

namespace OrderFlow.Inventory.Interleaved

/-- An enabled action and the state after it. -/
inductive StepCase (state : State) : Action → State → Prop
  | call (number : ℕ) (request : Request)
      (hidle : state.sessions number = .idle) (hunused : Unused state number) :
      StepCase state (.call number request)
        (state.goto number (request.session number))
  | answer (number : ℕ) (call : ReserveCall) (outcome : ReservationOutcome)
      (hsession : state.sessions number = .reserving call .replayCheck)
      (houtcome : outcome = ⟨false, []⟩ ∧ call.items = [] ∨
        call.items ≠ [] ∧
          replay? state.db call.idempotencyKey = some outcome) :
      StepCase state (.advance number)
        (state.finish number state.db (.reserved outcome))
  | proceed (number : ℕ) (call : ReserveCall)
      (hsession : state.sessions number = .reserving call .replayCheck)
      (hitems : call.items ≠ [])
      (hreplay : replay? state.db call.idempotencyKey = none) :
      StepCase state (.advance number) (state.goto number
        (.reserving call (.loopHead (sortedItems call.items) .start)))
  | skip (number : ℕ) (call : ReserveCall) (item : ReserveItem)
      (todo : List ReserveItem) (loop : ReserveLoop) (reason : String)
      (hsession : state.sessions number =
        .reserving call (.loopHead (item :: todo) loop)) :
      StepCase state (.advance number) (state.goto number
        (.reserving call (.loopHead todo (loop.reject item reason))))
  | short (number : ℕ) (call : ReserveCall) (item : ReserveItem)
      (todo : List ReserveItem) (loop : ReserveLoop) (reason : String)
      (hsession : state.sessions number =
        .reserving call (.loopHead (item :: todo) loop))
      (hgrant : state.productLocks.Grantable number item.productId) :
      StepCase state (.advance number)
        ((state.lockProduct number item.productId).goto number
          (.reserving call (.loopHead todo (loop.reject item reason))))
  | read (number : ℕ) (call : ReserveCall) (item : ReserveItem)
      (available : ℤ) (todo : List ReserveItem) (loop : ReserveLoop)
      (hsession : state.sessions number =
        .reserving call (.loopHead (item :: todo) loop))
      (hgrant : state.productLocks.Grantable number item.productId) :
      StepCase state (.advance number)
        ((state.lockProduct number item.productId).goto number
          (.reserving call (.saveProduct item available todo loop)))
  | saveProduct (number : ℕ) (call : ReserveCall) (item : ReserveItem)
      (available : ℤ) (todo : List ReserveItem) (loop : ReserveLoop)
      (hsession : state.sessions number =
        .reserving call (.saveProduct item available todo loop)) :
      StepCase state (.advance number) (state.goto number
        (.reserving call (.createReservation item todo
          (loop.saveProduct item available))))
  | insert (number : ℕ) (call : ReserveCall) (item : ReserveItem)
      (todo : List ReserveItem) (loop next : ReserveLoop)
      (hsession : state.sessions number =
        .reserving call (.createReservation item todo loop))
      (hgrant : call.idempotencyKey = .empty ∨
        state.indexLocks.Grantable number
          (call.idempotencyKey, item.productId)) :
      StepCase state (.advance number)
        ((state.lockIndex number call.idempotencyKey item.productId).goto
          number (.reserving call (.loopHead todo next)))
  | duplicate (number : ℕ) (call : ReserveCall) (item : ReserveItem)
      (todo : List ReserveItem) (loop : ReserveLoop)
      (hsession : state.sessions number =
        .reserving call (.createReservation item todo loop)) :
      StepCase state (.advance number)
        (state.finish number state.db (.reserved (duplicateOutcome call)))
  | loopEnd (number : ℕ) (call : ReserveCall) (loop : ReserveLoop)
      (hsession : state.sessions number =
        .reserving call (.loopHead [] loop)) :
      StepCase state (.advance number)
        (state.finish number (loop.finish state.db).1
          (.reserved (loop.finish state.db).2))
  | select (number : ℕ) (orderRef : CharField128)
      (rows : List StockReservation)
      (hsession : state.sessions number = .releasing orderRef .select)
      (hselects : Selects state.db orderRef rows) :
      StepCase state (.select number rows) (state.goto number
        (.releasing orderRef (.lockRows (rows.map StockReservation.id) [])))
  | lockRow (number : ℕ) (orderRef : CharField128) (id : RowId)
      (todo : List RowId) (locked : List StockReservation)
      (hsession : state.sessions number =
        .releasing orderRef (.lockRows (id :: todo) locked))
      (hgrant : state.rowLocks.Grantable number id) :
      StepCase state (.advance number)
        ((state.lockRow number id).goto number (.releasing orderRef
          (.lockRows todo
            (locked ++ (state.db.stillReserved? orderRef id).toList))))
  | locked (number : ℕ) (orderRef : CharField128)
      (locked : List StockReservation)
      (hsession : state.sessions number =
        .releasing orderRef (.lockRows [] locked)) :
      StepCase state (.advance number) (state.goto number
        (.releasing orderRef (.addBack locked locked .start)))
  | missing (number : ℕ) (orderRef : CharField128) (row : StockReservation)
      (todo reservations : List StockReservation) (tx : Tx)
      (hsession : state.sessions number =
        .releasing orderRef (.addBack (row :: todo) reservations tx))
      (hmissing : state.db.available? row.productId = none) :
      StepCase state (.advance number) (state.goto number
        (.releasing orderRef (.saveStatus row todo reservations
          (Inventory.addBack state.db tx row))))
  | addBack (number : ℕ) (orderRef : CharField128) (row : StockReservation)
      (todo reservations : List StockReservation) (tx : Tx)
      (hsession : state.sessions number =
        .releasing orderRef (.addBack (row :: todo) reservations tx))
      (hgrant : state.productLocks.Grantable number row.productId) :
      StepCase state (.advance number)
        ((state.lockProduct number row.productId).goto number
          (.releasing orderRef (.saveStatus row todo reservations
            (Inventory.addBack state.db tx row))))
  | saveStatus (number : ℕ) (orderRef : CharField128)
      (row : StockReservation) (todo reservations : List StockReservation)
      (tx : Tx)
      (hsession : state.sessions number =
        .releasing orderRef (.saveStatus row todo reservations tx)) :
      StepCase state (.advance number)
        ((state.lockIndex number row.idempotencyKey row.productId).goto
          number (.releasing orderRef
            (.addBack todo reservations (tx.release row.id))))
  | releaseEnd (number : ℕ) (orderRef : CharField128)
      (reservations : List StockReservation) (tx : Tx)
      (hsession : state.sessions number =
        .releasing orderRef (.addBack [] reservations tx)) :
      StepCase state (.advance number)
        (state.finish number (state.db.commit tx)
          (releaseResult reservations))
  | abort (number : ℕ)
      (hopen : (∃ call phase,
          state.sessions number = .reserving call phase) ∨
        ∃ orderRef phase,
          state.sessions number = .releasing orderRef phase) :
      StepCase state (.abort number)
        (state.finish number state.db .raised)

section Reserve

variable {state next : State} {number : ℕ} {call : ReserveCall}

theorem stepReplayCheck_case
    (hsession : state.sessions number = .reserving call .replayCheck) :
    StepCase state (.advance number) (stepReplayCheck state number call) := by
  rw [stepReplayCheck]
  by_cases hitems : call.items = []
  · rw [if_pos hitems]
    exact .answer number call _ hsession (.inl ⟨rfl, hitems⟩)
  rw [if_neg hitems]
  cases hreplay : replay? state.db call.idempotencyKey with
  | some outcome =>
      exact .answer number call outcome hsession (.inr ⟨hitems, hreplay⟩)
  | none => exact .proceed number call hsession hitems hreplay

theorem stepLoopHead_case {todo : List ReserveItem} {loop : ReserveLoop}
    (hsession : state.sessions number =
      .reserving call (.loopHead todo loop))
    (hstep : stepLoopHead state number call loop todo = some next) :
    StepCase state (.advance number) next := by
  cases todo with
  | nil => exact Option.some.inj hstep ▸ .loopEnd number call loop hsession
  | cons item todo =>
      rw [stepLoopHead] at hstep
      by_cases hquantity : item.quantity ≤ 0
      · rw [if_pos hquantity] at hstep
        exact Option.some.inj hstep ▸ .skip number call item todo loop _ hsession
      rw [if_neg hquantity] at hstep
      cases hread : loop.tx.available? state.db item.productId with
      | none =>
          simp only [hread] at hstep
          exact Option.some.inj hstep ▸
            .skip number call item todo loop _ hsession
      | some available =>
          simp only [hread] at hstep
          by_cases hgrant : state.productLocks.Grantable number item.productId
          · rw [if_pos hgrant, stepRead] at hstep
            by_cases hshort : available < item.quantity
            · simp only [hshort, if_true] at hstep
              exact Option.some.inj hstep ▸
                .short number call item todo loop _ hsession hgrant
            · simp only [hshort, if_false] at hstep
              exact Option.some.inj hstep ▸
                .read number call item available todo loop hsession hgrant
          · rw [if_neg hgrant] at hstep
            exact absurd hstep (Option.some_ne_none next).symm

theorem stepCreateReservation_case {item : ReserveItem}
    {todo : List ReserveItem} {loop : ReserveLoop}
    (hsession : state.sessions number =
      .reserving call (.createReservation item todo loop))
    (hstep : stepCreateReservation state number call item todo loop =
      some next) : StepCase state (.advance number) next := by
  rw [stepCreateReservation] at hstep
  split at hstep
  · rename_i hgrant
    cases hcreate : loop.createReservation state.db call item with
    | error error =>
        simp only [hcreate] at hstep
        exact Option.some.inj hstep ▸
          .duplicate number call item todo loop hsession
    | ok after =>
        simp only [hcreate] at hstep
        exact Option.some.inj hstep ▸
          .insert number call item todo loop after hsession hgrant
  · exact absurd hstep (Option.some_ne_none next).symm

end Reserve

section Release

variable {state next : State} {number : ℕ} {orderRef : CharField128}

theorem stepSelect_case {rows : List StockReservation}
    (hstep : stepSelect state number rows = some next) :
    StepCase state (.select number rows) next := by
  rw [stepSelect] at hstep
  split at hstep
  · rename_i orderRef hsession
    split at hstep
    · rename_i hselects
      exact Option.some.inj hstep ▸
        .select number orderRef rows hsession hselects
    · exact absurd hstep (Option.some_ne_none next).symm
  · exact absurd hstep (Option.some_ne_none next).symm

theorem stepLockRows_case {todo : List RowId}
    {locked : List StockReservation}
    (hsession : state.sessions number =
      .releasing orderRef (.lockRows todo locked))
    (hstep : stepLockRows state number orderRef locked todo = some next) :
    StepCase state (.advance number) next := by
  cases todo with
  | nil => exact Option.some.inj hstep ▸ .locked number orderRef locked hsession
  | cons id todo =>
      rw [stepLockRows] at hstep
      by_cases hgrant : state.rowLocks.Grantable number id
      · rw [if_pos hgrant] at hstep
        have hcase :=
          StepCase.lockRow number orderRef id todo locked hsession hgrant
        cases hcurrent : state.db.stillReserved? orderRef id with
        | some row =>
            simp only [hcurrent, Option.toList_some] at hstep hcase
            exact Option.some.inj hstep ▸ hcase
        | none =>
            simp only [hcurrent, Option.toList_none, List.append_nil]
              at hstep hcase
            exact Option.some.inj hstep ▸ hcase
      · rw [if_neg hgrant] at hstep
        exact absurd hstep (Option.some_ne_none next).symm

theorem stepAddBack_case {todo reservations : List StockReservation}
    {tx : Tx}
    (hsession : state.sessions number =
      .releasing orderRef (.addBack todo reservations tx))
    (hstep : stepAddBack state number orderRef reservations tx todo =
      some next) : StepCase state (.advance number) next := by
  cases todo with
  | nil =>
      exact Option.some.inj hstep ▸
        .releaseEnd number orderRef reservations tx hsession
  | cons row todo =>
      rw [stepAddBack] at hstep
      by_cases hmissing : state.db.available? row.productId = none
      · rw [if_pos hmissing] at hstep
        exact Option.some.inj hstep ▸ .missing number orderRef row todo
          reservations tx hsession hmissing
      rw [if_neg hmissing] at hstep
      by_cases hgrant : state.productLocks.Grantable number row.productId
      · rw [if_pos hgrant] at hstep
        exact Option.some.inj hstep ▸ .addBack number orderRef row todo
          reservations tx hsession hgrant
      · rw [if_neg hgrant] at hstep
        exact absurd hstep (Option.some_ne_none next).symm

end Release

theorem stepAdvance_case {state next : State} {number : ℕ}
    (hstep : stepAdvance state number = some next) :
    StepCase state (.advance number) next := by
  rw [stepAdvance] at hstep
  cases hsession : state.sessions number with
  | idle => simp [hsession] at hstep
  | finished result => simp [hsession] at hstep
  | reserving call phase =>
      simp only [hsession] at hstep
      cases phase with
      | replayCheck =>
          exact Option.some.inj hstep ▸ stepReplayCheck_case hsession
      | loopHead todo loop => exact stepLoopHead_case hsession hstep
      | saveProduct item available todo loop =>
          exact Option.some.inj hstep ▸
            .saveProduct number call item available todo loop hsession
      | createReservation item todo loop =>
          exact stepCreateReservation_case hsession hstep
  | releasing orderRef phase =>
      simp only [hsession] at hstep
      cases phase with
      | select => exact absurd hstep (Option.some_ne_none next).symm
      | lockRows todo locked => exact stepLockRows_case hsession hstep
      | addBack todo reservations tx => exact stepAddBack_case hsession hstep
      | saveStatus row todo reservations tx =>
          exact Option.some.inj hstep ▸ .saveStatus number orderRef row todo
            reservations tx hsession

theorem step_cases {state next : State} {action : Action}
    (hstep : step state action = some next) : StepCase state action next := by
  cases action with
  | advance number => exact stepAdvance_case hstep
  | select number rows => exact stepSelect_case hstep
  | call number request =>
      rw [step, stepCall] at hstep
      split at hstep
      · rename_i hidle
        split at hstep
        · rename_i hunused
          exact Option.some.inj hstep ▸ .call number request hidle hunused
        · exact absurd hstep (Option.some_ne_none next).symm
      · exact absurd hstep (Option.some_ne_none next).symm
  | abort number =>
      rw [step, stepAbort] at hstep
      split at hstep
      · rename_i call phase hsession
        exact Option.some.inj hstep ▸ .abort number (.inl ⟨_, _, hsession⟩)
      · rename_i orderRef phase hsession
        exact Option.some.inj hstep ▸ .abort number (.inr ⟨_, _, hsession⟩)
      · exact absurd hstep (Option.some_ne_none next).symm

end OrderFlow.Inventory.Interleaved
