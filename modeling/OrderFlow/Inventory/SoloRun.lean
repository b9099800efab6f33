import OrderFlow.Inventory.Interleaved
import OrderFlow.Inventory.ReserveSpec

/-!
# A session that runs alone

When no other session is in its way, a `reserve_stock` call that has passed
its replay check comes to its end by its own statements, with the answer and
the tables of the undisturbed transaction.
-/

namespace OrderFlow.Inventory.Interleaved

open OrderFlow
open OrderFlow.TransitionSystem

/-- No other session holds a lock a reserve could wait for. -/
structure Alone (number : ℕ) (state : State) : Prop where
  products : ∀ productId, state.productLocks.Grantable number productId
  index : ∀ entry, state.indexLocks.Grantable number entry

/-- `final` is reached by statements of the session `number` only. -/
def AdvancesTo (number : ℕ) (state final : State) : Prop :=
  ∃ schedule, (∀ action ∈ schedule, action = Action.advance number) ∧
    run step state schedule = some final

theorem AdvancesTo.refl (number : ℕ) (state : State) :
    AdvancesTo number state state :=
  ⟨[], fun _ haction => absurd haction List.not_mem_nil, rfl⟩

theorem AdvancesTo.head {number : ℕ} {state next final : State}
    (hstep : step state (.advance number) = some next)
    (hrest : AdvancesTo number next final) :
    AdvancesTo number state final := by
  obtain ⟨schedule, hown, hrun⟩ := hrest
  refine ⟨.advance number :: schedule, ?_, ?_⟩
  · exact List.forall_mem_cons.mpr ⟨rfl, hown⟩
  · rw [run_cons, hstep]
    exact hrun

theorem AdvancesTo.trans {number : ℕ} {state middle final : State}
    (hfirst : AdvancesTo number state middle)
    (hsecond : AdvancesTo number middle final) :
    AdvancesTo number state final := by
  obtain ⟨schedule, hown, hrun⟩ := hfirst
  induction schedule generalizing state with
  | nil => exact Option.some.inj hrun ▸ hsecond
  | cons action schedule ih =>
      obtain ⟨rfl, hrest⟩ := List.forall_mem_cons.mp hown
      obtain ⟨next, hnext, htail⟩ := run_cons_eq_some hrun
      exact .head hnext (ih hrest htail)

theorem Alone.init (number : ℕ) (db : InventoryDb) :
    Alone number (.init db) where
  products _ := .inl rfl
  index _ := .inl rfl

theorem State.lockIndex_db (state : State) (number : ℕ) (key : CharField128)
    (productId : ℤ) : (state.lockIndex number key productId).db = state.db := by
  rw [lockIndex]
  split_ifs <;> rfl

theorem State.lockIndex_sessions (state : State) (number : ℕ)
    (key : CharField128) (productId : ℤ) :
    (state.lockIndex number key productId).sessions = state.sessions := by
  rw [lockIndex]
  split_ifs <;> rfl

section Locks

variable {number : ℕ} {state : State}

theorem Grantable.acquire {Resource : Type*} [DecidableEq Resource]
    {locks : LockTable Resource ℕ}
    (hgrant : ∀ resource, locks.Grantable number resource)
    (taken : Resource) (resource : Resource) :
    (locks.acquire number taken).Grantable number resource := by
  by_cases hsame : resource = taken
  · exact .inr (hsame ▸ LockTable.holds_acquire locks number resource)
  · simpa [LockTable.Grantable, LockTable.acquire, hsame] using hgrant resource

theorem Alone.goto (halone : Alone number state) {mover : ℕ}
    (next : Session) : Alone number (state.goto mover next) :=
  ⟨halone.products, halone.index⟩

theorem Alone.lockProduct (halone : Alone number state) (productId : ℤ) :
    Alone number (state.lockProduct number productId) :=
  ⟨Grantable.acquire halone.products productId, halone.index⟩

theorem Alone.lockIndex (halone : Alone number state) (key : CharField128)
    (productId : ℤ) : Alone number (state.lockIndex number key productId) := by
  rw [State.lockIndex]
  split_ifs
  · exact halone
  · exact ⟨halone.products, Grantable.acquire halone.index (key, productId)⟩

/-- After the last open transaction nothing is locked. -/
theorem Alone.finish (halone : Alone number state) (db : InventoryDb)
    (result : Result) (other : ℕ) :
    Alone other (state.finish number db result) := by
  have hfree : ∀ {Resource : Type} {locks : LockTable Resource ℕ},
      (∀ resource, locks.Grantable number resource) → ∀ resource,
        (locks.releaseAll number).Grantable other resource := by
    intro Resource locks hgrant resource
    left
    rcases hgrant resource with hnone | hown
    · simp [LockTable.releaseAll, hnone]
    · simp [LockTable.releaseAll, hown]
  exact ⟨hfree halone.products, hfree halone.index⟩

end Locks

/-! ## The loop to its end -/

/-- The tables and the answer at the end of the loop. -/
def loopResult (db : InventoryDb) (call : ReserveCall) (loop : ReserveLoop)
    (todo : List ReserveItem) : InventoryDb × ReservationOutcome :=
  match reserveLoop db call loop todo with
  | .error _ => (db, duplicateOutcome call)
  | .ok final => final.finish db

/-- The call has returned, and nothing is locked. -/
structure Returned (state : State) (number : ℕ)
    (result : InventoryDb × ReservationOutcome) (final : State) : Prop where
  db : final.db = result.1
  sessions : final.sessions = Function.update state.sessions number
    (.finished (.reserved result.2))
  unlocked : ∀ other, Alone other final

theorem Returned.before {state next final : State} {number : ℕ}
    {result : InventoryDb × ReservationOutcome} {session : Session}
    (hreturned : Returned next number result final)
    (hsessions : next.sessions =
      Function.update state.sessions number session) :
    Returned state number result final where
  db := hreturned.db
  sessions := by
    rw [hreturned.sessions, hsessions, Function.update_idem]
  unlocked := hreturned.unlocked

/-- One iteration has gone through, and the session is at the next line. -/
structure LineDone (state : State) (number : ℕ) (call : ReserveCall)
    (todo : List ReserveItem) (next : ReserveLoop) (after : State) :
    Prop where
  db : after.db = state.db
  sessions : after.sessions = Function.update state.sessions number
    (.reserving call (.loopHead todo next))
  alone : Alone number after

section Line

variable {state : State} {number : ℕ} {call : ReserveCall}
variable {item : ReserveItem} {todo : List ReserveItem} {loop : ReserveLoop}

/-- A line that takes stock: the row is read and locked, and saved. -/
theorem Alone.read (halone : Alone number state)
    (hsession : state.sessions number =
      .reserving call (.loopHead (item :: todo) loop)) {available : ℤ}
    (hquantity : 0 < item.quantity)
    (hproduct : loop.tx.available? state.db item.productId = some available)
    (henough : item.quantity ≤ available) :
    ∃ after, AdvancesTo number state after ∧ after.db = state.db ∧
      after.sessions = Function.update state.sessions number
        (.reserving call (.createReservation item todo
          (loop.saveProduct item available))) ∧
      Alone number after := by
  let locked := (state.lockProduct number item.productId).goto number
    (.reserving call (.saveProduct item available todo loop))
  have hread : step state (.advance number) = some locked := by
    simp only [step, stepAdvance, hsession, stepReserve, stepLoopHead,
      hproduct]
    rw [if_neg (not_le.mpr hquantity), if_pos (halone.products _), stepRead]
    exact congrArg some (if_neg (not_lt.mpr henough))
  have hsave : step locked (.advance number) =
      some (stepSaveProduct locked number call item available todo loop) := by
    simp [step, stepAdvance, locked, State.goto, stepReserve]
  refine ⟨_, .head hread (.head hsave (.refl number _)), rfl, ?_,
    ((halone.lockProduct _).goto _).goto _⟩
  exact Function.update_idem _ _ _

/-- The INSERT of a line that the index accepts. -/
theorem Alone.insert (halone : Alone number state)
    (hsession : state.sessions number =
      .reserving call (.createReservation item todo loop)) {next : ReserveLoop}
    (hcreate : loop.createReservation state.db call item = .ok next) :
    ∃ after, step state (.advance number) = some after ∧
      LineDone state number call todo next after := by
  have hinsert : step state (.advance number) =
      some ((state.lockIndex number call.idempotencyKey item.productId).goto
        number (.reserving call (.loopHead todo next))) := by
    simp only [step, stepAdvance, hsession, stepReserve,
      stepCreateReservation]
    rw [if_pos (.inr (halone.index _)), hcreate]
  refine ⟨_, hinsert, ?_, ?_, (halone.lockIndex _ _).goto _⟩
  · exact state.lockIndex_db number _ _
  · exact congrArg (Function.update · number _)
      (state.lockIndex_sessions number _ _)

theorem Alone.line_ok (halone : Alone number state)
    (hsession : state.sessions number =
      .reserving call (.loopHead (item :: todo) loop)) {next : ReserveLoop}
    (hline : reserveLine state.db call loop item = .ok next) :
    ∃ after, AdvancesTo number state after ∧
      LineDone state number call todo next after := by
  have hcase := reserveLine_case state.db call loop item
  rw [hline] at hcase
  cases hcase with
  | nonPositive hquantity =>
      have hskip : step state (.advance number) = some (state.goto number
          (.reserving call (.loopHead todo
            (loop.reject item "quantity must be positive")))) := by
        simp [step, stepAdvance, hsession, stepReserve, stepLoopHead,
          hquantity]
      exact ⟨_, .head hskip (.refl number _), rfl, rfl, halone.goto _⟩
  | notFound hquantity hproduct =>
      have hskip : step state (.advance number) = some (state.goto number
          (.reserving call (.loopHead todo
            (loop.reject item "product not found")))) := by
        simp [step, stepAdvance, hsession, stepReserve, stepLoopHead,
          not_le.mpr hquantity, hproduct]
      exact ⟨_, .head hskip (.refl number _), rfl, rfl, halone.goto _⟩
  | insufficient available hquantity hproduct hshort =>
      have hskip : step state (.advance number) =
          some ((state.lockProduct number item.productId).goto number
            (.reserving call (.loopHead todo (loop.reject item
              (ReserveLoop.insufficientStock item.quantity available))))) := by
        simp only [step, stepAdvance, hsession, stepReserve, stepLoopHead,
          hproduct]
        rw [if_neg (not_le.mpr hquantity), if_pos (halone.products _),
          stepRead]
        exact congrArg some (if_pos hshort)
      exact ⟨_, .head hskip (.refl number _), rfl, rfl,
        (halone.lockProduct _).goto _⟩
  | reserved available hquantity hproduct henough hindex =>
      obtain ⟨saved, hsaved, hdb, hsessions, halone⟩ :=
        halone.read hsession hquantity hproduct henough
      have hcreate : (loop.saveProduct item available).createReservation
          saved.db call item = .ok
            { tx := (loop.tx.write item.productId
                (available - item.quantity)).insert
                  (call.row item loop.tx.inserted.length)
              outcomes := loop.outcomes ++ [⟨item.productId, true, ""⟩]
              allOk := loop.allOk } := by
        rw [hdb, ReserveLoop.createReservation, if_neg]
        · rfl
        · exact fun hviolates => Bool.false_ne_true (hindex.symm.trans hviolates)
      have hself : saved.sessions number = .reserving call
          (.createReservation item todo (loop.saveProduct item available)) := by
        rw [hsessions, Function.update_self]
      obtain ⟨after, hinsert, hafter⟩ := halone.insert hself hcreate
      refine ⟨after, hsaved.trans (.head hinsert (.refl number _)),
        hafter.db.trans hdb, ?_, hafter.alone⟩
      rw [hafter.sessions, hsessions, Function.update_idem]

/-- A line that meets its own key in the index ends the call. -/
theorem Alone.line_error (halone : Alone number state)
    (hsession : state.sessions number =
      .reserving call (.loopHead (item :: todo) loop)) {error : DbError}
    (hline : reserveLine state.db call loop item = .error error) :
    ∃ final, AdvancesTo number state final ∧
      Returned state number (state.db, duplicateOutcome call) final := by
  have hcase := reserveLine_case state.db call loop item
  rw [hline] at hcase
  cases hcase with
  | duplicate available hquantity hproduct henough hindex =>
      obtain ⟨saved, hsaved, hdb, hsessions, halone⟩ :=
        halone.read hsession hquantity hproduct henough
      have hcreate : (loop.saveProduct item available).createReservation
          saved.db call item = .error .integrityError := by
        rw [hdb, ReserveLoop.createReservation]
        exact if_pos hindex
      have hself : saved.sessions number = .reserving call
          (.createReservation item todo (loop.saveProduct item available)) := by
        rw [hsessions, Function.update_self]
      have hend : step saved (.advance number) = some (saved.finish number
          saved.db (.reserved (duplicateOutcome call))) := by
        simp only [step, stepAdvance, hself, stepReserve,
          stepCreateReservation]
        rw [if_pos (.inr (halone.index _)), hcreate]
      refine ⟨_, hsaved.trans (.head hend (.refl number _)), hdb, ?_,
        halone.finish _ _⟩
      rw [State.finish, hsessions, Function.update_idem]

/-- A session that runs alone ends its loop as the undisturbed transaction
does. -/
theorem Alone.run_loop (halone : Alone number state)
    (hsession : state.sessions number = .reserving call (.loopHead todo loop)) :
    ∃ final, AdvancesTo number state final ∧
      Returned state number (loopResult state.db call loop todo) final := by
  induction todo generalizing state loop with
  | nil =>
      have hend : step state (.advance number) = some (state.finish number
          (loop.finish state.db).1 (.reserved (loop.finish state.db).2)) := by
        simp [step, stepAdvance, hsession, stepReserve, stepLoopHead]
      exact ⟨_, .head hend (.refl number _), rfl, rfl, halone.finish _ _⟩
  | cons item todo ih =>
      cases hline : reserveLine state.db call loop item with
      | error error =>
          have hresult : loopResult state.db call loop (item :: todo) =
              (state.db, duplicateOutcome call) := by
            rw [loopResult, reserveLoop_cons, hline]
            rfl
          rw [hresult]
          exact halone.line_error hsession hline
      | ok next =>
          obtain ⟨after, hreach, hdone⟩ := halone.line_ok hsession hline
          obtain ⟨final, hrest, hreturned⟩ := ih hdone.alone
            (by rw [hdone.sessions, Function.update_self])
          have hresult : loopResult state.db call loop (item :: todo) =
              loopResult after.db call next todo := by
            rw [loopResult, reserveLoop_cons, hline, hdone.db]
            rfl
          rw [hresult]
          exact ⟨final, hreach.trans hrest, hreturned.before hdone.sessions⟩

end Line

end OrderFlow.Inventory.Interleaved
