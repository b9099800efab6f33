import OrderFlow.Orders.EdgeHistory

/-!
# Every request is answered

A request can always take its next await, whatever others do, and it has only
so many of them: five for a single order, and for a batch one for each line,
one for each order and two more.
-/

namespace OrderFlow.Orders

open OrderFlow.Inventory

/-! ## What is left of a request -/

/-- The awaits a single order has still to take, at most. -/
def Phase.left : Phase → ℕ
  | .lookup => 5
  | .reserve _ _ => 4
  | .persist _ => 3
  | .rollback _ => 2
  | .release _ => 1
  | .done _ => 0

/-- The awaits a batch has still to take, at most. -/
def BulkPhase.left (request : BulkRequest) : BulkPhase → ℕ
  | .streaming messages _ => messages.length + (request.orders.length + 2)
  | .commit tally => tally.strandedRefs.length + 1
  | .releasing refs _ => refs.length
  | .done _ => 0

/-- A batch that has come to its releases has one to make. -/
def BulkPhase.Waiting : BulkPhase → Prop
  | .releasing refs _ => refs ≠ []
  | _ => True

namespace Edge

open OrderFlow.TransitionSystem

def Session.left : Session → ℕ
  | .creating _ phase => phase.left
  | .batching request phase => phase.left request
  | _ => 0

/-- What a request has to take at most. -/
def Session.bound : Session → ℕ
  | .creating _ _ => 5
  | .batching request _ => request.lines.length + request.orders.length + 2
  | _ => 0

/-- The action is an await of the request. -/
def Action.awaits (number : ℕ) : Action → Bool
  | .advance own _ => own = number
  | .proceed own _ => own = number
  | _ => false

theorem AdvanceCase.left {request : CreateRequest} {world : World}
    {phase : Phase} {next : World × Phase}
    (hcase : AdvanceCase request world phase next) :
    next.2.left < phase.left := by
  cases hcase with
  | saved raised => cases raised <;> simp [afterPersist, Phase.left]
  | rolledBack raised => cases raised <;> simp [afterRollback, Phase.left]
  | replayed | notEncodable | encoded | reserved | notReserved | notSaved
    | released => simp [Phase.left]

theorem left_nextRelease (request : BulkRequest) (out : BulkOrderOut)
    (refs : List CharField128) :
    (nextRelease out refs).left request = refs.length := by
  cases refs <;> rfl

theorem stranded_length_le (request : BulkRequest)
    (outcomes : CharField128 → List ItemOutcome) :
    (tallied request outcomes).strandedRefs.length ≤
      request.orders.length := by
  rw [tallied, foldl_tally]
  simpa [Tally.start, withStatus] using List.length_filter_le _ _

theorem BulkCase.left {request : BulkRequest} {world : World}
    {phase : BulkPhase} {next : World × BulkPhase}
    (hcase : BulkCase request world phase next) :
    next.2.left request < phase.left request := by
  cases hcase with
  | served => simp [BulkPhase.left]
  | streamFailed | notSaved => simp [BulkPhase.left]
  | summarized loop outcomes =>
      have hstranded := stranded_length_le request outcomes
      simp only [BulkPhase.left, List.length_nil]
      omega
  | saved tally orders raised =>
      cases raised with
      | true => simp [BulkRequest.afterCommit, BulkPhase.left]
      | false =>
          have hreleases := left_nextRelease request (request.out tally)
            tally.strandedRefs
          exact hreleases ▸ Nat.lt_succ_self _
  | released orderRef refs out =>
      exact left_nextRelease request out refs ▸ Nat.lt_succ_self _

/-! ## How many awaits a request takes -/

/-- What a request has taken of its bound. -/
def Session.spent (session : Session) : ℕ := session.bound - session.left

def Session.Bounded (session : Session) : Prop :=
  session.left ≤ session.bound

def Bounded (state : State) : Prop :=
  ∀ number, (state.sessions number).Bounded

theorem Starts.bounded {world : World} {session : Session}
    (hstarts : Starts world session) : session.Bounded := by
  cases hstarts with
  | create | refused | read | unread => exact Nat.le_refl _
  | bulk request =>
      have hgenerated := requestGen_prefix request.lines
      have hlength := hgenerated.length_le
      rw [List.length_map] at hlength
      simp only [Session.Bounded, Session.left, Session.bound,
        BulkRequest.begin, BulkPhase.left]
      omega

theorem step_bounded {state next : State} {action : Action}
    (hsound : Sound state) (hbounded : Bounded state)
    (hstep : step state action = some next) : Bounded next := by
  cases step_cases hsound.carried hstep with
  | start action number session _ hidle hstarts =>
      exact State.forall_goto hbounded hstarts.bounded
  | unread number request hsession =>
      exact State.forall_goto hbounded (Nat.le_refl 0)
  | advance number faults request phase point hsession hcase =>
      have hown := hbounded number
      rw [hsession] at hown
      exact State.forall_goto hbounded (hcase.left.le.trans hown)
  | proceed number event request phase point hsession hcase =>
      have hown := hbounded number
      rw [hsession] at hown
      exact State.forall_goto hbounded (hcase.left.le.trans hown)
  | other call => exact hbounded

theorem spent_other {state : State} {number own : ℕ} {world : World}
    {session : Session} (hother : own ≠ number) :
    ((state.goto own world session).sessions number).spent =
      (state.sessions number).spent := by
  rw [State.goto_other _ _ _ (Ne.symm hother)]

/-- An await of a request counts for that request and for no other. -/
theorem spent_goto {state : State} (hbounded : Bounded state)
    {own : ℕ} (number : ℕ) {world : World} {session next : Session}
    (hsession : state.sessions own = session)
    (hbound : next.bound = session.bound) (hleft : next.left < session.left) :
    (state.sessions number).spent + (if decide (own = number) then 1 else 0) ≤
      ((state.goto own world next).sessions number).spent := by
  by_cases hsame : own = number
  · subst hsame
    have hown := hbounded own
    rw [hsession] at hown ⊢
    rw [State.goto_self, Session.spent, Session.spent, hbound,
      if_pos (decide_eq_true rfl)]
    simp only [Session.Bounded] at hown
    omega
  · rw [spent_other hsame, if_neg (by simp [hsame])]
    exact Nat.le_refl _

theorem step_spent {state next : State} {action : Action}
    (hsound : Sound state) (hbounded : Bounded state) (number : ℕ)
    (hstep : step state action = some next) :
    (state.sessions number).spent +
        (if action.awaits number then 1 else 0) ≤
      (next.sessions number).spent := by
  cases step_cases hsound.carried hstep with
  | start action own session harrives hidle hstarts =>
      have hnot : action.awaits number = false := by
        cases action with
        | advance | proceed => exact absurd harrives Bool.false_ne_true
        | post | postBulk | get | readFails | other => rfl
      rw [hnot, if_neg Bool.false_ne_true]
      by_cases hsame : own = number
      · subst hsame
        rw [hidle]
        exact Nat.zero_le _
      · rw [spent_other hsame]
        exact Nat.le_refl _
  | unread own request hsession =>
      by_cases hsame : own = number
      · subst hsame
        rw [hsession]
        exact Nat.zero_le _
      · rw [spent_other hsame]
        exact Nat.le_refl _
  | advance own faults request phase point hsession hcase =>
      exact spent_goto hbounded number hsession rfl hcase.left
  | proceed own event request phase point hsession hcase =>
      exact spent_goto hbounded number hsession rfl hcase.left
  | other call => exact Nat.le_refl _

/-! ## A request is never stuck -/

theorem waiting_nextRelease (out : BulkOrderOut) (refs : List CharField128) :
    BulkPhase.Waiting (nextRelease out refs) := by
  cases refs with
  | nil => trivial
  | cons orderRef refs => exact List.cons_ne_nil orderRef refs

theorem BulkCase.waiting {request : BulkRequest} {world : World}
    {phase : BulkPhase} {next : World × BulkPhase}
    (hcase : BulkCase request world phase next) :
    BulkPhase.Waiting next.2 := by
  cases hcase with
  | saved tally orders raised =>
      cases raised with
      | true => trivial
      | false => exact waiting_nextRelease _ _
  | released orderRef refs out => exact waiting_nextRelease out refs
  | served | streamFailed | summarized | notSaved => trivial

def Session.Waiting : Session → Prop
  | .batching _ phase => phase.Waiting
  | _ => True

def Waiting (state : State) : Prop :=
  ∀ number, (state.sessions number).Waiting

theorem step_waiting {state next : State} {action : Action}
    (hsound : Sound state) (hwaiting : Waiting state)
    (hstep : step state action = some next) : Waiting next := by
  cases step_cases hsound.carried hstep with
  | start action number session _ hidle hstarts =>
      refine State.forall_goto hwaiting ?_
      cases hstarts <;> trivial
  | unread | advance => exact State.forall_goto hwaiting trivial
  | proceed number event request phase point hsession hcase =>
      exact State.forall_goto hwaiting hcase.waiting
  | other call => exact hwaiting

theorem exists_advanceBulk (request : BulkRequest) (world : World)
    {phase : BulkPhase} (hwaiting : BulkPhase.Waiting phase)
    (hrunning : ∀ exit, phase ≠ .done exit) :
    ∃ event next, advanceBulk request world phase event = some next := by
  cases phase with
  | done exit => exact absurd rfl (hrunning exit)
  | commit tally => exact ⟨.commit .none, _, rfl⟩
  | releasing refs out =>
      cases refs with
      | nil => exact absurd rfl hwaiting
      | cons orderRef refs => exact ⟨.release .answered, _, rfl⟩
  | streaming messages loop =>
      cases messages with
      | cons message messages => exact ⟨.serve id, _, rfl⟩
      | nil =>
          refine ⟨.finish none, ?_⟩
          cases hend : (requestGen request.lines).2 with
          | true =>
              exact ⟨(world, request.afterAnswer loop.summary),
                by simp [advanceBulk, hend]⟩
          | false =>
              exact ⟨(world, .done (afterStreamError .cancelled)),
                by simp [advanceBulk, hend]⟩

theorem exists_await {state : State} (hwaiting : Waiting state) {number : ℕ}
    (hstarted : state.sessions number ≠ .idle)
    (hunanswered : (state.sessions number).response? = none) :
    ∃ action next, action.awaits number = true ∧
      step state action = some next := by
  cases hsession : state.sessions number with
  | idle => exact absurd hsession hstarted
  | answered response => simp [hsession, Session.response?] at hunanswered
  | creating request phase =>
      refine ⟨.advance number {}, state.goto number
        (Orders.advance request {} state.world phase).1
        (.creating request (Orders.advance request {} state.world phase).2),
        by simp [Action.awaits], ?_⟩
      cases phase with
      | done exit => simp [hsession, Session.response?] at hunanswered
      | lookup | reserve | persist | rollback | release =>
          simp only [step, hsession]
  | batching request phase =>
      have hrunning : ∀ exit, phase ≠ .done exit := by
        rintro exit rfl
        simp [hsession, Session.response?] at hunanswered
      have hown := hwaiting number
      rw [hsession] at hown
      obtain ⟨event, point, hpoint⟩ :=
        exists_advanceBulk request state.world hown hrunning
      refine ⟨.proceed number event,
        state.goto number point.1 (.batching request point.2),
        by simp [Action.awaits], ?_⟩
      simp only [step, hsession, hpoint, Option.map_some]

/-- Whatever the other requests do and whatever fails, a request takes no more
awaits than its bound, and until it is answered it can take one. -/
theorem answered_within {world : World} {schedule : List Action}
    {final : State} (hrun : run step (.init world) schedule = some final)
    (number : ℕ) :
    schedule.countP (Action.awaits number) ≤ (final.sessions number).bound ∧
      (final.sessions number ≠ .idle →
        (final.sessions number).response? = none →
          ∃ action next, action.awaits number = true ∧
            step final action = some next) := by
  have hinit : Sound (.init world) ∧ Bounded (.init world) ∧
      Waiting (.init world) :=
    ⟨.init world, fun _ => Nat.le_refl _, fun _ => trivial⟩
  have hstep : ∀ state action next,
      Sound state ∧ Bounded state ∧ Waiting state →
        step state action = some next →
          Sound next ∧ Bounded next ∧ Waiting next :=
    fun _ _ _ ⟨hsound, hbounded, hwaiting⟩ hnext =>
      ⟨hsound.step hnext, step_bounded hsound hbounded hnext,
        step_waiting hsound hwaiting hnext⟩
  have hcount := @run_countP_le _ _ step _ (Action.awaits number)
    (fun state => (state.sessions number).spent) hstep
    (fun _ _ _ hkept hnext => step_spent hkept.1 hkept.2.1 number hnext)
    _ _ _ hinit hrun
  have hwaiting := (run_invariant hstep hinit hrun).2.2
  have hspent : ((State.init world).sessions number).spent = 0 := rfl
  have hbound : (final.sessions number).spent ≤
      (final.sessions number).bound := Nat.sub_le _ _
  exact ⟨by omega, exists_await hwaiting⟩

theorem answered_within_rush : ∃ final,
    run step (.init ⟨[], seededDb⟩) rush = some final ∧
      rush.countP (Action.awaits 3) = 7 ∧
      rush.countP (Action.awaits 3) ≤ (final.sessions 3).bound ∧
      (final.sessions 3).bound = 9 := by
  have hwithin : ∀ final,
      run step (.init ⟨[], seededDb⟩) rush = some final →
        rush.countP (Action.awaits 3) ≤ (final.sessions 3).bound :=
    fun final hrun => (answered_within hrun 3).1
  exact ⟨_, rfl, by decide, hwithin _ rfl, by decide⟩

end Edge

end OrderFlow.Orders
