import OrderFlow.Core.Custody
import OrderFlow.Orders.Standing

/-!
# Both databases at rest

However single orders, batches and reads overlap, a reference that no request
in flight works on has its stock reserved exactly if its order is saved.  This
takes that no two requests in flight share a reference, that other clients keep
off the references of order-service, and that nothing fails which the code
cannot make good.
-/

namespace OrderFlow.Orders

open OrderFlow.Inventory

namespace Edge

open OrderFlow.TransitionSystem

/-! ## The references in flight -/

/-- The references that a request in flight works on. -/
def Session.refs : Session → List CharField128
  | .creating _ (.done _) => []
  | .creating request _ => [request.orderRef]
  | .batching _ (.done _) => []
  | .batching request _ => request.refs
  | _ => []

/-- In what condition a request may leave one of its references. -/
def Session.Leaves (orderRef : CharField128) (standing : Standing) :
    Session → Prop
  | .creating request phase => phase.Leaves request standing
  | .batching request phase => phase.Leaves request orderRef standing
  | _ => standing.Agrees

/-- What a request carries along. -/
def Session.Formed : Session → Prop
  | .batching request phase => request.refs.Nodup ∧ phase.Formed request
  | _ => True

/-- No request in flight works on the reference. -/
def State.Free (state : State) (orderRef : CharField128) : Prop :=
  ∀ number, orderRef ∉ (state.sessions number).refs

def custody (ours : CharField128 → Prop) :
    Custody Session CharField128 Standing where
  Has session orderRef := orderRef ∈ session.refs
  Leaves session orderRef standing :=
    ours orderRef ∧ session.Leaves orderRef standing
  Rests orderRef standing := ours orderRef → standing.Agrees

/-- A request starts with references that are `free`, other clients keep off
the references of order-service, generated ids are not taken, and nothing fails
that the code cannot make good. -/
def Careful (ours free : CharField128 → Prop) (state : State) :
    Action → Prop
  | .post _ body idempotencyKey uuid clock =>
      match postOrder body idempotencyKey uuid clock with
      | .error _ => True
      | .ok request => ours request.orderRef ∧ free request.orderRef
  | .postBulk _ body uuid =>
      match postOrdersBulk body uuid with
      | .error _ => True
      | .ok request => request.refs.Nodup ∧ ∀ orderRef ∈ request.refs,
          ours orderRef ∧ free orderRef ∧
            state.world.orders.get? orderRef = none
  | .advance _ faults => faults.Mendable
  | .proceed number event =>
      match state.sessions number with
      | .batching request phase => request.Mendable phase event
      | _ => True
  | .other call => call.Foreign ours
  | .get .. | .readFails .. => True

/-- Every reference is being worked on by one request, or its order and its
stock agree. -/
structure Balanced (ours : CharField128 → Prop) (state : State) : Prop where
  sound : Sound state
  tidy : state.world.inventory.Tidy ours
  formed : ∀ number, (state.sessions number).Formed
  kept : (custody ours).Kept state.sessions state.world.standing

section Balanced

variable {ours : CharField128 → Prop} {state next : State}

/-- A request takes a step: it takes hold of references that nobody works on,
and touches no others than its own. -/
theorem Balanced.goto (hbalanced : Balanced ours state) {number : ℕ}
    {world : World} {session : Session}
    (hsound : Sound (state.goto number world session))
    (htouches : Touches ours (· ∈ (state.sessions number).refs) state.world
      world)
    (hformed : session.Formed)
    (htakes : ∀ orderRef ∈ session.refs,
      orderRef ∉ (state.sessions number).refs → state.Free orderRef)
    (hleaves : ∀ orderRef ∈ session.refs, ours orderRef ∧
      session.Leaves orderRef (world.standing orderRef))
    (hrests : ∀ orderRef ∈ (state.sessions number).refs,
      orderRef ∉ session.refs → (world.standing orderRef).Agrees) :
    Balanced ours (state.goto number world session) where
  sound := hsound
  tidy := htouches.tidy
  formed := State.forall_goto hbalanced.formed hformed
  kept := hbalanced.kept.update htakes htouches.frame hleaves
    fun orderRef hbefore hafter _ => hrests orderRef hbefore hafter

/-- A request that does nothing to a reference of its own ends at once. -/
theorem Balanced.answer (hbalanced : Balanced ours state) {number : ℕ}
    (response : Response)
    (hsound : Sound (state.goto number state.world (.answered response)))
    (hagrees : ∀ orderRef ∈ (state.sessions number).refs,
      (state.world.standing orderRef).Agrees) :
    Balanced ours (state.goto number state.world (.answered response)) :=
  hbalanced.goto hsound (.none hbalanced.tidy) trivial
    (fun _ href => absurd href List.not_mem_nil)
    (fun _ href => absurd href List.not_mem_nil)
    fun orderRef href _ => hagrees orderRef href

/-- A request is answered as it arrives. -/
theorem Balanced.refuse (hbalanced : Balanced ours state) {number : ℕ}
    {response : Response} (hidle : state.sessions number = .idle)
    (hsound : Sound (state.goto number state.world (.answered response))) :
    Balanced ours (state.goto number state.world (.answered response)) := by
  refine hbalanced.answer response hsound fun orderRef href => ?_
  rw [hidle] at href
  exact absurd href List.not_mem_nil

/-- A request arrives. -/
theorem Balanced.start (hbalanced : Balanced ours state) {number : ℕ}
    {session : Session} (hidle : state.sessions number = .idle)
    (hsound : Sound (state.goto number state.world session))
    (hformed : session.Formed)
    (hfree : ∀ orderRef ∈ session.refs, ours orderRef ∧ state.Free orderRef)
    (hleaves : ∀ orderRef ∈ session.refs,
      (state.world.standing orderRef).Agrees →
        session.Leaves orderRef (state.world.standing orderRef)) :
    Balanced ours (state.goto number state.world session) := by
  refine hbalanced.goto hsound (.none hbalanced.tidy) hformed
    (fun orderRef href _ => (hfree orderRef href).2) ?_ ?_
  · intro orderRef href
    obtain ⟨hours, hnobody⟩ := hfree orderRef href
    exact ⟨hours, hleaves orderRef href
      (hbalanced.kept.resting orderRef hnobody hours)⟩
  · intro orderRef href
    rw [hidle] at href
    exact absurd href List.not_mem_nil

/-! ## The steps -/

theorem Balanced.post (hbalanced : Balanced ours state) {number : ℕ}
    {body : List (ℤ × ℤ)} {idempotencyKey : Option String} {uuid : Uuid4}
    {clock : ℕ → ℕ} (hidle : state.sessions number = .idle)
    (hcareful : Careful ours state.Free state
      (.post number body idempotencyKey uuid clock))
    (hsound : Sound (state.goto number state.world
      (startCreate (postOrder body idempotencyKey uuid clock)))) :
    Balanced ours (state.goto number state.world
      (startCreate (postOrder body idempotencyKey uuid clock))) := by
  rw [Careful] at hcareful
  cases hposted : postOrder body idempotencyKey uuid clock with
  | error response =>
      rw [hposted] at hsound
      exact hbalanced.refuse hidle hsound
  | ok request =>
      rw [hposted] at hsound hcareful
      refine hbalanced.start hidle hsound trivial ?_ fun _ _ hagrees => hagrees
      intro orderRef href
      obtain rfl := List.mem_singleton.mp href
      exact hcareful

theorem Balanced.postBulk (hbalanced : Balanced ours state) {number : ℕ}
    {body : List (List (ℤ × ℤ))} {uuid : ℕ → Uuid4}
    (hidle : state.sessions number = .idle)
    (hcareful : Careful ours state.Free state (.postBulk number body uuid))
    (hsound : Sound (state.goto number state.world
      (startBulk (postOrdersBulk body uuid)))) :
    Balanced ours (state.goto number state.world
      (startBulk (postOrdersBulk body uuid))) := by
  rw [Careful] at hcareful
  cases hposted : postOrdersBulk body uuid with
  | error response =>
      rw [hposted] at hsound
      exact hbalanced.refuse hidle hsound
  | ok request =>
      rw [hposted] at hsound hcareful
      obtain ⟨hnodup, hrefs⟩ := hcareful
      refine hbalanced.start hidle hsound ⟨hnodup, List.drop_zero, rfl⟩ ?_ ?_
      · intro orderRef href
        obtain ⟨hours, hfree, _⟩ := hrefs orderRef href
        exact ⟨hours, hfree⟩
      · intro orderRef href hagrees
        obtain ⟨_, _, hunsaved⟩ := hrefs orderRef href
        refine ⟨hunsaved, ?_⟩
        rw [hagrees.rows_eq_nil hunsaved, BulkRequest.answers,
          List.zip_nil_right]
        rfl

theorem mem_refs_creating {request : CreateRequest} {phase : Phase}
    {orderRef : CharField128}
    (href : orderRef ∈ (Session.creating request phase).refs) :
    orderRef = request.orderRef := by
  cases phase with
  | done exit => exact absurd href List.not_mem_nil
  | lookup | reserve | persist | rollback | release =>
      exact List.mem_singleton.mp href

theorem refs_creating {request : CreateRequest} {phase : Phase}
    (hrunning : ∀ exit, phase ≠ .done exit) :
    (Session.creating request phase).refs = [request.orderRef] := by
  cases phase with
  | done exit => exact absurd rfl (hrunning exit)
  | lookup | reserve | persist | rollback | release => rfl

theorem Balanced.advance (hbalanced : Balanced ours state) {number : ℕ}
    {faults : Faults} {request : CreateRequest} {phase : Phase}
    (hsession : state.sessions number = .creating request phase)
    (hrunning : ∀ exit, phase ≠ .done exit) (hmendable : faults.Mendable)
    (hsound : Sound (state.goto number
      (Orders.advance request faults state.world phase).1
      (.creating request
        (Orders.advance request faults state.world phase).2))) :
    Balanced ours (state.goto number
      (Orders.advance request faults state.world phase).1
      (.creating request
        (Orders.advance request faults state.world phase).2)) := by
  have hrefs : (state.sessions number).refs = [request.orderRef] :=
    hsession ▸ refs_creating hrunning
  have hmine : request.orderRef ∈ (state.sessions number).refs :=
    hrefs ▸ List.mem_singleton_self _
  obtain ⟨hours, hleaves⟩ := hbalanced.kept.held number _ hmine
  rw [hsession] at hleaves
  have hcarries : Carries request phase := by
    have hown := hbalanced.sound.carried number
    rwa [hsession] at hown
  obtain ⟨htouches, hafter⟩ := advance_leaves hbalanced.tidy hours hmendable
    hcarries hleaves
  refine hbalanced.goto hsound ⟨htouches.tidy, ?_⟩ trivial ?_ ?_ ?_
  · intro orderRef hother
    exact htouches.frame orderRef fun hsame => hother (hsame ▸ hmine)
  · intro orderRef href hnew
    exact absurd (mem_refs_creating href ▸ hmine) hnew
  · intro orderRef href
    obtain rfl := mem_refs_creating href
    exact ⟨hours, hafter⟩
  · intro orderRef href hgone
    rw [hrefs, List.mem_singleton] at href
    subst href
    generalize (Orders.advance request faults state.world phase).2 = after
      at hgone hafter
    cases after with
    | done exit => exact hafter
    | _ => exact absurd (List.mem_singleton_self _) hgone

theorem mem_refs_batching {request : BulkRequest} {phase : BulkPhase}
    {orderRef : CharField128}
    (href : orderRef ∈ (Session.batching request phase).refs) :
    orderRef ∈ request.refs := by
  cases phase with
  | done exit => exact absurd href List.not_mem_nil
  | streaming | commit | releasing => exact href

theorem Balanced.proceed (hnamed : ¬ ours .empty)
    (hbalanced : Balanced ours state) {number : ℕ} {event : BulkEvent}
    {request : BulkRequest} {phase : BulkPhase} {point : World × BulkPhase}
    (hsession : state.sessions number = .batching request phase)
    (hmendable : request.Mendable phase event)
    (hpoint : advanceBulk request state.world phase event = some point)
    (hsound : Sound
      (state.goto number point.1 (.batching request point.2))) :
    Balanced ours (state.goto number point.1 (.batching request point.2)) := by
  have hrefs : (state.sessions number).refs = request.refs := by
    rw [hsession]
    cases advanceBulk_moves hpoint <;> rfl
  obtain ⟨hnodup, hformed⟩ : request.refs.Nodup ∧ phase.Formed request := by
    have hown := hbalanced.formed number
    rwa [hsession] at hown
  have hbatch : BatchSound request state.world.orders phase := by
    have hown := hbalanced.sound number
    rwa [hsession] at hown
  have hown : ∀ orderRef ∈ request.refs, ours orderRef ∧
      phase.Leaves request orderRef (state.world.standing orderRef) := by
    intro orderRef href
    have hheld := hbalanced.kept.held number orderRef
      (by rwa [← hrefs] at href)
    rwa [hsession] at hheld
  have hproceeds := advanceBulk_proceeds hnamed hbalanced.tidy hnodup hbatch
    hformed hmendable (fun orderRef href => (hown orderRef href).2) hpoint
  refine hbalanced.goto hsound ?_ ⟨hnodup, hproceeds.formed⟩ ?_ ?_ ?_
  · rw [hrefs]
    exact hproceeds.touches
  · intro orderRef href hnew
    rw [hrefs] at hnew
    exact absurd (mem_refs_batching href) hnew
  · intro orderRef href
    have hmine := mem_refs_batching href
    exact ⟨(hown orderRef hmine).1, hproceeds.leaves orderRef hmine⟩
  · intro orderRef href hgone
    rw [hrefs] at href
    have hafter := hproceeds.leaves orderRef href
    cases hphase : point.2 with
    | done exit => rwa [hphase] at hafter
    | streaming | commit | releasing =>
        rw [hphase] at hgone
        exact absurd href hgone

/-- Another client calls. -/
theorem Balanced.other (hbalanced : Balanced ours state) {call : ServiceCall}
    (hforeign : call.Foreign ours)
    (hsound : Sound { state with world :=
      { state.world with inventory := call.apply state.world.inventory } }) :
    Balanced ours { state with world :=
      { state.world with inventory := call.apply state.world.inventory } } := by
  have hsame : ∀ orderRef, ours orderRef →
      World.standing ⟨state.world.orders,
        call.apply state.world.inventory⟩ orderRef =
          state.world.standing orderRef := fun orderRef hours =>
    congrArg (Standing.mk _) (call.reservedForOrder_apply
      hbalanced.tidy.ids_nodup (hforeign.forOthers hours))
  refine ⟨hsound, hbalanced.tidy.apply hforeign.keyed, hbalanced.formed,
    hbalanced.kept.frame ?_ ?_⟩
  · intro number orderRef href
    exact hsame orderRef (hbalanced.kept.held number orderRef href).1
  · intro orderRef hrests hours
    rw [hsame orderRef hours]
    exact hrests hours

theorem Balanced.step (hnamed : ¬ ours .empty) {action : Action}
    (hbalanced : Balanced ours state)
    (hcareful : Careful ours state.Free state action)
    (hstep : Edge.step state action = some next) : Balanced ours next := by
  have hsound := hbalanced.sound.step hstep
  cases step_moves hstep with
  | post _ _ _ _ _ hidle => exact hbalanced.post hidle hcareful hsound
  | postBulk _ _ _ hidle => exact hbalanced.postBulk hidle hcareful hsound
  | get _ _ hidle => exact hbalanced.refuse hidle hsound
  | readFails _ hidle => exact hbalanced.refuse hidle hsound
  | lookupFails number request hsession =>
      refine hbalanced.answer _ hsound fun orderRef href => ?_
      have hown := hbalanced.kept.held number orderRef href
      rw [hsession] at hown
      exact hown.2
  | advance _ _ _ _ hsession hrunning =>
      exact hbalanced.advance hsession hrunning hcareful hsound
  | proceed number event request phase point hsession hpoint =>
      rw [Careful, hsession] at hcareful
      exact hbalanced.proceed hnamed hsession hcareful hpoint hsound
  | other call => exact hbalanced.other hcareful hsound

end Balanced

/-- In a run in which nothing fails that the code cannot make good, a reference
has its stock reserved exactly if its order is saved, as soon as no request in
flight works on it. -/
theorem databases_agree_at_rest {ours : CharField128 → Prop}
    (hnamed : ¬ ours .empty) {world : World}
    (htidy : world.inventory.Tidy ours)
    (hagrees : ∀ orderRef, ours orderRef → (world.standing orderRef).Agrees)
    {schedule : List Action} {final : State}
    (hcareful : Along step (fun state => Careful ours state.Free state)
      (.init world) schedule)
    (hrun : run step (.init world) schedule = some final)
    {orderRef : CharField128} (hours : ours orderRef)
    (hfree : final.Free orderRef) :
    (final.world.standing orderRef).Agrees := by
  have hinit : Balanced ours (.init world) :=
    ⟨.init world, htidy, fun _ => trivial, .init
      (fun _ _ href => List.not_mem_nil href) hagrees⟩
  have hfinal : Balanced ours final :=
    run_invariant_along (fun _ _ _ hbalanced hallowed hstep =>
      hbalanced.step hnamed hallowed hstep) hinit hcareful hrun
  exact hfinal.kept.resting orderRef hfree hours

/-! ## A day on which everything is mended -/

instance (ours free : CharField128 → Prop) [DecidablePred ours]
    [DecidablePred free] (state : State) (action : Action) :
    Decidable (Careful ours free state action) := by
  unfold Careful
  split <;> try infer_instance
  all_goals split <;> infer_instance

theorem Careful.mono {ours free wider : CharField128 → Prop} {state : State}
    {action : Action} (hcareful : Careful ours free state action)
    (hwider : ∀ orderRef, free orderRef → wider orderRef) :
    Careful ours wider state action := by
  cases action with
  | post number body idempotencyKey uuid clock =>
      rw [Careful] at hcareful ⊢
      cases hposted : postOrder body idempotencyKey uuid clock with
      | error response => trivial
      | ok request =>
          rw [hposted] at hcareful
          exact ⟨hcareful.1, hwider _ hcareful.2⟩
  | postBulk number body uuid =>
      rw [Careful] at hcareful ⊢
      cases hposted : postOrdersBulk body uuid with
      | error response => trivial
      | ok request =>
          rw [hposted] at hcareful
          refine ⟨hcareful.1, fun orderRef href => ?_⟩
          obtain ⟨hours, hfree, hunsaved⟩ := hcareful.2 orderRef href
          exact ⟨hours, hwider _ hfree, hunsaved⟩
  | _ => exact hcareful

/-- The session an action is about. -/
def Action.number? : Action → Option ℕ
  | .post number .. | .postBulk number .. | .get number _ => some number
  | .readFails number | .advance number _ | .proceed number _ => some number
  | .other _ => none

theorem step_sessions_other {state next : State} {action : Action}
    (hstep : step state action = some next) {number : ℕ}
    (hother : action.number? ≠ some number) :
    next.sessions number = state.sessions number := by
  have hne : ∀ own, action.number? = some own → number ≠ own := by
    rintro own hown rfl
    exact hother hown
  cases step_moves hstep with
  | other call => rfl
  | post own | postBulk own | get own | readFails own | lookupFails own
  | advance own | proceed own => exact state.goto_other _ _ (hne own rfl)

def State.IdleFrom (state : State) (bound : ℕ) : Prop :=
  ∀ number, bound ≤ number → state.sessions number = .idle

def State.FreeBelow (state : State) (bound : ℕ) (orderRef : CharField128) :
    Prop :=
  ∀ number < bound, orderRef ∉ (state.sessions number).refs

instance (state : State) (bound : ℕ) :
    DecidablePred (state.FreeBelow bound) := fun _ =>
  inferInstanceAs (Decidable (∀ number < bound, _))

section Below

variable {state next : State} {bound : ℕ}

theorem State.IdleFrom.free (hidle : state.IdleFrom bound)
    {orderRef : CharField128} (hbelow : state.FreeBelow bound orderRef) :
    state.Free orderRef := by
  intro number
  by_cases hnumber : number < bound
  · exact hbelow number hnumber
  · rw [hidle number (Nat.not_lt.mp hnumber)]
    exact List.not_mem_nil

theorem State.IdleFrom.step (hidle : state.IdleFrom bound) {action : Action}
    (hbound : ∀ number ∈ action.number?, number < bound)
    (hstep : Edge.step state action = some next) : next.IdleFrom bound := by
  intro number hnumber
  rw [step_sessions_other hstep, hidle number hnumber]
  exact fun hown => Nat.not_lt.mpr hnumber (hbound number hown)

/-- Only the sessions that a schedule names have to be looked at. -/
theorem careful_of_below {ours : CharField128 → Prop} {schedule : List Action}
    (hbound : ∀ action ∈ schedule, ∀ number ∈ action.number?, number < bound)
    (hidle : state.IdleFrom bound)
    (hbelow : Along step (fun state => Careful ours (state.FreeBelow bound)
      state) state schedule) :
    Along step (fun state => Careful ours state.Free state) state
      schedule := by
  induction schedule generalizing state with
  | nil => trivial
  | cons action schedule ih =>
      rw [List.forall_mem_cons] at hbound
      refine ⟨hbelow.1.mono fun _ => hidle.free, fun next hnext => ?_⟩
      exact ih hbound.2 (hidle.step hbound.1 hnext) (hbelow.2 next hnext)

theorem idleFrom_run {world : World} {schedule : List Action}
    (hbound : ∀ action ∈ schedule, ∀ number ∈ action.number?, number < bound)
    (hrun : run step (.init world) schedule = some next) :
    next.IdleFrom bound := by
  have hkeep : ∀ state action next, State.IdleFrom state bound →
      (∀ number ∈ action.number?, number < bound) →
        step state action = some next → next.IdleFrom bound :=
    fun _ _ _ hidle hallowed hstep => hidle.step hallowed hstep
  have hinit : (State.init world).IdleFrom bound := fun _ _ => rfl
  exact run_invariant_along hkeep hinit (Along.of_forall hbound _) hrun

end Below

/-- The references that order-service gives out. -/
def issued (orderRef : CharField128) : Prop :=
  orderRef ≠ .empty ∧ orderRef ≠ .ofText "order-9"

instance : DecidablePred issued := fun _ => inferInstanceAs (Decidable (_ ∧ _))

/-- A commit fails, is rolled back and released, and the client tries again
with its key.  In the meantime one order of a batch is saved, one is released
and one refused, and another client takes a gadget. -/
def mendedDay : List Action :=
  [.post 0 [(1, 2)] (some "order-1") .zero id, .advance 0 {}, .advance 0 {},
    .postBulk 1 mixedBatch.payload.sent mixedBatch.uuid,
    .proceed 1 (.serve id), .advance 0 { commit := .notSaved },
    .other (.reserve ⟨.ofText "order-9", [⟨2, 1⟩], .ofText "order-9"⟩ id),
    .proceed 1 (.serve id), .advance 0 {}, .proceed 1 (.serve id),
    .advance 0 {}, .post 2 [(1, 2)] (some "order-1") .zero id,
    .advance 2 {}, .proceed 1 (.serve id), .advance 2 {},
    .proceed 1 (.finish none), .advance 2 {}, .proceed 1 (.commit .none),
    .get 3 "order-1",
    .proceed 1 (.release (.failed ⟨.unavailable, "reset"⟩ true))]

theorem databases_agree_at_rest_mendedDay : ∃ final,
    run step (.init ⟨[], seededDb⟩) mendedDay = some final ∧
      final.world.orders = [rushOrder, rushGizmos] ∧
      ∀ orderRef, issued orderRef →
        (final.world.standing orderRef).Agrees := by
  have hbound : ∀ action ∈ mendedDay, ∀ number ∈ action.number?, number < 4 := by
    decide
  have hcareful : Along step (fun state => Careful issued state.Free state)
      (.init ⟨[], seededDb⟩) mendedDay :=
    careful_of_below hbound (fun _ _ => rfl) (by decide +kernel)
  have hagree : ∀ final,
      run step (.init ⟨[], seededDb⟩) mendedDay = some final →
        (∀ number < 4, (final.sessions number).refs = []) →
          ∀ orderRef, issued orderRef →
            (final.world.standing orderRef).Agrees := by
    intro final hrun hended orderRef hissued
    refine databases_agree_at_rest (fun hempty => hempty.1 rfl)
      ⟨by decide, by decide⟩ (fun _ _ => by rfl) hcareful hrun hissued
      ((idleFrom_run hbound hrun).free fun number hnumber => ?_)
    rw [hended number hnumber]
    exact List.not_mem_nil
  exact ⟨_, rfl, by decide, hagree _ rfl (by decide)⟩

end Edge

end OrderFlow.Orders
