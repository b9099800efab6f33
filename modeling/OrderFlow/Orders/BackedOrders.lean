import OrderFlow.Inventory.IdempotencyKey
import OrderFlow.Orders.Concurrent

/-!
# Saved orders and their stock

The saved orders stay backed by stock as long as no request comes to its
commit after an order with its id is there.  Such a commit is followed by a
release, which takes the stock away from the order that won.
-/

namespace OrderFlow.Orders.Concurrent

open OrderFlow.TransitionSystem
open OrderFlow.Inventory

/-! ## Without a contested commit -/

/-- No commit is tried for an order whose id is taken. -/
def Uncontested (state : State) : Action → Prop
  | .arrive _ _ => True
  | .advance number =>
      match state.sessions number with
      | .running _ (.persist order) => state.world.orders.get? order.id = none
      | _ => True

instance (state : State) (action : Action) :
    Decidable (Uncontested state action) := by
  unfold Uncontested
  split
  · infer_instance
  · split <;> infer_instance

/-- The rows of a key belong to one request, which is about to save its order
or has saved it. -/
inductive KeyState (key : CharField128) (state : State) : Prop
  | free
      (hrows : state.world.inventory.activeForKey key = [])
      (hunsaved : ∀ order ∈ state.world.orders, order.id ≠ key)
      (hnobody : ∀ number, ¬ (state.sessions number).HoldsFor key)
  | owned (owner : CreateRequest) (hkey : owner.orderRef = key)
      (hbatch : WholeBatch key key owner.reserveItems
        (state.world.inventory.activeForKey key))
      (howner : (∃ number, state.sessions number =
          .running owner (.persist owner.order)) ∨
        owner.order ∈ state.world.orders ∧
          ∀ order ∈ state.world.orders, order.id = key →
            order = owner.order)

/-- A step that has nothing to do with the key. -/
theorem KeyState.frame {key : CharField128} {state : State}
    (hstate : KeyState key state) {number : ℕ} {world : World}
    {session : Session}
    (hrows : world.inventory.activeForKey key =
      state.world.inventory.activeForKey key)
    (horders : ∀ order, order.id = key →
      (order ∈ world.orders ↔ order ∈ state.world.orders))
    (hbefore : ¬ (state.sessions number).HoldsFor key)
    (hsession : ¬ session.HoldsFor key) :
    KeyState key (state.goto number world session) := by
  cases hstate with
  | free hnone hunsaved hnobody =>
      refine .free (hrows.trans hnone) ?_ ?_
      · intro order horder hid
        exact hunsaved order ((horders order hid).mp horder) hid
      · intro other
        by_cases hother : other = number
        · subst hother
          rwa [State.goto_self]
        · rw [State.goto_other _ _ _ hother]
          exact hnobody other
  | owned owner hkey hbatch howner =>
      refine .owned owner hkey (hrows ▸ hbatch) ?_
      rcases howner with ⟨holder, hholder⟩ | ⟨hsaved, hunique⟩
      · left
        refine ⟨holder, ?_⟩
        have hother : holder ≠ number := by
          rintro rfl
          apply hbefore
          rw [hholder]
          exact ⟨hkey, trivial⟩
        rw [State.goto_other _ _ _ hother]
        exact hholder
      · right
        refine ⟨(horders owner.order hkey).mpr hsaved, ?_⟩
        intro order horder hid
        exact hunique order ((horders order hid).mp horder) hid

/-- A reserve makes its request the owner of the key, or finds it taken. -/
theorem KeyState.reserved {state : State} {number : ℕ}
    {request : CreateRequest}
    (hstate : KeyState request.orderRef state)
    (hsession : state.sessions number =
      .running request (.reserve request.message request.order))
    (hsuccess : (reserveStock state.world.inventory
      (request.call state.world.inventory)).2.success = true) :
    KeyState request.orderRef (state.goto number
      ⟨state.world.orders, (reserveStock state.world.inventory
        (request.call state.world.inventory)).1⟩
      (.running request (.persist request.order))) := by
  cases hstate with
  | free hnone hunsaved hnobody =>
      rw [reserveStock_eq_body request.reserveItems_ne fun _ => hnone]
        at hsuccess ⊢
      obtain ⟨loop, hprogress, hcommit⟩ := reserveBody_success hsuccess
      refine .owned request rfl ?_ (.inl ⟨number, state.goto_self ..⟩)
      have hrows : (reserveBody state.world.inventory
          (request.call state.world.inventory)).1.activeForKey
            request.orderRef = (request.call state.world.inventory).rows
              (sortedItems request.reserveItems) := by
        have hactive := hprogress.activeForKey
        change _ = state.world.inventory.activeForKey request.orderRef ++ _
          at hactive
        rw [hnone, List.nil_append] at hactive
        rw [hcommit]
        exact hactive
      change WholeBatch _ _ _ ((reserveBody state.world.inventory
        (request.call state.world.inventory)).1.activeForKey _)
      rw [hrows]
      exact wholeBatch_rows (request.call state.world.inventory)
  | owned owner hkey hbatch howner =>
      have hactive := hbatch.ne_nil owner.reserveItems_ne
      have hsame : (reserveStock state.world.inventory
          (request.call state.world.inventory)).1 = state.world.inventory :=
        (reserveStock_replay request.reserveItems_ne request.orderRef_ne
          hactive).1
      rw [hsame]
      refine .owned owner hkey hbatch (howner.imp_left ?_)
      rintro ⟨holder, hholder⟩
      have hother : holder ≠ number := by
        rintro rfl
        simp [hsession] at hholder
      exact ⟨holder, (state.goto_other _ _ hother).trans hholder⟩

/-- The owner saves its order, or another request saves one for its rows. -/
theorem KeyState.saved {state : State} {number : ℕ} {request : CreateRequest}
    (hstate : KeyState request.orderRef state)
    (hsession : state.sessions number =
      .running request (.persist request.order))
    (hfresh : state.world.orders.get? request.orderRef = none) :
    KeyState request.orderRef (state.goto number
      ⟨state.world.orders ++ [request.order], state.world.inventory⟩
      (.running request (.done (.returned request.order)))) := by
  rw [OrderDb.get?_eq_none_iff] at hfresh
  cases hstate with
  | free hnone hunsaved hnobody =>
      exfalso
      apply hnobody number
      rw [hsession]
      exact ⟨rfl, trivial⟩
  | owned owner hkey hbatch howner =>
      refine .owned owner hkey hbatch ?_
      rcases howner with ⟨holder, hholder⟩ | ⟨hsaved, hunique⟩
      · by_cases hother : holder = number
        · subst hother
          rw [hsession, Session.running.injEq] at hholder
          obtain ⟨rfl, _⟩ := hholder
          right
          refine ⟨List.mem_append_right _ (List.mem_singleton_self _), ?_⟩
          intro order horder hid
          rcases List.mem_append.mp horder with hold | hnew
          · exact absurd hid (hfresh order hold)
          · exact List.mem_singleton.mp hnew
        · exact .inl ⟨holder, (state.goto_other _ _ hother).trans hholder⟩
      · exact absurd hkey (hfresh owner.order hsaved)

structure Unspoilt (state : State) : Prop where
  sound : Sound state
  keys : ∀ key, KeyState key state
  /-- nobody is on the way to a release -/
  keeps : ∀ number request phase,
    state.sessions number = .running request phase → Holds phase →
      phase = .persist request.order

theorem Unspoilt.init (products : List Product) :
    Unspoilt (.init products) where
  sound := .init products
  keys key := .free rfl (fun order horder => absurd horder List.not_mem_nil)
    fun number hholds => hholds
  keeps number request phase hsession := by
    simp [State.init] at hsession

/-- What a session may become when nobody is to release. -/
theorem Unspoilt.keeps_goto {state : State} (hunspoilt : Unspoilt state)
    {number : ℕ} {world : World} {request : CreateRequest} {phase : Phase}
    (hphase : Holds phase → phase = .persist request.order) :
    ∀ other otherRequest otherPhase,
      (state.goto number world (.running request phase)).sessions other =
          .running otherRequest otherPhase →
        Holds otherPhase → otherPhase = .persist otherRequest.order := by
  intro other otherRequest otherPhase hsession
  by_cases hother : other = number
  · subst hother
    rw [State.goto_self, Session.running.injEq] at hsession
    obtain ⟨rfl, rfl⟩ := hsession
    exact hphase
  · rw [State.goto_other _ _ _ hother] at hsession
    exact hunspoilt.keeps other otherRequest otherPhase hsession

theorem not_holdsFor_other {key : CharField128} {request : CreateRequest}
    (hother : request.orderRef ≠ key) (phase : Phase) :
    ¬ (Session.running request phase).HoldsFor key :=
  fun hholds => hother hholds.1

theorem not_holdsFor_quiet {request : CreateRequest} {phase : Phase}
    (hphase : ¬ Holds phase) (key : CharField128) :
    ¬ (Session.running request phase).HoldsFor key :=
  fun hholds => hphase hholds.2

theorem Unspoilt.step {state next : State} {action : Action}
    (hunspoilt : Unspoilt state) (huncontested : Uncontested state action)
    (hstep : Concurrent.step state action = some next) : Unspoilt next := by
  have hsound := hunspoilt.sound.step hstep
  cases step_cases hunspoilt.sound.carried hstep with
  | arrive number request hidle =>
      refine ⟨hsound, fun key => ?_, hunspoilt.keeps_goto nofun⟩
      apply (hunspoilt.keys key).frame rfl fun _ _ => Iff.rfl
      · rw [hidle]
        exact id
      · exact not_holdsFor_quiet id key
  | quiet number request phase next hsession hbefore hnext =>
      refine ⟨hsound, fun key => ?_,
        hunspoilt.keeps_goto fun hholds => absurd hholds hnext⟩
      apply (hunspoilt.keys key).frame rfl fun _ _ => Iff.rfl
      · rw [hsession]
        exact not_holdsFor_quiet hbefore key
      · exact not_holdsFor_quiet hnext key
  | reserved number request hsession hsuccess =>
      refine ⟨hsound, fun key => ?_, hunspoilt.keeps_goto fun _ => rfl⟩
      by_cases hkey : request.orderRef = key
      · subst hkey
        exact (hunspoilt.keys _).reserved hsession hsuccess
      · refine (hunspoilt.keys key).frame
          (activeForKey_reserveStock_other hkey) (fun _ _ => Iff.rfl) ?_ ?_
        · rw [hsession]
          exact not_holdsFor_other hkey _
        · exact not_holdsFor_other hkey _
  | saved number request hsession hfresh =>
      refine ⟨hsound, fun key => ?_, hunspoilt.keeps_goto nofun⟩
      by_cases hkey : request.orderRef = key
      · subst hkey
        exact (hunspoilt.keys _).saved hsession hfresh
      · refine (hunspoilt.keys key).frame rfl ?_ ?_ ?_
        · intro order hid
          rw [List.mem_append, List.mem_singleton]
          refine or_iff_left ?_
          rintro rfl
          exact hkey hid
        · rw [hsession]
          exact not_holdsFor_other hkey _
        · exact not_holdsFor_other hkey _
  | contested number request hsession htaken =>
      rw [Uncontested, hsession] at huncontested
      exact absurd huncontested htaken
  | rolledBack number request hsession =>
      have hphase := hunspoilt.keeps number request _ hsession trivial
      exact Phase.noConfusion hphase
  | released number request hsession =>
      have hphase := hunspoilt.keeps number request _ hsession trivial
      exact Phase.noConfusion hphase

/-! ## After a contested commit -/

/-- The key has an order, and whoever may still reserve stock for it is going
to release it. -/
structure Spoilt (key : CharField128) (state : State) : Prop where
  saved : ∃ order ∈ state.world.orders, order.id = key
  rows : state.world.inventory.reservedForOrder key = [] ∨
    ∃ number, (state.sessions number).HoldsFor key

/-- A step that leaves the rows of the key alone and ends no hold on it. -/
theorem Spoilt.frame {key : CharField128} {state : State}
    (hspoilt : Spoilt key state) {number : ℕ} {world : World}
    {session : Session}
    (horders : ∀ order ∈ state.world.orders, order ∈ world.orders)
    (hrows : world.inventory.reservedForOrder key =
      state.world.inventory.reservedForOrder key)
    (hholds : (state.sessions number).HoldsFor key → session.HoldsFor key) :
    Spoilt key (state.goto number world session) where
  saved := by
    obtain ⟨order, horder, hid⟩ := hspoilt.saved
    exact ⟨order, horders order horder, hid⟩
  rows := by
    rcases hspoilt.rows with hnone | ⟨holder, hholder⟩
    · exact .inl (hrows.trans hnone)
    · right
      refine ⟨holder, ?_⟩
      by_cases hother : holder = number
      · subst hother
        rw [State.goto_self]
        exact hholds hholder
      · rw [State.goto_other _ _ _ hother]
        exact hholder

theorem Spoilt.step {key : CharField128} {state next : State}
    {action : Action} (hspoilt : Spoilt key state) (hsound : Sound state)
    (hstep : Concurrent.step state action = some next) : Spoilt key next := by
  cases step_cases hsound.carried hstep with
  | arrive number request hidle =>
      apply hspoilt.frame (fun _ horder => horder) rfl
      rw [hidle]
      exact False.elim
  | quiet number request phase next hsession hbefore hnext =>
      apply hspoilt.frame (fun _ horder => horder) rfl
      rw [hsession]
      exact fun hholds => absurd hholds (not_holdsFor_quiet hbefore key)
  | reserved number request hsession hsuccess =>
      by_cases hkey : request.orderRef = key
      · exact ⟨hspoilt.saved, .inr ⟨number, by
          rw [State.goto_self]
          exact ⟨hkey, trivial⟩⟩⟩
      · refine hspoilt.frame (fun _ horder => horder)
          (reservedForOrder_reserveStock_other hkey) ?_
        rw [hsession]
        exact fun hholds => absurd hholds (not_holdsFor_other hkey _)
  | saved number request hsession hfresh =>
      have hkey : request.orderRef ≠ key := by
        rintro rfl
        obtain ⟨order, horder, hid⟩ := hspoilt.saved
        exact (OrderDb.get?_eq_none_iff _ _).mp hfresh order horder hid
      refine hspoilt.frame (fun _ horder => List.mem_append_left _ horder)
        rfl ?_
      rw [hsession]
      exact fun hholds => absurd hholds (not_holdsFor_other hkey _)
  | contested number request hsession =>
      apply hspoilt.frame (fun _ horder => horder) rfl
      rw [hsession]
      exact fun hholds => ⟨hholds.1, trivial⟩
  | rolledBack number request hsession =>
      apply hspoilt.frame (fun _ horder => horder) rfl
      rw [hsession]
      exact fun hholds => ⟨hholds.1, trivial⟩
  | released number request hsession =>
      by_cases hkey : request.orderRef = key
      · subst hkey
        exact ⟨hspoilt.saved, .inl (reservedForOrder_releaseStock _ _)⟩
      · refine hspoilt.frame (fun _ horder => horder)
          (reservedForOrder_releaseStock_other hsound.ids_nodup
            (Ne.symm hkey)) ?_
        rw [hsession]
        exact fun hholds => absurd hholds (not_holdsFor_other hkey _)

/-- Some key is spoilt for good. -/
structure SpoiltForGood (state : State) : Prop where
  sound : Sound state
  spoilt : ∃ key, Spoilt key state

theorem SpoiltForGood.step {state next : State} {action : Action}
    (hspoilt : SpoiltForGood state)
    (hstep : Concurrent.step state action = some next) :
    SpoiltForGood next := by
  obtain ⟨hsound, key, hkey⟩ := hspoilt
  exact ⟨hsound.step hstep, key, hkey.step hsound hstep⟩

theorem spoilt_of_contested {state next : State} {action : Action}
    (hsound : Sound state) (hcontested : ¬ Uncontested state action)
    (hstep : Concurrent.step state action = some next) :
    SpoiltForGood next := by
  refine ⟨hsound.step hstep, ?_⟩
  cases action with
  | arrive number request => exact absurd trivial hcontested
  | advance number =>
      obtain ⟨request, order, hsession, htaken⟩ :
          ∃ request order,
            state.sessions number = .running request (.persist order) ∧
              state.world.orders.get? order.id ≠ none := by
        rw [Uncontested] at hcontested
        split at hcontested
        · exact ⟨_, _, ‹_›, hcontested⟩
        · exact absurd trivial hcontested
      obtain rfl : order = request.order :=
        hsound.carried number request _ hsession
      obtain ⟨found, hfound⟩ := Option.ne_none_iff_exists'.mp htaken
      have hsaved := OrderDb.get?_eq_some hfound
      refine ⟨request.orderRef, ?_⟩
      rw [Concurrent.step, hsession] at hstep
      simp only [Orders.advance, persistOrder, OrderDb.insert?,
        hfound] at hstep
      cases hstep
      refine ⟨⟨found, hsaved⟩, .inr ⟨number, ?_⟩⟩
      rw [State.goto_self]
      exact ⟨rfl, trivial⟩

/-! ## Orders backed by stock -/

/-- All requests have ended. -/
def Finished (state : State) : Prop :=
  ∀ number request phase, state.sessions number = .running request phase →
    ∃ exit, phase = .done exit

/-- Every saved order has RESERVED rows with the quantities of its items. -/
def Backed (world : World) : Prop :=
  ∀ order ∈ world.orders,
    world.inventory.reservedForOrder order.id ≠ [] ∧
      ∀ productId, quantityOf (world.inventory.reservedForOrder order.id)
        productId = orderedQuantity order.items productId

theorem Unspoilt.backed {state : State} (hunspoilt : Unspoilt state)
    (hfinished : Finished state) : Backed state.world := by
  intro order horder
  rw [hunspoilt.sound.reservedForOrder_eq]
  cases hunspoilt.keys order.id with
  | free hrows hunsaved hnobody =>
      exact absurd rfl (hunsaved order horder)
  | owned owner hkey hbatch howner =>
      rcases howner with ⟨holder, hholder⟩ | ⟨_, hunique⟩
      · obtain ⟨exit, hexit⟩ := hfinished holder owner _ hholder
        exact Phase.noConfusion hexit
      · obtain rfl := hunique order horder rfl
        refine ⟨hbatch.ne_nil owner.reserveItems_ne, fun productId => ?_⟩
        rw [hbatch.quantityOf_eq, owner.orderedQuantity_order]

theorem Spoilt.not_backed {key : CharField128} {state : State}
    (hspoilt : Spoilt key state) (hfinished : Finished state) :
    ¬ Backed state.world := by
  intro hbacked
  obtain ⟨order, horder, rfl⟩ := hspoilt.saved
  rcases hspoilt.rows with hnone | ⟨number, hholds⟩
  · exact (hbacked order horder).1 hnone
  · cases hsession : state.sessions number with
    | idle =>
        rw [hsession] at hholds
        exact hholds
    | running request phase =>
        obtain ⟨exit, rfl⟩ := hfinished number request phase hsession
        rw [hsession] at hholds
        exact hholds.2

/-- When all requests have ended, the orders are backed by stock exactly if no
commit was tried for an order that was there already. -/
theorem backed_iff_uncontested {products : List Product}
    {schedule : List Action} {final : State}
    (hrun : run step (.init products) schedule = some final)
    (hfinished : Finished final) :
    Backed final.world ↔
      Along step Uncontested (.init products) schedule := by
  constructor
  · intro hbacked
    have hdichotomy := along_or_spoilt
      (fun _ _ _ hstate hallowed hnext => Unspoilt.step hstate hallowed hnext)
      (fun _ _ _ hunspoilt => spoilt_of_contested hunspoilt.sound)
      (fun _ _ _ hspoilt => hspoilt.step)
      (Unspoilt.init products) hrun
    rcases hdichotomy with halong | ⟨_, key, hspoilt⟩
    · exact halong
    · exact absurd hbacked (hspoilt.not_backed hfinished)
  · intro halong
    have hunspoilt : Unspoilt final :=
      run_invariant_along (fun _ _ _ hstate hallowed hnext =>
        hstate.step hallowed hnext) (.init products) halong hrun
    exact hunspoilt.backed hfinished

/-! ## Two requests for two widgets -/

def Action.session : Action → ℕ
  | .arrive number _ => number
  | .advance number => number

def Session.ended : Session → Bool
  | .idle => true
  | .running _ (.done _) => true
  | .running _ _ => false

theorem step_sessions_other {state next : State} {action : Action}
    (hstep : step state action = some next) {number : ℕ}
    (hother : number ≠ action.session) :
    next.sessions number = state.sessions number := by
  cases action with
  | arrive session request =>
      rw [step] at hstep
      split at hstep
      · cases hstep
        exact state.goto_other _ _ hother
      · cases hstep
  | advance session =>
      rw [step] at hstep
      split at hstep
      · cases hstep
      · cases hstep
      · cases hstep
        exact state.goto_other _ _ hother

/-- Only the sessions that a schedule names have to be looked at. -/
theorem finished_of_bound {products : List Product} {schedule : List Action}
    {final : State} (hrun : run step (.init products) schedule = some final)
    {bound : ℕ} (hbound : ∀ action ∈ schedule, action.session < bound)
    (hended : ∀ number < bound, (final.sessions number).ended = true) :
    Finished final := by
  have hidle : ∀ number, bound ≤ number → final.sessions number = .idle := by
    intro number hnumber
    have hkeep : ∀ state action next, state.sessions number = .idle →
        action.session < bound → step state action = some next →
          next.sessions number = .idle := by
      intro state action next hidle hsession hnext
      rw [step_sessions_other hnext (by omega), hidle]
    exact run_invariant_along hkeep rfl (Along.of_forall hbound _) hrun
  intro number request phase hsession
  by_cases hnumber : number < bound
  · have hsessionEnded := hended number hnumber
    rw [hsession] at hsessionEnded
    cases phase with
    | done exit => exact ⟨exit, rfl⟩
    | _ => exact absurd hsessionEnded Bool.false_ne_true
  · rw [hidle number (Nat.not_lt.mp hnumber)] at hsession
    exact Session.noConfusion hsession

/-- One client sends it twice with one key, or two clients send it with their
own. -/
def widgetsRequest (key : CharField128) : CreateRequest :=
  { twoWidgets with idempotencyKey := some key }

/-- Both pass the lookup, the second reserve is a replay, the first request
saves its order, and the second one comes to its commit too late. -/
def raceSchedule (first second : CharField128) : List Action :=
  [.arrive 0 (widgetsRequest first), .arrive 1 (widgetsRequest second),
    .advance 0, .advance 1, .advance 0, .advance 1, .advance 0,
    .advance 1]

def lostRace : List Action :=
  raceSchedule (.ofText "order-1") (.ofText "order-1") ++
    [.advance 1, .advance 1]

theorem lostRace_not_backed : ∃ final,
    run step (.init seededDb.products) lostRace = some final ∧
      Finished final ∧
      final.world.orders =
        [(widgetsRequest (.ofText "order-1")).order] ∧
      final.world.inventory.reservedForOrder (.ofText "order-1") = [] ∧
      ¬ Backed final.world := by
  have hfinished : ∀ final,
      run step (.init seededDb.products) lostRace = some final →
        (∀ number < 2, (final.sessions number).ended = true) →
          Finished final :=
    fun final hrun => finished_of_bound hrun (by decide)
  have hlost : ∀ final : State, ∀ order,
      final.world.orders = [order] →
        final.world.inventory.reservedForOrder order.id = [] →
          ¬ Backed final.world := by
    intro final order horders hnone hbacked
    exact (hbacked order (by simp [horders])).1 hnone
  exact ⟨_, rfl, hfinished _ rfl (by decide), by decide, by decide,
    hlost _ (widgetsRequest (.ofText "order-1")).order
      (by decide) (by decide)⟩

theorem twoKeys_backed : ∃ final,
    run step (.init seededDb.products) (raceSchedule (.ofText "order-1")
      (.ofText "order-2")) = some final ∧
      final.world.inventory.reservedQuantity 1 = 4 ∧
      Backed final.world := by
  have hbacked : ∀ final,
      run step (.init seededDb.products) (raceSchedule (.ofText "order-1")
        (.ofText "order-2")) = some final →
        (∀ number < 2, (final.sessions number).ended = true) →
          Backed final.world := by
    intro final hrun hended
    exact (backed_iff_uncontested hrun
      (finished_of_bound hrun (by decide) hended)).mpr (by decide)
  exact ⟨_, rfl, by decide, hbacked _ rfl (by decide)⟩

end OrderFlow.Orders.Concurrent
