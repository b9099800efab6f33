import OrderFlow.Inventory.LiveRefinement
import OrderFlow.Inventory.WatchTraffic

/-!
# How a watch ends

Once the client is gone or `stop` is set, the handler and the listener thread
have a few steps left, whatever else goes on, and neither can get stuck before
it has taken them.
-/

namespace OrderFlow.Inventory.Live

open OrderFlow.Inventory.Notifications
open OrderFlow.Inventory.Watch (Generator HandlerStep updatesOf)
open OrderFlow.TransitionSystem

/-! ## The handler -/

/-- The handler will leave its loop at the next test. -/
def Leaving (call : Watch.State) : Prop :=
  call.active = false ∨ call.stop = true

/-- The actions of the handler. -/
def Action.isHandler : Action → Bool
  | .call .generator | .call .timeout | .call .failFetch | .call .abandon =>
      true
  | _ => false

/-- The steps that a handler on its way out has left, with so many products in
the table. -/
def stepsLeft (products : ℕ) : Generator → ℕ
  | .closed => 0
  | .loopHead => 1
  | .yielding rows _ => rows.length + 2
  | .fetching _ _ => products + 3
  | .selecting _ _ => products + 4
  | .takingFresh | .takingWatched => products + 5
  | .polling => products + 6

/-- The updates it has left. -/
def updatesLeft (products : ℕ) : Generator → ℕ
  | .closed | .loopHead => 0
  | .yielding rows _ => rows.length
  | .fetching _ _ | .selecting _ _ | .takingFresh | .takingWatched
  | .polling => products

/-- The rows at hand are no more than the table had. -/
def WithinTable (products : ℕ) : Generator → Prop
  | .yielding rows _ => rows.length ≤ products
  | _ => True

theorem length_fetchStock_le (db : InventoryDb) (ids : Finset ℤ) :
    (Inventory.fetchStock db ids).length ≤ db.products.length := by
  rw [Inventory.fetchStock]
  split_ifs
  · exact Nat.zero_le _
  · rw [List.length_map, List.length_insertionSort]
    exact List.length_filter_le _ _

section Handler

variable {call next : Watch.State} {action : Watch.Action}

theorem stepsLeft_le {products : ℕ} {generator : Generator}
    (hwithin : WithinTable products generator) :
    stepsLeft products generator ≤ products + 6 := by
  cases generator with
  | yielding rows => exact Nat.add_le_add hwithin (by decide)
  | _ => simp [stepsLeft]

theorem closed_of_stepsLeft {products : ℕ} {generator : Generator}
    (hnone : stepsLeft products generator = 0) : generator = .closed := by
  cases generator with
  | closed => rfl
  | _ => simp [stepsLeft] at hnone

theorem updatesLeft_le {products : ℕ} {generator : Generator}
    (hwithin : WithinTable products generator) :
    updatesLeft products generator ≤ products := by
  cases generator with
  | yielding rows => exact hwithin
  | _ => simp [updatesLeft]

/-- What a step of the handler uses up. -/
structure Spends (call next : Watch.State) : Prop where
  steps : stepsLeft call.db.products.length next.generator + 1 ≤
    stepsLeft call.db.products.length call.generator
  updates : (updatesOf next.log).length +
      updatesLeft call.db.products.length next.generator ≤
    (updatesOf call.log).length +
      updatesLeft call.db.products.length call.generator

theorem spends_close (hgenerator : call.generator ≠ .closed) :
    Spends call call.close := by
  constructor
  · cases hcase : call.generator with
    | closed => exact absurd hcase hgenerator
    | _ => simp [Watch.State.close, stepsLeft]
  · simp [Watch.State.close, updatesLeft]

theorem updatesOf_sent (call : Watch.State) (update : Watch.StockUpdate) :
    (updatesOf (.sent update :: call.log)).length =
      (updatesOf call.log).length + 1 := by
  rw [Watch.updatesOf_cons]
  simp [Watch.Entry.sent?]

theorem updatesOf_selected (call : Watch.State) (watched : Finset ℤ) :
    updatesOf (.selected watched :: call.log) = updatesOf call.log := by
  rw [Watch.updatesOf_cons]
  exact List.append_nil _

/-- A step of the handler that is not at the head of its loop. -/
theorem spends_of_handlerStep (hinside : call.generator ≠ .loopHead)
    (hhandler : HandlerStep call next) : Spends call next := by
  cases hhandler with
  | check hgenerator | leave hgenerator => exact absurd hgenerator hinside
  | @get marker events hgenerator =>
      constructor
      · cases marker <;>
          simp [hgenerator, Watch.State.goto, Watch.Marker.handler, stepsLeft]
      · cases marker <;>
          simp [hgenerator, Watch.State.goto, Watch.Marker.handler,
            updatesLeft]
  | takeFresh hgenerator | takeWatched hgenerator =>
      constructor <;>
        simp [hgenerator, Watch.State.goto, stepsLeft, updatesLeft]
  | @select ids snapshot hgenerator =>
      constructor
      · simp [hgenerator, Watch.State.goto, stepsLeft]
      · simp [hgenerator, Watch.State.goto, updatesLeft, updatesOf_selected]
  | @fetch watched snapshot hgenerator =>
      have hrows := length_fetchStock_le call.db watched
      constructor
      · simpa [hgenerator, Watch.State.goto, stepsLeft] using hrows
      · simpa [hgenerator, Watch.State.goto, updatesLeft] using hrows
  | done hgenerator =>
      constructor <;>
        simp [hgenerator, Watch.State.goto, stepsLeft, updatesLeft]
  | skip hgenerator =>
      constructor
      · simp only [hgenerator, Watch.State.goto, stepsLeft,
          List.length_cons]
        omega
      · simp only [hgenerator, Watch.State.goto, updatesLeft,
          List.length_cons]
        omega
  | @send row rows snapshot hgenerator =>
      constructor
      · simp only [hgenerator, Watch.State.goto, stepsLeft,
          List.length_cons]
        omega
      · simp only [hgenerator, Watch.State.goto, updatesLeft,
          List.length_cons, updatesOf_sent]
        omega

theorem isThread_of_handler
    (hhandler : Action.isHandler (.call action) = true) : IsThread action := by
  cases action with
  | generator | timeout | failFetch | abandon => trivial
  | send | halfClose | cancel | commit | dropLink | readCommand | endReader
  | listener | loseConnection | endListener => cases hhandler

theorem spends_of_step (hleaving : Leaving call)
    (hhandler : Action.isHandler (.call action) = true)
    (hstep : Watch.step call action = some next) : Spends call next := by
  cases threadCase (isThread_of_handler hhandler) hstep with
  | handler hinside =>
      by_cases hhead : call.generator = .loopHead
      · have hleaves : ¬ (call.active = true ∧ call.stop = false) := by
          rcases hleaving with hgone | hstop
          · simp [hgone]
          · simp [hstop]
        rw [Watch.step, Watch.stepGenerator, hhead] at hstep
        rw [← Option.some.inj ((if_neg hleaves).symm.trans hstep)]
        exact spends_close (by simp [hhead])
      · exact spends_of_handlerStep hhead hinside
  | timeout hpolling =>
      constructor <;>
        simp [hpolling, Watch.State.goto, stepsLeft, updatesLeft]
  | failFetch hopen | abandon hopen => exact spends_close hopen
  | send | halfClose | cancel | readCommand | endReader => cases hhandler

/-- Until it is closed the handler can go on. -/
theorem exists_handlerStep (call : Watch.State)
    (hopen : call.generator ≠ .closed) :
    ∃ action next, Action.isHandler (.call action) = true ∧
      IsThread action ∧ Watch.step call action = some next := by
  by_cases hpolling : call.generator = .polling ∧ call.events = []
  · exact ⟨.timeout, _, rfl, trivial, if_pos hpolling⟩
  · suffices hgoes : ∃ next, Watch.stepGenerator call = some next by
      obtain ⟨next, hnext⟩ := hgoes
      exact ⟨.generator, next, rfl, trivial, hnext⟩
    rw [Watch.stepGenerator]
    cases hgenerator : call.generator with
    | closed => exact absurd hgenerator hopen
    | polling =>
        cases hevents : call.events with
        | nil => exact absurd ⟨hgenerator, hevents⟩ hpolling
        | cons marker events => exact ⟨_, rfl⟩
    | yielding rows => cases rows <;> exact ⟨_, rfl⟩
    | loopHead =>
        by_cases hgoesOn : call.active = true ∧ call.stop = false
        · exact ⟨_, if_pos hgoesOn⟩
        · exact ⟨_, if_neg hgoesOn⟩
    | takingFresh | takingWatched | selecting | fetching => exact ⟨_, rfl⟩

theorem WithinTable.close (products : ℕ) (call : Watch.State) :
    WithinTable products call.close.generator := trivial

theorem withinTable_of_handler
    (hhandler : Action.isHandler (.call action) = true)
    (hstep : Watch.step call action = some next)
    (hwithin : WithinTable call.db.products.length call.generator) :
    WithinTable call.db.products.length next.generator := by
  cases threadCase (isThread_of_handler hhandler) hstep with
  | handler hinside =>
      cases hinside with
      | @get marker => cases marker <;> trivial
      | @fetch watched => exact length_fetchStock_le call.db watched
      | skip hgenerator | send hgenerator =>
          rw [hgenerator] at hwithin
          exact Nat.le_of_succ_le hwithin
      | _ => trivial
  | timeout | failFetch | abandon => trivial
  | send | halfClose | cancel | readCommand | endReader => cases hhandler

/-- Whatever ends the handler, its `finally` sets `stop`. -/
theorem stop_of_closed (hhandler : Action.isHandler (.call action) = true)
    (hstep : Watch.step call action = some next)
    (hclosed : next.generator = .closed) : next.stop = true := by
  cases threadCase (isThread_of_handler hhandler) hstep with
  | handler hinside =>
      cases hinside with
      | leave => rfl
      | @get marker => cases marker <;> cases hclosed
      | _ => cases hclosed
  | timeout => cases hclosed
  | failFetch | abandon => rfl
  | send | halfClose | cancel | readCommand | endReader => cases hhandler

/-- The client and the reader leave the handler where it is. -/
theorem generator_of_other (hthread : IsThread action)
    (hother : Action.isHandler (.call action) = false)
    (hstep : Watch.step call action = some next) :
    next.generator = call.generator ∧ updatesOf next.log =
      updatesOf call.log := by
  cases threadCase hthread hstep with
  | send | halfClose | cancel | endReader => exact ⟨rfl, rfl⟩
  | readCommand =>
      rw [Watch.State.applyCommand_generator,
        Watch.State.applyCommand_log, Watch.updatesOf_cons]
      exact ⟨rfl, List.append_nil _⟩
  | handler | timeout | failFetch | abandon => cases hother

end Handler

/-! ## The listener thread -/

/-- The actions of the drain and of the generator it iterates. -/
def Action.isListener : Action → Bool
  | .driver _ | .drain => true
  | _ => false

/-- The steps that the generator has left once it knows of `stop`. -/
def sourceLeft : Phase → ℕ
  | .disconnected => 3
  | .connected _ => 2
  | .listening _ => 1
  | .returned | .raised _ => 0

/-- The steps that the drain has left when the generator yields no more. -/
def drainLeft : Drain → ℕ
  | .ended => 0
  | .iterating => 1
  | .watched _ | .holding .resync => 2
  | .holding (.changed _) => 3

def listenerLeft (state : State) : ℕ :=
  drainLeft state.drain + sourceLeft state.source.phase

theorem listenerLeft_le (state : State) : listenerLeft state ≤ 6 := by
  have hdrain : drainLeft state.drain ≤ 3 := by
    cases state.drain with
    | holding event => cases event <;> simp [drainLeft]
    | _ => simp [drainLeft]
  have hsource : sourceLeft state.source.phase ≤ 3 := by
    cases state.source.phase <;> simp [sourceLeft]
  exact Nat.add_le_add hdrain hsource

theorem ended_of_listenerLeft {state : State}
    (hnone : listenerLeft state = 0) :
    state.drain = .ended ∧ sourceLeft state.source.phase = 0 := by
  obtain ⟨hdrain, hsource⟩ := Nat.add_eq_zero_iff.mp hnone
  refine ⟨?_, hsource⟩
  cases hcase : state.drain with
  | ended => rfl
  | holding event => cases event <;> simp [hcase, drainLeft] at hdrain
  | _ => simp [hcase, drainLeft] at hdrain

/-- Every connection but the one in use is closed. -/
def Tidy (source : Notifications.Listener) : Prop :=
  source.closed ++ source.phase.connection?.toList =
    List.range source.opened

section Listener

variable {limit : ℕ} {source after : Notifications.Listener}
  {event : Notifications.Event}

theorem outerTest_phase (hstop : source.stop = true) :
    source.outerTest.phase = .returned := by
  rw [Notifications.Listener.outerTest, hstop]
  rfl

theorem innerTest_phase (hstop : source.stop = true) (conn : ℕ) :
    (source.innerTest conn).phase = .returned := by
  rw [Notifications.Listener.innerTest, if_pos hstop]
  exact outerTest_phase hstop

theorem outerTest_connection (source : Notifications.Listener) :
    source.outerTest.phase.connection? = none := by
  rw [Notifications.Listener.outerTest]
  cases source.stop <;> rfl

/-- The connection in use is closed, and none is in use any more. -/
theorem Tidy.leave {conn : ℕ} (htidy : Tidy source)
    (hconn : source.phase.connection? = some conn)
    (hclosed : after.closed = source.closed ++ [conn])
    (hopened : after.opened = source.opened)
    (hphase : after.phase.connection? = none) : Tidy after := by
  rw [Tidy, hconn] at htidy
  rw [Tidy, hphase, hclosed, hopened]
  exact (List.append_nil _).trans htidy

theorem Tidy.innerTest {conn : ℕ} (htidy : Tidy source)
    (hconn : source.phase.connection? = some conn) :
    Tidy (source.innerTest conn) := by
  rw [Notifications.Listener.innerTest]
  split_ifs
  · exact htidy.leave hconn rfl rfl (outerTest_connection _)
  · rw [Tidy, hconn] at htidy
    exact htidy

theorem Tidy.transition (htidy : Tidy source)
    (htransition : source.Transition limit event after) : Tidy after := by
  cases htransition with
  | connectFails hphase =>
      rw [Tidy, hphase] at htidy
      rw [Tidy, outerTest_connection]
      exact htidy
  | connects hphase =>
      rw [Tidy, hphase] at htidy
      rw [Tidy, List.range_succ, ← htidy]
      simp [Phase.connection?]
  | listenFails hphase | drops hphase =>
      exact htidy.leave (by rw [hphase]; rfl) rfl rfl (outerTest_connection _)
  | @listens conn hphase =>
      have hemitted : Tidy (source.emit .resync) := htidy
      exact hemitted.innerTest
        (congrArg Phase.connection? hphase : _ = some conn)
  | @payload conn text hphase =>
      have hconn : source.phase.connection? = some conn := by
        rw [hphase]
        rfl
      rw [Notifications.Listener.receive]
      split_ifs
      · exact htidy.innerTest hconn
      · split
        · exact htidy
        · exact htidy
        · exact htidy.leave hconn rfl rfl rfl
  | tick hphase => exact htidy.innerTest (by rw [hphase]; rfl)
  | stopsWaiting hphase =>
      rw [Tidy, hphase] at htidy
      exact htidy
  | stops => exact htidy

theorem listenerLeft_quiet {state : State} {phase : Phase}
    (hdrain : state.drain = .iterating)
    (hyielded : after.yielded = state.source.yielded)
    (hphase : after.phase = phase)
    (hlower : sourceLeft phase < sourceLeft state.source.phase) :
    listenerLeft (state.drive event after) < listenerLeft state := by
  have hdriven : (state.drive event after).source.phase = phase := hphase
  rw [listenerLeft, listenerLeft, drive_quiet hyielded, hdrain, hdriven]
  exact Nat.add_lt_add_left hlower 1

/-- What the generator does while `stop` is set: it passes nothing on. -/
theorem listenerLeft_drive {state : State} (hstop : state.source.stop = true)
    (hdrain : state.drain = .iterating) (hevent : event ≠ .stops)
    (htransition : state.source.Transition limit event after) :
    listenerLeft (state.drive event after) < listenerLeft state := by
  cases htransition with
  | connectFails hphase | listenFails hphase | drops hphase =>
      refine listenerLeft_quiet hdrain rfl (outerTest_phase hstop) ?_
      rw [hphase]
      simp [sourceLeft]
  | connects hphase =>
      refine listenerLeft_quiet hdrain rfl rfl ?_
      rw [hphase]
      simp [sourceLeft]
  | @listens conn hphase =>
      have hyielded : ((state.source.emit .resync).innerTest conn).yielded =
          state.source.yielded ++ [.resync] :=
        (Notifications.Listener.innerTest_frame _ _).2
      have hreturned : (state.drive .listens
          ((state.source.emit .resync).innerTest conn)).source.phase =
            .returned :=
        @innerTest_phase (state.source.emit .resync) hstop conn
      rw [listenerLeft, listenerLeft, drive_yields hyielded, hdrain, hphase,
        hreturned]
      simp [drainLeft, sourceLeft]
  | @payload conn text hphase =>
      have hreceive : state.source.receive limit conn text =
          state.source.innerTest conn := by
        rw [Notifications.Listener.receive, if_pos hstop]
      rw [hreceive]
      refine listenerLeft_quiet hdrain
        (Notifications.Listener.innerTest_frame _ _).2
        (innerTest_phase hstop conn) ?_
      rw [hphase]
      simp [sourceLeft]
  | @tick conn hphase =>
      refine listenerLeft_quiet hdrain
        (Notifications.Listener.innerTest_frame _ _).2
        (innerTest_phase hstop conn) ?_
      rw [hphase]
      simp [sourceLeft]
  | stopsWaiting | stops => exact absurd rfl hevent

theorem Tidy.allClosed (htidy : Tidy source)
    (hover : sourceLeft source.phase = 0) :
    source.closed = List.range source.opened := by
  have hnone : source.phase.connection? = none := by
    cases hphase : source.phase with
    | disconnected | returned | raised => rfl
    | connected | listening => simp [hphase, sourceLeft] at hover
  rw [Tidy, hnone] at htidy
  exact (List.append_nil _).symm.trans htidy

end Listener

/-! ## Every run -/

section Steps

variable {limit : ℕ} {state next middle : State} {action : Action}

theorem productIds_of_act (hcase : ActCase limit state action next) :
    next.call.db.products.map Product.id =
      state.call.db.products.map Product.id := by
  cases hcase with
  | thread hthread hstep => rw [(thread_frame hthread hstep).db]
  | commit _ hids => exact hids
  | resync =>
      change (state.put .resync).resume.call.db.products.map Product.id = _
      rw [resume_call]
      rfl
  | _ => rfl

theorem drive_not_ended {event : Notifications.Event}
    {source : Notifications.Listener} :
    (state.drive event source).drain ≠ .ended := by
  rw [State.drive]
  cases source.yielded[state.source.yielded.length]? <;> simp

/-- What every step of a part keeps: a handler that is closed has set `stop`,
and a listener thread that is over uses no connection. -/
structure Kept (products : ℕ) (state : State) : Prop where
  table : state.call.db.products.length = products
  within : WithinTable products state.call.generator
  closed : state.call.generator = .closed → state.call.stop = true
  tidy : Tidy state.source
  spent : state.drain = .ended → sourceLeft state.source.phase = 0

theorem Kept.thread {products : ℕ} (hkept : Kept products state)
    {action : Watch.Action} {call : Watch.State} (hthread : IsThread action)
    (hstep : Watch.step state.call action = some call) :
    Kept products { state with call := call } := by
  obtain ⟨hdb, hstop, _, _⟩ := thread_frame hthread hstep
  have htable : call.db.products.length = products := hdb ▸ hkept.table
  cases hhandler : Action.isHandler (.call action) with
  | true =>
      refine ⟨htable, ?_, stop_of_closed hhandler hstep, hkept.tidy, hkept.spent⟩
      have hwithin := withinTable_of_handler hhandler hstep
      rw [hkept.table] at hwithin
      exact hwithin hkept.within
  | false =>
      obtain ⟨hgenerator, _⟩ := generator_of_other hthread hhandler hstep
      exact ⟨htable, hgenerator ▸ hkept.within,
        fun hclosed => hstop (hkept.closed (hgenerator ▸ hclosed)),
        hkept.tidy, hkept.spent⟩

theorem Kept.act {products : ℕ} (hkept : Kept products state)
    (hcase : ActCase limit state action next) : Kept products next := by
  have htable : next.call.db.products.length = products := by
    have hids := congrArg List.length (productIds_of_act hcase)
    rw [List.length_map, List.length_map] at hids
    exact hids.trans hkept.table
  cases hcase with
  | thread hthread hstep => exact hkept.thread hthread hstep
  | commit =>
      exact ⟨htable, hkept.within, hkept.closed, hkept.tidy, hkept.spent⟩
  | dropLink => exact ⟨htable, hkept.within, hkept.closed, hkept.tidy, hkept.spent⟩
  | drive hdrain hdrives hstep =>
      have htransition := Notifications.Listener.transition_of_step hstep
      exact ⟨htable, hkept.within, hkept.closed,
        hkept.tidy.transition htransition,
        fun hended => absurd hended drive_not_ended⟩
  | returned hdrain hphase =>
      exact ⟨htable, hkept.within, hkept.closed, hkept.tidy,
        fun _ => by rw [hphase]; rfl⟩
  | raised hdrain hphase =>
      exact ⟨htable, hkept.within, fun _ => rfl, hkept.tidy,
        fun _ => by rw [hphase]; rfl⟩
  | resync hdrain =>
      have hcall := resume_call (state.put .resync)
      refine ⟨htable, ?_, ?_, ?_, fun hended => Drain.noConfusion hended⟩
      · change WithinTable products
          (state.put .resync).resume.call.generator
        rw [hcall]
        exact hkept.within
      · change (state.put .resync).resume.call.generator = .closed →
          (state.put .resync).resume.call.stop = true
        rw [hcall]
        exact hkept.closed
      · change Tidy (state.put .resync).resume.source
        rw [State.resume]
        split
        next conn hphase =>
          split_ifs
          · exact Tidy.innerTest hkept.tidy (by rw [hphase]; rfl)
          · exact hkept.tidy
        next => exact hkept.tidy
  | @looks productId hdrain =>
      refine ⟨htable, hkept.within, hkept.closed, hkept.tidy, fun hended => ?_⟩
      by_cases hwatched : productId ∈ state.call.watchSet <;>
        simp [hwatched] at hended
  | queues =>
      exact ⟨htable, hkept.within, hkept.closed, hkept.tidy,
        fun hended => Drain.noConfusion hended⟩

/-- And behind a whole step the generator knows of `stop`. -/
structure Orderly (products : ℕ) (state : State) : Prop extends
    Kept products state where
  told : state.call.stop = true → state.source.stop = true

theorem Orderly.init (db : InventoryDb) :
    Orderly db.products.length (.init db) where
  table := rfl
  within := trivial
  closed hclosed := Generator.noConfusion hclosed
  told hstop := Bool.noConfusion hstop
  tidy := rfl
  spent hended := Drain.noConfusion hended

theorem Orderly.step {products : ℕ} (horderly : Orderly products state)
    (hstep : step limit state action = some next) : Orderly products next := by
  obtain ⟨middle, hact, hshare⟩ := Option.bind_eq_some_iff.mp hstep
  have hkept := horderly.toKept.act (actCase_of_act hact)
  obtain ⟨htold, source, rfl, rfl | ⟨_, htransition⟩⟩ := share_frame hshare
  · exact ⟨hkept, htold⟩
  · refine ⟨⟨hkept.table, hkept.within, hkept.closed,
      hkept.tidy.transition htransition, fun hended => ?_⟩, htold⟩
    cases htransition with
    | stopsWaiting => rfl
    | stops => exact hkept.spent hended

theorem run_orderly {db : InventoryDb} {schedule : List Action}
    (hrun : run (step limit) (.init db) schedule = some state) :
    Orderly db.products.length state :=
  run_invariant (fun _ _ _ horderly hstep => horderly.step hstep)
    (.init db) hrun

/-! The handler -/

theorem share_call (hshare : middle.share limit = some next) :
    next.call = middle.call ∧ next.drain = middle.drain := by
  obtain ⟨_, source, rfl, _⟩ := share_frame hshare
  exact ⟨rfl, rfl⟩

theorem exists_share (limit : ℕ) (state : State) :
    ∃ next, state.share limit = some next := by
  rw [State.share]
  split_ifs
  · cases hphase : state.source.phase <;>
      exact ⟨_, by simp only [Notifications.Listener.step, hphase]; rfl⟩
  · exact ⟨state, rfl⟩

/-- The way out of the handler, behind so many steps of its own. -/
structure Leaves (products spent : ℕ) (call next : Watch.State) : Prop where
  leaving : Leaving next
  steps : spent + stepsLeft products next.generator ≤
    stepsLeft products call.generator
  updates : (updatesOf next.log).length +
      updatesLeft products next.generator ≤
    (updatesOf call.log).length + updatesLeft products call.generator

theorem Leaves.idle {products : ℕ} {call next : Watch.State}
    (hleaving : Leaving call) (hgenerator : next.generator = call.generator)
    (hupdates : updatesOf next.log = updatesOf call.log)
    (hstop : call.stop = true → next.stop = true)
    (hactive : call.active = false → next.active = false) :
    Leaves products 0 call next where
  leaving := hleaving.imp hactive hstop
  steps := by rw [hgenerator, Nat.zero_add]
  updates := by rw [hgenerator, hupdates]

theorem updatesOf_committed (call : Watch.State) (products : List Product) :
    updatesOf (.committed products :: call.log) = updatesOf call.log := by
  rw [Watch.updatesOf_cons]
  exact List.append_nil _

/-- A step on the way out; only those of the handler itself count. -/
theorem leaves_of_step {products : ℕ} (horderly : Orderly products state)
    (hleaving : Leaving state.call)
    (hstep : step limit state action = some next) :
    Leaves products (if action.isHandler then 1 else 0) state.call
      next.call := by
  obtain ⟨middle, hact, hshare⟩ := Option.bind_eq_some_iff.mp hstep
  rw [(share_call hshare).1]
  cases actCase_of_act hact with
  | @thread action call hthread hcallStep =>
      obtain ⟨_, hstop, hactive, _⟩ := thread_frame hthread hcallStep
      cases hhandler : Action.isHandler (.call action) with
      | true =>
          obtain ⟨hsteps, hupdates⟩ :=
            spends_of_step hleaving hhandler hcallStep
          rw [horderly.table] at hsteps hupdates
          refine ⟨hleaving.imp hactive hstop, ?_, hupdates⟩
          rw [if_pos rfl, Nat.add_comm]
          exact hsteps
      | false =>
          obtain ⟨hgenerator, hupdates⟩ :=
            generator_of_other hthread hhandler hcallStep
          exact .idle hleaving hgenerator hupdates hstop hactive
  | @commit action after payloads hcommits =>
      have hother : action.isHandler = false := by
        cases action with
        | call => cases hcommits
        | _ => rfl
      rw [hother]
      exact .idle hleaving rfl (updatesOf_committed _ _) id id
  | dropLink | drive | returned | looks | queues =>
      exact .idle hleaving rfl rfl id id
  | raised => exact .idle hleaving rfl rfl (fun _ => rfl) id
  | resync =>
      change Leaves products 0 state.call (state.put .resync).resume.call
      rw [resume_call]
      exact .idle hleaving rfl rfl id id

/-- The handler is on its way out. -/
def Winding (products : ℕ) (state : State) : Prop :=
  Orderly products state ∧ Leaving state.call

theorem winding_step {products : ℕ} (hwinding : Winding products state)
    (hstep : step limit state action = some next) : Winding products next :=
  ⟨hwinding.1.step hstep,
    (leaves_of_step hwinding.1 hwinding.2 hstep).leaving⟩

theorem exists_handlerAction (hopen : state.call.generator ≠ .closed) :
    ∃ action next, action.isHandler = true ∧
      step limit state action = some next := by
  obtain ⟨action, call, hhandler, hthread, hcall⟩ :=
    exists_handlerStep state.call hopen
  obtain ⟨next, hshare⟩ := exists_share limit { state with call := call }
  refine ⟨.call action, next, hhandler, ?_⟩
  rw [step, act, if_pos hthread, hcall]
  exact hshare

/-- Once the client is gone or `stop` is set, the handler ends within a number
of steps that the table bounds, with no more updates than the table has rows,
and can always take the next one. -/
theorem handler_winds_down {db : InventoryDb} {before after : List Action}
    {final : State} (hbefore : run (step limit) (.init db) before = some state)
    (hleaving : Leaving state.call)
    (hafter : run (step limit) state after = some final) :
    after.countP Action.isHandler ≤ db.products.length + 6 ∧
      (updatesOf final.call.log).length ≤
        (updatesOf state.call.log).length + db.products.length ∧
      (final.call.generator ≠ .closed → ∃ action next,
        action.isHandler = true ∧ step limit final action = some next) ∧
      (final.call.generator = .closed → final.call.stop = true) := by
  have hwinding : Winding db.products.length state :=
    ⟨run_orderly hbefore, hleaving⟩
  have hsteps := @run_countP_add_le _ _ (step limit)
    (Winding db.products.length) Action.isHandler
    (fun other => stepsLeft db.products.length other.call.generator)
    (fun _ _ _ hkept hstep => winding_step hkept hstep)
    (fun _ _ _ hkept hstep => (leaves_of_step hkept.1 hkept.2 hstep).steps)
    _ _ _ hwinding hafter
  obtain ⟨hfinal, hupdates⟩ := @run_invariant _ _ (step limit)
    (fun other => Winding db.products.length other ∧
      (updatesOf other.call.log).length +
          updatesLeft db.products.length other.call.generator ≤
        (updatesOf state.call.log).length +
          updatesLeft db.products.length state.call.generator)
    (fun _ _ _ hkept hstep => ⟨winding_step hkept.1 hstep,
      (leaves_of_step hkept.1.1 hkept.1.2 hstep).updates.trans hkept.2⟩)
    _ _ _ ⟨hwinding, Nat.le_refl _⟩ hafter
  have hleft := stepsLeft_le hwinding.1.within
  have hrows := updatesLeft_le hwinding.1.within
  exact ⟨by omega, by omega, exists_handlerAction, hfinal.1.closed⟩

/-- The listener is up, and the handler waits in its queue. -/
def listenerUp : List Action :=
  [.driver .connects, .driver .listens, .drain, .call .generator]

/-- The handler on its own after the client has cancelled. -/
def wayOut : List Action := List.replicate 6 (.call .generator)

theorem handler_winds_down_cancelled : ∃ state final,
    run (step 2) (.init seededDb) (listenerUp ++ [.call .cancel]) =
        some state ∧
      run (step 2) state wayOut = some final ∧
      final.call.generator = .closed ∧
      wayOut.countP Action.isHandler ≤ 9 ∧ final.call.stop = true := by
  have hwinds : ∀ state final,
      run (step 2) (.init seededDb) (listenerUp ++ [.call .cancel]) =
          some state → state.call.active = false →
        run (step 2) state wayOut = some final →
          wayOut.countP Action.isHandler ≤ 9 ∧
            (final.call.generator = .closed → final.call.stop = true) := by
    intro state final hbefore hgone hafter
    obtain ⟨hsteps, _, _, hclosed⟩ :=
      handler_winds_down hbefore (.inl hgone) hafter
    exact ⟨hsteps, hclosed⟩
  exact ⟨_, _, rfl, rfl, rfl, (hwinds _ _ rfl rfl rfl).1,
    (hwinds _ _ rfl rfl rfl).2 rfl⟩

/-! The listener thread -/

theorem sourceLeft_resume (state : State) :
    sourceLeft state.resume.source.phase ≤ sourceLeft state.source.phase := by
  rw [State.resume]
  split
  next conn hphase =>
    split_ifs with hstop
    · have hreturned := innerTest_phase hstop conn
      rw [show ({ state with
        source := state.source.innerTest conn
        linkUp := false
        inbox := [] } : State).source.phase = .returned from hreturned]
      exact Nat.zero_le _
    · exact Nat.le_refl _
  next => exact Nat.le_refl _

/-- While `stop` is set every step of the thread brings it nearer its end. -/
theorem listenerLeft_act {products : ℕ} (horderly : Orderly products state)
    (hstop : state.call.stop = true)
    (hcase : ActCase limit state action middle) :
    (if action.isListener then 1 else 0) + listenerLeft middle ≤
        listenerLeft state ∧ middle.call.stop = true := by
  have hdrained : ∀ {drain : Drain} {call : Watch.State}, action = .drain →
      drainLeft drain < drainLeft state.drain →
      (if action.isListener then 1 else 0) +
          listenerLeft { state with call := call, drain := drain } ≤
        listenerLeft state := by
    rintro drain call rfl hlower
    have hcounts : Action.drain.isListener = true := rfl
    rw [if_pos hcounts, listenerLeft, listenerLeft]
    dsimp only
    omega
  have hidle : ∀ {other : State}, action.isListener = false →
      other.drain = state.drain → other.source = state.source →
      (if action.isListener then 1 else 0) + listenerLeft other ≤
        listenerLeft state := by
    intro other hnone hdrain hsource
    rw [hnone, listenerLeft, listenerLeft, hdrain, hsource]
    simp
  cases hcase with
  | thread hthread hstep =>
      exact ⟨hidle rfl rfl rfl, (thread_frame hthread hstep).stop hstop⟩
  | commit hcommits =>
      refine ⟨hidle ?_ rfl rfl, hstop⟩
      cases action with
      | driver | drain => cases hcommits
      | _ => rfl
  | dropLink => exact ⟨hidle rfl rfl rfl, hstop⟩
  | @drive event source hdrain hdrives hstep =>
      have hevent : event ≠ .stops := by
        rintro rfl
        exact hdrives
      have hlower := listenerLeft_drive (horderly.told hstop) hdrain hevent
        (Notifications.Listener.transition_of_step hstep)
      have hcounts : (Action.driver event).isListener = true := rfl
      refine ⟨?_, hstop⟩
      rw [if_pos hcounts, Nat.add_comm]
      exact hlower
  | returned hdrain =>
      exact ⟨hdrained rfl (by rw [hdrain]; decide), hstop⟩
  | raised hdrain => exact ⟨hdrained rfl (by rw [hdrain]; decide), rfl⟩
  | resync hdrain =>
      have hsource := sourceLeft_resume (state.put .resync)
      constructor
      · have hend : listenerLeft { (state.put .resync).resume with
            drain := .iterating } =
              1 + sourceLeft (state.put .resync).resume.source.phase := rfl
        have hbegin : listenerLeft state =
            2 + sourceLeft (state.put .resync).source.phase := by
          rw [listenerLeft, hdrain]
          rfl
        have hcounts : Action.drain.isListener = true := rfl
        rw [if_pos hcounts, hend, hbegin]
        omega
      · change (state.put .resync).resume.call.stop = true
        rw [resume_call]
        exact hstop
  | @looks productId hdrain =>
      refine ⟨hdrained rfl ?_, hstop⟩
      rw [hdrain]
      split_ifs <;> simp [drainLeft]
  | queues hdrain => exact ⟨hdrained rfl (by rw [hdrain]; simp [drainLeft]), hstop⟩

theorem listenerLeft_share (hshare : middle.share limit = some next) :
    listenerLeft next ≤ listenerLeft middle := by
  obtain ⟨_, source, rfl, rfl | ⟨_, htransition⟩⟩ := share_frame hshare
  · exact Nat.le_refl _
  · cases htransition with
    | stopsWaiting hphase =>
        exact Nat.add_le_add_left (Nat.zero_le _) _
    | stops => exact Nat.le_refl _

/-- The listener thread is on its way out. -/
def Stopping (products : ℕ) (state : State) : Prop :=
  Orderly products state ∧ state.call.stop = true

theorem stopping_step {products : ℕ} (hstopping : Stopping products state)
    (hstep : step limit state action = some next) :
    Stopping products next ∧
      (if action.isListener then 1 else 0) + listenerLeft next ≤
        listenerLeft state := by
  obtain ⟨middle, hact, hshare⟩ := Option.bind_eq_some_iff.mp hstep
  obtain ⟨hlower, hstop⟩ :=
    listenerLeft_act hstopping.1 hstopping.2 (actCase_of_act hact)
  have hlast := listenerLeft_share hshare
  refine ⟨⟨hstopping.1.step hstep, ?_⟩, by omega⟩
  rw [(share_call hshare).1]
  exact hstop

/-- Until it has ended the thread can go on. -/
theorem exists_listenerAction (hrunning : state.drain ≠ .ended) :
    ∃ action next, action.isListener = true ∧
      step limit state action = some next := by
  suffices hacts : ∃ action middle, Action.isListener action = true ∧
      act limit state action = some middle by
    obtain ⟨action, middle, hlistener, hact⟩ := hacts
    obtain ⟨next, hshare⟩ := exists_share limit middle
    exact ⟨action, next, hlistener, by rw [step, hact]; exact hshare⟩
  cases hdrain : state.drain with
  | ended => exact absurd hdrain hrunning
  | holding event =>
      cases event <;>
        exact ⟨.drain, _, rfl, by rw [act, stepDrain, hdrain]⟩
  | watched => exact ⟨.drain, _, rfl, by rw [act, stepDrain, hdrain]⟩
  | iterating =>
      have hdrives : ∀ {event source}, state.Drives event →
          state.source.step limit event = some source →
          act limit state (.driver event) = some (state.drive event source) := by
        intro event source hdrives hstep
        rw [act, if_pos ⟨hdrain, hdrives⟩, hstep]
        rfl
      cases hphase : state.source.phase with
      | returned | raised =>
          exact ⟨.drain, _, rfl, by rw [act, stepDrain, hdrain, hphase]⟩
      | disconnected =>
          exact ⟨.driver .connectFails, _, rfl, hdrives trivial
            (by rw [Notifications.Listener.step, hphase])⟩
      | connected =>
          exact ⟨.driver .listenFails, _, rfl, hdrives trivial
            (by rw [Notifications.Listener.step, hphase])⟩
      | listening =>
          exact ⟨.driver .tick, _, rfl, hdrives trivial
            (by rw [Notifications.Listener.step, hphase])⟩

/-- A step of the handler leaves the listener thread where it is. -/
theorem handler_frame (hhandler : action.isHandler = true)
    (hstep : step limit state action = some next) :
    listenerLeft next ≤ listenerLeft state ∧
      (state.call.active = false → next.call.active = false) := by
  obtain ⟨middle, hact, hshare⟩ := Option.bind_eq_some_iff.mp hstep
  have hlast := listenerLeft_share hshare
  rw [(share_call hshare).1]
  cases actCase_of_act hact with
  | thread hthread hcallStep =>
      exact ⟨hlast, (thread_frame hthread hcallStep).active⟩
  | commit hcommits =>
      cases action with
      | call => cases hcommits
      | _ => cases hhandler
  | dropLink | drive | returned | raised | resync | looks | queues =>
      cases hhandler

/-- A step of the listener thread leaves the handler where it is. -/
theorem listener_frame (hlistener : action.isListener = true)
    (hstep : step limit state action = some next) :
    next.call.generator = state.call.generator ∧
      next.call.active = state.call.active := by
  obtain ⟨middle, hact, hshare⟩ := Option.bind_eq_some_iff.mp hstep
  rw [(share_call hshare).1]
  cases actCase_of_act hact with
  | thread | dropLink => cases hlistener
  | commit hcommits =>
      cases action with
      | driver | drain => cases hcommits
      | _ => cases hlistener
  | drive | returned | raised | looks | queues => exact ⟨rfl, rfl⟩
  | resync =>
      change (state.put .resync).resume.call.generator = _ ∧
        (state.put .resync).resume.call.active = _
      rw [resume_call]
      exact ⟨rfl, rfl⟩

/-- Once `stop` is set, the listener thread ends within six steps, can always
take the next one, and leaves no connection open. -/
theorem listener_winds_down {db : InventoryDb} {before after : List Action}
    {final : State} (hbefore : run (step limit) (.init db) before = some state)
    (hstop : state.call.stop = true)
    (hafter : run (step limit) state after = some final) :
    after.countP Action.isListener ≤ 6 ∧
      (final.drain ≠ .ended → ∃ action next, action.isListener = true ∧
        step limit final action = some next) ∧
      (final.drain = .ended →
        final.source.closed = List.range final.source.opened) := by
  have hstopping : Stopping db.products.length state :=
    ⟨run_orderly hbefore, hstop⟩
  have hsteps := @run_countP_add_le _ _ (step limit)
    (Stopping db.products.length) Action.isListener listenerLeft
    (fun _ _ _ hkept hstep => (stopping_step hkept hstep).1)
    (fun _ _ _ hkept hstep => (stopping_step hkept hstep).2)
    _ _ _ hstopping hafter
  have hleft := listenerLeft_le state
  have hfinal := (run_invariant
    (fun _ _ _ hkept hstep => (stopping_step hkept hstep).1)
    hstopping hafter).1
  refine ⟨by omega, exists_listenerAction, fun hended => ?_⟩
  exact hfinal.tidy.allClosed (hfinal.spent hended)

theorem listener_winds_down_cancelled : ∃ state final,
    run (step 2) (.init seededDb)
        (listenerUp ++ [.call .cancel] ++ wayOut) = some state ∧
      run (step 2) state [.driver .tick, .drain] = some final ∧
      final.drain = .ended ∧ final.source.closed = [0] := by
  have hwinds : ∀ state final, run (step 2) (.init seededDb)
      (listenerUp ++ [.call .cancel] ++ wayOut) = some state →
        state.call.stop = true →
          run (step 2) state [.driver .tick, .drain] = some final →
            final.drain = .ended →
              final.source.closed = List.range final.source.opened :=
    fun _ _ hbefore hstop hafter =>
      (listener_winds_down hbefore hstop hafter).2.2
  exact ⟨_, _, rfl, rfl, rfl, hwinds _ _ rfl rfl rfl rfl⟩

end Steps

end OrderFlow.Inventory.Live
