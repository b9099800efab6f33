import OrderFlow.Inventory.Feasibility
import OrderFlow.Inventory.Watch

/-!
# Does a subscription start with a SNAPSHOT?

Only a snapshot marker makes the handler send a SNAPSHOT, but the markers of
the listener that are already in the queue are handled first, and they look at
the watch set of the moment.  A product that was subscribed in between is then
sent a CHANGED as its first update.  This file shows such a run, says which
steps cause it, and proves that nothing else does.
-/

namespace OrderFlow.Inventory.Watch

open TransitionSystem

/-! ## Subscriptions in the log -/

/-- How far the subscription of a product has come. -/
inductive Subscription where
  | none
  /-- newly added to the watch set, nothing was sent since -/
  | fresh
  /-- the kind of the first update -/
  | begun (first : Kind)
  deriving DecidableEq

/-- An update of the product is sent. -/
def Subscription.send (kind : Kind) : Subscription → Subscription
  | .fresh => .begun kind
  | .none => .none
  | .begun first => .begun first

/-- A SUBSCRIBE that names the product is applied. -/
def Subscription.add : Subscription → Subscription
  | .none => .fresh
  | .fresh => .fresh
  | .begun first => .begun first

/-- The subscription of the product after the entries of the log. -/
def subscription (productId : ℤ) : List Entry → Subscription
  | [] => .none
  | .applied command :: log =>
      if productId ∈ command.productIds then
        match command.action with
        | .subscribe => (subscription productId log).add
        | .unsubscribe => .none
      else subscription productId log
  | .sent update :: log =>
      if update.productId = productId then
        (subscription productId log).send update.kind
      else subscription productId log
  | .committed _ :: log | .selected _ :: log => subscription productId log

/-- In every subscription the first update is a SNAPSHOT, and so a CHANGED is
only sent to a subscriber who has got a SNAPSHOT. -/
structure StartsWithSnapshot (log : List Entry) : Prop where
  first : ∀ earlier, earlier <:+ log → ∀ productId,
    subscription productId earlier ≠ .begun .changed
  /-- without a subscription it is a row read before the UNSUBSCRIBE -/
  changed : ∀ update earlier, (.sent update :: earlier) <:+ log →
    update.kind = .changed →
      subscription update.productId earlier = .none ∨
        subscription update.productId earlier = .begun .snapshot

/-- The resync of the first connection is queued before the SUBSCRIBE. -/
def resyncFirst : List Action :=
  [Action.listener, .listener, .send ⟨.subscribe, [1]⟩, .readCommand] ++
    rounds 6

/-- The first update that a subscriber of the widgets gets is a CHANGED. -/
theorem widgets_changed_first : ∃ final,
    run step (.init seededDb) resyncFirst = some final ∧
      ¬ StartsWithSnapshot final.log :=
  ⟨_, rfl, fun hstarts =>
    absurd (by decide) (hstarts.first _ List.suffix_rfl 1)⟩

/-! ## The steps that let a CHANGED overtake -/

/-- A row that would be sent as CHANGED to a subscriber who has got nothing
yet. -/
def State.Overtakes (state : State) (row : ProductStockRow) : Prop :=
  subscription row.productId state.log = .fresh ∧
    state.lastSeen row.productId ≠ some row.availableQuantity

/-- The ids that are read next for a changed or resync marker. -/
def Generator.rereads : Generator → Finset ℤ
  | .fetching watched false => watched
  | _ => ∅

/-- The rows at hand that were read for a changed or resync marker. -/
def Generator.changedRows : Generator → List ProductStockRow
  | .yielding rows false => rows
  | _ => []

/-- The ids of the SUBSCRIBE that the reader applies next. -/
def State.subscribesNext (state : State) : List ℤ :=
  match state.requests with
  | ⟨.subscribe, productIds⟩ :: _ => productIds
  | _ => []

theorem State.exists_of_mem_subscribesNext {state : State} {productId : ℤ}
    (hnamed : productId ∈ state.subscribesNext) :
    ∃ productIds requests,
      state.requests = ⟨.subscribe, productIds⟩ :: requests ∧
        productId ∈ productIds := by
  rw [State.subscribesNext] at hnamed
  split at hnamed
  · rename_i productIds requests hrequests
    exact ⟨productIds, requests, hrequests, hnamed⟩
  · exact absurd hnamed List.not_mem_nil

/-- The step is none of the two that go wrong: the read for a changed or
resync marker that finds a new quantity of a product whose first update is
still due, and the SUBSCRIBE that adds a product anew of which such a read
left a row with a new quantity to be sent. -/
def InTurn (state : State) : Action → Prop
  | .generator =>
      ∀ row ∈ fetchStock state.db state.generator.rereads,
        ¬ state.Overtakes row
  | .readCommand =>
      ∀ row ∈ state.generator.changedRows,
        row.productId ∈ state.subscribesNext →
          row.productId ∉ state.watchSet →
            state.lastSeen row.productId = some row.availableQuantity
  | _ => True

instance (state : State) (row : ProductStockRow) :
    Decidable (state.Overtakes row) :=
  inferInstanceAs (Decidable (_ ∧ _))

instance (state : State) : DecidablePred (InTurn state)
  | .generator => inferInstanceAs (Decidable
      (∀ row ∈ fetchStock state.db state.generator.rereads,
        ¬ state.Overtakes row))
  | .readCommand => inferInstanceAs (Decidable
      (∀ row ∈ state.generator.changedRows,
        row.productId ∈ state.subscribesNext →
          row.productId ∉ state.watchSet →
            state.lastSeen row.productId = some row.availableQuantity))
  | .send _ | .halfClose | .cancel | .commit _ _ | .dropLink | .endReader
  | .listener | .loseConnection | .endListener | .timeout | .failFetch
  | .abandon => isTrue trivial

/-- No CHANGED has overtaken a SNAPSHOT, and none is about to. -/
structure InOrder (state : State) : Prop where
  watched : ∀ productId,
    subscription productId state.log = .none ↔ productId ∉ state.watchSet
  rows : ∀ row ∈ state.generator.changedRows, ¬ state.Overtakes row
  first : ∀ earlier, earlier <:+ state.log → ∀ productId,
    subscription productId earlier ≠ .begun .changed

/-! ## One step -/

theorem Subscription.add_ne_none (before : Subscription) :
    before.add ≠ .none := by
  cases before <;> exact Subscription.noConfusion

theorem Subscription.add_eq_fresh {before : Subscription}
    (hfresh : before.add = .fresh) : before = .none ∨ before = .fresh := by
  cases before with
  | none => exact .inl rfl
  | fresh => exact .inr rfl
  | begun first => cases hfresh

theorem Subscription.send_eq_none {before : Subscription} {kind : Kind} :
    before.send kind = .none ↔ before = .none := by
  cases before <;> simp [Subscription.send]

theorem Subscription.send_ne_fresh (before : Subscription) (kind : Kind) :
    before.send kind ≠ .fresh := by
  cases before <;> exact Subscription.noConfusion

section Steps

variable {state next : State}

/-- A step outside the handler, the reader and the database. -/
theorem InOrder.frame (horder : InOrder state)
    (hcore : next.core = state.core) : InOrder next := by
  simp only [State.core, Prod.mk.injEq] at hcore
  obtain ⟨_, hseen, hlog, hwatch, _, hgenerator⟩ := hcore
  constructor
  · rw [hlog, hwatch]
    exact horder.watched
  · simp only [hgenerator, State.Overtakes, hlog, hseen]
    exact horder.rows
  · rw [hlog]
    exact horder.first

/-- The handler goes on with nothing to be sent as CHANGED. -/
theorem InOrder.goto (horder : InOrder state) {after : Generator}
    (hafter : after.changedRows = []) : InOrder (state.goto after) := by
  refine ⟨horder.watched, fun row hrow => ?_, horder.first⟩
  rw [State.goto, hafter] at hrow
  exact absurd hrow List.not_mem_nil

/-- An entry that is no update keeps the first updates as they are. -/
theorem InOrder.first_cons (horder : InOrder state) {entry : Entry}
    (hentry : ∀ productId,
      subscription productId (entry :: state.log) ≠ .begun .changed) :
    ∀ earlier, earlier <:+ entry :: state.log → ∀ productId,
      subscription productId earlier ≠ .begun .changed := by
  intro earlier hsuffix
  rcases List.suffix_cons_iff.mp hsuffix with rfl | hsuffix
  · exact hentry
  · exact horder.first earlier hsuffix

theorem InOrder.commit (horder : InOrder state) (db : InventoryDb)
    (notices : List ℤ) : InOrder (state.commit db notices) where
  watched := horder.watched
  rows := horder.rows
  first := horder.first_cons (horder.first state.log List.suffix_rfl)

/-- After the lock section of the reader. -/
theorem subscription_applied_eq_none (horder : InOrder state)
    (command : WatchCommand) (productId : ℤ) :
    subscription productId (.applied command :: state.log) = .none ↔
      productId ∉ (state.applyCommand command).watchSet := by
  rw [subscription, State.applyCommand]
  cases command.action with
  | subscribe =>
      by_cases hnamed : productId ∈ command.productIds
      · simp [hnamed, Subscription.add_ne_none]
      · simp [hnamed, horder.watched]
  | unsubscribe =>
      by_cases hnamed : productId ∈ command.productIds
      · simp [hnamed]
      · simp [hnamed, horder.watched]

theorem subscription_applied_eq_fresh {command : WatchCommand}
    {productId : ℤ} {log : List Entry}
    (hfresh : subscription productId (.applied command :: log) = .fresh) :
    subscription productId log = .fresh ∨
      subscription productId log = .none ∧
        command.action = .subscribe ∧ productId ∈ command.productIds := by
  rw [subscription] at hfresh
  split_ifs at hfresh with hnamed
  · cases haction : command.action with
    | subscribe =>
        rw [haction] at hfresh
        exact (Subscription.add_eq_fresh hfresh).symm.imp_right
          fun hnone => ⟨hnone, rfl, hnamed⟩
    | unsubscribe => simp [haction] at hfresh
  · exact .inl hfresh

theorem subscription_applied_eq_begun {command : WatchCommand}
    {productId : ℤ} {log : List Entry} {kind : Kind}
    (hbegun : subscription productId (.applied command :: log) =
      .begun kind) : subscription productId log = .begun kind := by
  rw [subscription] at hbegun
  split_ifs at hbegun with hnamed
  · cases haction : command.action with
    | subscribe =>
        rw [haction] at hbegun
        cases hbefore : subscription productId log with
        | none => simp [hbefore, Subscription.add] at hbegun
        | fresh => simp [hbefore, Subscription.add] at hbegun
        | begun first => simpa [hbefore, Subscription.add] using hbegun
    | unsubscribe => simp [haction] at hbegun
  · exact hbegun

/-- A SUBSCRIBE in turn adds no product of which a CHANGED is at hand. -/
theorem InOrder.applyCommand (horder : InOrder state) {command : WatchCommand}
    (hturn : command.action = .subscribe →
      ∀ row ∈ state.generator.changedRows,
        row.productId ∈ command.productIds →
          row.productId ∉ state.watchSet →
            state.lastSeen row.productId = some row.availableQuantity) :
    InOrder (state.applyCommand command) := by
  constructor
  · rw [State.applyCommand_log]
    exact subscription_applied_eq_none horder command
  · intro row hrow hovertakes
    rw [State.applyCommand_generator] at hrow
    rw [State.Overtakes, State.applyCommand_log, State.applyCommand_lastSeen]
      at hovertakes
    rcases subscription_applied_eq_fresh hovertakes.1 with
      hfresh | ⟨hnone, hsubscribe, hnamed⟩
    · exact horder.rows row hrow ⟨hfresh, hovertakes.2⟩
    · exact hovertakes.2 (hturn hsubscribe row hrow hnamed
        ((horder.watched _).mp hnone))
  · rw [State.applyCommand_log]
    exact horder.first_cons fun productId hbegun =>
      horder.first state.log List.suffix_rfl productId
        (subscription_applied_eq_begun hbegun)

theorem changedRows_cons {row : ProductStockRow}
    {rows : List ProductStockRow} {snapshot : Bool} {other : ProductStockRow}
    (hother : other ∈ (Generator.yielding rows snapshot).changedRows) :
    other ∈ (Generator.yielding (row :: rows) snapshot).changedRows := by
  cases snapshot with
  | true => exact hother
  | false => exact List.mem_cons_of_mem row hother

/-- A row is sent as CHANGED only to a subscriber who has got something. -/
theorem InOrder.sendRow (horder : InOrder state) {row : ProductStockRow}
    {rows : List ProductStockRow} {snapshot : Bool}
    (hgenerator : state.generator = .yielding (row :: rows) snapshot)
    (hsend : ¬ (snapshot = false ∧
      state.lastSeen row.productId = some row.availableQuantity)) :
    InOrder ({ state with
        lastSeen := Function.update state.lastSeen row.productId
          (some row.availableQuantity)
        log := .sent (update row snapshot) :: state.log }.goto
      (.yielding rows snapshot)) := by
  have hrows := horder.rows
  rw [hgenerator] at hrows
  refine ⟨fun productId => ?_, fun other hother => ?_,
    horder.first_cons fun productId => ?_⟩
  · rw [State.goto, subscription]
    split_ifs
    · rw [Subscription.send_eq_none]
      exact horder.watched productId
    · exact horder.watched productId
  · rintro ⟨hfresh, hnew⟩
    rw [State.goto, subscription] at hfresh
    split_ifs at hfresh with hsame
    · exact Subscription.send_ne_fresh _ _ hfresh
    · have hkept : Function.update state.lastSeen row.productId
          (some row.availableQuantity) other.productId =
            state.lastSeen other.productId :=
        Function.update_of_ne (Ne.symm hsame) _ _
      exact hrows other (changedRows_cons hother)
        ⟨hfresh, fun hseen => hnew (hkept.trans hseen)⟩
  · rw [subscription]
    have hbefore := horder.first state.log List.suffix_rfl productId
    split_ifs with hsame
    · cases hown : subscription productId state.log with
      | none => exact Subscription.noConfusion
      | begun first =>
          rw [hown] at hbefore
          exact hbefore
      | fresh =>
          cases snapshot with
          | true => simp [Subscription.send, update]
          | false =>
              subst hsame
              exact absurd ⟨hown, fun hseen => hsend ⟨rfl, hseen⟩⟩
                (hrows row List.mem_cons_self)
    · exact hbefore

/-- The handler ends. -/
theorem InOrder.close (horder : InOrder state) : InOrder state.close :=
  ⟨horder.watched, fun _ hrow => absurd hrow List.not_mem_nil, horder.first⟩

/-- A step of the handler in turn. -/
theorem InOrder.handlerStep (horder : InOrder state)
    (hturn : InTurn state .generator) (hstep : HandlerStep state next) :
    InOrder next := by
  cases hstep with
  | check | takeWatched | done => exact horder.goto rfl
  | leave => exact horder.close
  | @get marker events =>
      have hframe : InOrder { state with events := events } :=
        horder.frame rfl
      exact hframe.goto (by cases marker <;> rfl)
  | takeFresh =>
      exact ⟨horder.watched, fun _ hrow => absurd hrow List.not_mem_nil,
        horder.first⟩
  | select =>
      exact ⟨horder.watched, fun _ hrow => absurd hrow List.not_mem_nil,
        horder.first_cons (horder.first state.log List.suffix_rfl)⟩
  | @fetch watched snapshot hgenerator =>
      rw [InTurn, hgenerator] at hturn
      refine ⟨horder.watched, fun row hrow => ?_, horder.first⟩
      cases snapshot with
      | true => exact absurd hrow List.not_mem_nil
      | false => exact hturn row hrow
  | skip hgenerator =>
      have hrows := horder.rows
      rw [hgenerator] at hrows
      exact ⟨horder.watched, fun other hother =>
        hrows other (changedRows_cons hother), horder.first⟩
  | send hgenerator hsend => exact horder.sendRow hgenerator hsend

theorem InOrder.step (horder : InOrder state) {action : Action}
    (hturn : InTurn state action) (hstep : step state action = some next) :
    InOrder next := by
  cases transition_of_step hstep with
  | client hcore => exact horder.frame hcore
  | down hcore => exact horder.frame hcore
  | listener hlistener => exact horder.frame (stepListener_core hlistener)
  | commit => exact horder.commit _ _
  | @readCommand command requests hrequests =>
      have hframe : InOrder { state with requests := requests } :=
        horder.frame rfl
      apply hframe.applyCommand
      rw [InTurn, State.subscribesNext, hrequests] at hturn
      obtain ⟨action, productIds⟩ := command
      rintro rfl
      exact hturn
  | generator hhandler => exact horder.handlerStep hturn hhandler
  | timeout => exact horder.goto rfl
  | close => exact horder.close

end Steps

/-! ## Every run -/

theorem InOrder.init (db : InventoryDb) : InOrder (.init db) where
  watched productId := iff_of_true rfl (Finset.notMem_empty productId)
  rows _ hrow := absurd hrow List.not_mem_nil
  first := by
    intro earlier hsuffix productId
    rw [List.suffix_nil.mp hsuffix]
    exact Subscription.noConfusion

/-- When every first update is a SNAPSHOT, a CHANGED comes later. -/
theorem startsWithSnapshot_of_first {log : List Entry}
    (hfirst : ∀ earlier, earlier <:+ log → ∀ productId,
      subscription productId earlier ≠ .begun .changed) :
    StartsWithSnapshot log where
  first := hfirst
  changed sent earlier hsuffix hchanged := by
    have hbefore := hfirst earlier
      ((List.suffix_cons _ _).trans hsuffix) sent.productId
    have hafter := hfirst _ hsuffix sent.productId
    rw [subscription, if_pos rfl] at hafter
    cases hphase : subscription sent.productId earlier with
    | none => exact .inl rfl
    | fresh =>
        rw [hphase, hchanged] at hafter
        exact absurd rfl hafter
    | begun first =>
        rw [hphase] at hbefore
        cases first with
        | snapshot => exact .inr rfl
        | changed => exact absurd rfl hbefore

/-- In every run whose steps are all in turn, every subscription starts with a
SNAPSHOT. -/
theorem starts_with_snapshot {db : InventoryDb} {schedule : List Action}
    {final : State} (hturn : Along step InTurn (.init db) schedule)
    (hrun : run step (.init db) schedule = some final) :
    StartsWithSnapshot final.log := by
  have horder : InOrder final :=
    run_invariant_along
      (fun _ _ _ horder hallowed hstep => horder.step hallowed hstep)
      (.init db) hturn hrun
  exact startsWithSnapshot_of_first horder.first

/-- The widgets are subscribed after the first resync, given up, and
subscribed again. -/
def subscribedTwice : List Action :=
  [Action.listener, .listener] ++ rounds 6 ++
    [Action.send ⟨.subscribe, [1]⟩, .readCommand] ++ rounds 7 ++
    [Action.send ⟨.unsubscribe, [1]⟩, .readCommand,
      .send ⟨.subscribe, [1]⟩, .readCommand] ++ rounds 6

theorem starts_with_snapshot_subscribedTwice : ∃ final,
    run step (.init seededDb) subscribedTwice = some final ∧
      StartsWithSnapshot final.log :=
  ⟨_, rfl, @starts_with_snapshot seededDb subscribedTwice _ (by decide) rfl⟩

/-! ## The first step out of turn -/

/-- The handler needs no other thread to break the promise. -/
def State.BreaksAlone (state : State) : Prop :=
  ∃ count final, run step state (rounds count) = some final ∧
    ¬ StartsWithSnapshot final.log

section OutOfTurn

variable {state next : State} {row : ProductStockRow}

theorem State.BreaksAlone.of_step (hbreaks : next.BreaksAlone)
    (hstep : step state .generator = some next) : state.BreaksAlone := by
  obtain ⟨count, final, hrun, hbroken⟩ := hbreaks
  refine ⟨count + 1, final, ?_, hbroken⟩
  rw [rounds, List.replicate_succ, run_cons, hstep]
  exact hrun

/-- A row that goes first leaves the other one due, unless it is sent for the
same product. -/
theorem State.Overtakes.yieldRow (hovertakes : state.Overtakes row)
    {head : ProductStockRow} (hhead : head.productId = row.productId →
      state.lastSeen head.productId = some head.availableQuantity) :
    (state.yieldRow head false).Overtakes row := by
  rw [State.yieldRow]
  split_ifs with hskip
  · exact hovertakes
  · have hother : head.productId ≠ row.productId := fun hsame =>
      hskip ⟨rfl, hhead hsame⟩
    refine ⟨(if_neg hother).trans hovertakes.1, fun hseen => ?_⟩
    exact hovertakes.2
      ((Function.update_of_ne (Ne.symm hother) _ _).symm.trans hseen)

/-- A row that overtakes will be sent. -/
theorem State.Overtakes.breaksAlone {rows : List ProductStockRow}
    (hovertakes : state.Overtakes row)
    (hgenerator : state.generator = .yielding rows false) (hrow : row ∈ rows) :
    state.BreaksAlone := by
  induction rows generalizing state with
  | nil => exact absurd hrow List.not_mem_nil
  | cons head rows ih =>
      have hstep : step state .generator = some ((state.yieldRow head
          false).goto (.yielding rows false)) := by
        rw [step, stepGenerator, hgenerator]
      refine State.BreaksAlone.of_step ?_ hstep
      by_cases hhead : head.productId = row.productId →
          state.lastSeen head.productId = some head.availableQuantity
      · have hrest : row ∈ rows := by
          rcases List.mem_cons.mp hrow with rfl | hrest
          · exact absurd (hhead rfl) hovertakes.2
          · exact hrest
        have hlater : ((state.yieldRow head false).goto
            (.yielding rows false)).Overtakes row :=
          hovertakes.yieldRow hhead
        exact ih hlater rfl hrest
      · rw [Classical.not_imp] at hhead
        obtain ⟨hsame, hnew⟩ := hhead
        have hsent : (state.yieldRow head false).log =
            .sent (update head false) :: state.log := by
          rw [State.yieldRow, if_neg fun hskip => hnew hskip.2]
        refine ⟨0, _, rfl, fun hstarts => ?_⟩
        apply hstarts.first _ List.suffix_rfl row.productId
        rw [State.goto, hsent, subscription]
        refine (if_pos hsame).trans ?_
        rw [hovertakes.1]
        rfl

/-- After the first step out of turn a CHANGED is sent first, if the other
threads leave it at that. -/
theorem breaksAlone_of_out_of_turn {db : InventoryDb} {schedule : List Action}
    (hturn : Along step InTurn (.init db) schedule)
    (hrun : run step (.init db) schedule = some state) {action : Action}
    (hstep : step state action = some next) (hout : ¬ InTurn state action) :
    next.BreaksAlone := by
  have horder : InOrder state :=
    run_invariant_along
      (fun _ _ _ horder hallowed hstep => horder.step hallowed hstep)
      (.init db) hturn hrun
  cases action with
  | generator =>
      simp only [InTurn, not_forall, not_not] at hout
      obtain ⟨row, hrow, hovertakes⟩ := hout
      obtain ⟨watched, hgenerator⟩ :
          ∃ watched, state.generator = .fetching watched false := by
        cases hgenerator : state.generator with
        | fetching watched snapshot =>
            cases snapshot with
            | false => exact ⟨watched, rfl⟩
            | true => simp [hgenerator, Generator.rereads, fetchStock] at hrow
        | _ => simp [hgenerator, Generator.rereads, fetchStock] at hrow
      rw [hgenerator] at hrow
      rw [step, stepGenerator, hgenerator] at hstep
      cases hstep
      have hnext : (state.goto (.yielding
          (fetchStock state.db watched) false)).Overtakes row := hovertakes
      exact hnext.breaksAlone rfl hrow
  | readCommand =>
      simp only [InTurn, Classical.not_imp, not_forall] at hout
      obtain ⟨row, hrow, hnamed, hunwatched, hnew⟩ := hout
      obtain ⟨rows, hgenerator⟩ :
          ∃ rows, state.generator = .yielding rows false := by
        cases hgenerator : state.generator with
        | yielding rows snapshot =>
            cases snapshot with
            | false => exact ⟨rows, rfl⟩
            | true => simp [hgenerator, Generator.changedRows] at hrow
        | _ => simp [hgenerator, Generator.changedRows] at hrow
      obtain ⟨productIds, requests, hrequests, hnamed⟩ :=
        State.exists_of_mem_subscribesNext hnamed
      rw [step, stepReadCommand, hrequests] at hstep
      simp only [Option.ite_none_right_eq_some] at hstep
      obtain ⟨_, hnext⟩ := hstep
      rw [hgenerator] at hrow
      have hbefore := (horder.watched row.productId).mpr hunwatched
      have hovertakes : next.Overtakes row := by
        cases hnext
        refine ⟨(if_pos hnamed).trans ?_, hnew⟩
        rw [hbefore]
        rfl
      refine hovertakes.breaksAlone ?_ hrow
      cases hnext
      exact hgenerator
  | _ => exact absurd trivial hout

end OutOfTurn

end OrderFlow.Inventory.Watch
