import OrderFlow.Inventory.Feasibility
import OrderFlow.Inventory.Watch

/-!
# WatchStock loses no update

Whenever a call has come to rest, the last update of every watched product
carries its committed quantity.  The invariant says who makes good for a
difference: the listener that has not reported it yet, a marker in the queue,
or a read that the handler has begun.
-/

namespace OrderFlow.Inventory.Watch

open TransitionSystem

/-! ## Reading the log -/

/-- The update of the product, if the entry is one. -/
def Entry.update? (productId : ℤ) : Entry → Option StockUpdate
  | .sent update => if update.productId = productId then some update else none
  | _ => none

/-- A SUBSCRIBE that names the product was applied. -/
def Entry.Subscribes (productId : ℤ) : Entry → Prop
  | .applied command =>
      command.action = .subscribe ∧ productId ∈ command.productIds
  | _ => False

instance (productId : ℤ) : DecidablePred (Entry.Subscribes productId)
  | .applied command => inferInstanceAs (Decidable
      (command.action = .subscribe ∧ productId ∈ command.productIds))
  | .committed _ | .selected _ | .sent _ => isFalse id

/-- The most recent update sent for the product. -/
def lastUpdate? (productId : ℤ) (log : List Entry) : Option StockUpdate :=
  log.findSome? (Entry.update? productId)

/-- What happened since the last SUBSCRIBE naming the product. -/
def sinceSubscribe (productId : ℤ) (log : List Entry) : List Entry :=
  log.takeWhile fun entry => ¬ entry.Subscribes productId

/-- An update was sent since the last SUBSCRIBE naming the product. -/
def Greeted (productId : ℤ) (log : List Entry) : Prop :=
  (lastUpdate? productId (sinceSubscribe productId log)).isSome

section Log

variable {productId : ℤ} {entry : Entry} {log : List Entry}

theorem lastUpdate?_cons_none (hentry : entry.update? productId = none) :
    lastUpdate? productId (entry :: log) = lastUpdate? productId log := by
  rw [lastUpdate?, List.findSome?_cons, hentry, lastUpdate?]

theorem lastUpdate?_cons_some {sent : StockUpdate}
    (hentry : entry.update? productId = some sent) :
    lastUpdate? productId (entry :: log) = some sent := by
  rw [lastUpdate?, List.findSome?_cons, hentry]

theorem lastUpdate?_sent (sent : StockUpdate) :
    lastUpdate? sent.productId (.sent sent :: log) = some sent :=
  lastUpdate?_cons_some (if_pos rfl)

theorem lastUpdate?_sent_other {sent : StockUpdate}
    (hother : sent.productId ≠ productId) :
    lastUpdate? productId (.sent sent :: log) = lastUpdate? productId log :=
  lastUpdate?_cons_none (if_neg hother)

theorem sinceSubscribe_cons (hentry : ¬ entry.Subscribes productId) :
    sinceSubscribe productId (entry :: log) =
      entry :: sinceSubscribe productId log :=
  List.takeWhile_cons_of_pos (decide_eq_true hentry)

theorem Greeted.cons (hgreeted : Greeted productId log)
    (hentry : ¬ entry.Subscribes productId) :
    Greeted productId (entry :: log) := by
  rw [Greeted, sinceSubscribe_cons hentry]
  cases hupdate : entry.update? productId with
  | none => rwa [lastUpdate?_cons_none hupdate]
  | some sent =>
      rw [lastUpdate?_cons_some hupdate]
      rfl

theorem greeted_sent (sent : StockUpdate) :
    Greeted sent.productId (.sent sent :: log) := by
  rw [Greeted, sinceSubscribe_cons id, lastUpdate?_sent]
  rfl

end Log

/-! ## The statement -/

/-- Everything that has reached the call is handled. -/
structure Quiescent (state : State) : Prop where
  streamOpen : state.requestsOpen = true
  /-- the listener waits for notifications on a live connection -/
  connected : state.listener = .listening ∧ state.linkUp = true
  requests : state.requests = []
  channel : state.channel = []
  events : state.events = []
  waiting : state.generator = .loopHead ∨ state.generator = .polling

structure UpToDate (state : State) (productId : ℤ) : Prop where
  greeted : Greeted productId state.log
  current : (lastUpdate? productId state.log).map
    StockUpdate.availableQuantity = state.db.available? productId

/-- The product still exists after the action. -/
def Action.Keeps (productId : ℤ) : Action → Prop
  | .commit db _ => (db.available? productId).isSome
  | _ => True

instance (productId : ℤ) : DecidablePred (Action.Keeps productId)
  | .commit db _ => inferInstanceAs (Decidable (db.available? productId).isSome)
  | .send _ | .halfClose | .cancel | .dropLink | .readCommand | .endReader
  | .listener | .loseConnection | .endListener | .generator | .timeout
  | .failFetch | .abandon => isTrue trivial

/-! ## Who owes a read -/

/-- The first look at the product after a SUBSCRIBE is still to come. -/
def State.SnapshotQueued (state : State) (productId : ℤ) : Prop :=
  .snapshot ∈ state.events ∧ productId ∈ state.newlyAdded

/-- The handler is about to read the product, if it is watched. -/
def State.Reading (state : State) (productId : ℤ) : Prop :=
  match state.generator with
  | .takingFresh => productId ∈ state.newlyAdded
  | .takingWatched => True
  | .selecting ids _ => productId ∈ ids
  | .fetching watched _ => productId ∈ watched
  | .closed => True
  | .loopHead | .polling | .yielding _ _ => False

/-- Somebody will have the product read, if it is watched. -/
inductive State.Owed (state : State) (productId : ℤ) : Prop where
  /-- the listener asks for everything when it is back -/
  | down (hdown : state.linkUp = false)
  | connected (hlistener : state.listener = .connected)
  | notified (hchannel : productId ∈ state.channel)
  | received (hlistener : state.listener = .received productId)
  | watched (hlistener : state.listener = .watched productId)
  | resync (hevents : .resync ∈ state.events)
  | changed (hevents : .changed productId ∈ state.events)
  | snapshot (hqueued : state.SnapshotQueued productId)
  | reading (hreading : state.Reading productId)

/-- After the rows at hand are yielded the last value sent is `available`. -/
def State.Shows (state : State) (productId available : ℤ) : Prop :=
  match state.generator with
  | .yielding rows _ =>
      (∀ row ∈ rows, row.productId = productId →
        row.availableQuantity = available) ∧
        ((∃ row ∈ rows, row.productId = productId) ∨
          state.lastSeen productId = some available)
  | _ => state.lastSeen productId = some available

/-- The handler is about to yield a SNAPSHOT of the product. -/
def State.Greeting (state : State) (productId : ℤ) : Prop :=
  match state.generator with
  | .takingFresh => productId ∈ state.newlyAdded
  | .selecting ids snapshot => snapshot = true ∧ productId ∈ ids
  | .fetching watched snapshot => snapshot = true ∧ productId ∈ watched
  | .yielding rows snapshot =>
      snapshot = true ∧ ∃ row ∈ rows, row.productId = productId
  | .closed => True
  | .loopHead | .polling | .takingWatched => False

/-- Differences between the table and the last update are accounted for. -/
structure Tracked (productId : ℤ) (state : State) : Prop where
  ids : (state.db.products.map Product.id).Nodup
  known : (state.db.available? productId).isSome
  seen : state.lastSeen productId =
    (lastUpdate? productId state.log).map StockUpdate.availableQuantity
  current : productId ∈ state.watchSet → state.Owed productId ∨
    ∀ available, state.db.available? productId = some available →
      state.Shows productId available
  greeted : productId ∈ state.watchSet → state.SnapshotQueued productId ∨
    state.Greeting productId ∨ Greeted productId state.log

/-- A product whose quantity differs before and after is announced. -/
theorem Announced.mem_notices {before after : InventoryDb}
    {notices : List ℤ} (hannounced : Announced before after notices)
    {productId : ℤ} (hbefore : (before.available? productId).isSome)
    (hafter : (after.available? productId).isSome)
    (hchanged : after.available? productId ≠ before.available? productId) :
    productId ∈ notices := by
  obtain ⟨wasAvailable, hwas⟩ := Option.isSome_iff_exists.mp hbefore
  obtain ⟨isAvailable, his⟩ := Option.isSome_iff_exists.mp hafter
  obtain ⟨old, hfoundOld, rfl⟩ := Option.map_eq_some_iff.mp hwas
  obtain ⟨new, hfoundNew, rfl⟩ := Option.map_eq_some_iff.mp his
  obtain ⟨hold, hidOld⟩ := InventoryDb.product?_eq_some hfoundOld
  obtain ⟨hnew, rfl⟩ := InventoryDb.product?_eq_some hfoundNew
  refine hannounced old hold new hnew hidOld.symm fun hequal => ?_
  exact hchanged (his.trans ((congrArg some hequal).trans hwas.symm))

/-! ## One step of each thread -/

section Steps

variable {productId : ℤ} {state next : State}

/-- What is owed stays owed while the listener and the queue stay as they
are. -/
theorem State.Owed.keep (howed : state.Owed productId)
    (hfeed : next.feed = state.feed)
    (hsnapshot : state.SnapshotQueued productId → next.Owed productId)
    (hreading : state.Reading productId → next.Owed productId) :
    next.Owed productId := by
  simp only [State.feed, Prod.mk.injEq] at hfeed
  obtain ⟨hevents, hlistener, hlink, hchannel⟩ := hfeed
  cases howed with
  | down hdown => exact .down (hlink ▸ hdown)
  | connected hconnected => exact .connected (hlistener ▸ hconnected)
  | notified hnotified => exact .notified (hchannel ▸ hnotified)
  | received hreceived => exact .received (hlistener ▸ hreceived)
  | watched hwatched => exact .watched (hlistener ▸ hwatched)
  | resync hresync => exact .resync (hevents ▸ hresync)
  | changed hchanged => exact .changed (hevents ▸ hchanged)
  | snapshot hqueued => exact hsnapshot hqueued
  | reading hread => exact hreading hread

theorem State.Owed.goOn (howed : state.Owed productId)
    (hfeed : next.feed = state.feed)
    (hnew : next.newlyAdded = state.newlyAdded)
    (hreading : state.Reading productId → next.Owed productId) :
    next.Owed productId := by
  have hevents : next.events = state.events := congrArg Prod.fst hfeed
  exact howed.keep hfeed
    (fun hqueued => .snapshot ⟨hevents ▸ hqueued.1, hnew ▸ hqueued.2⟩) hreading

/-- A step outside the handler, the reader and the database. -/
theorem Tracked.frame (htracked : Tracked productId state)
    (hcore : next.core = state.core)
    (hsnapshot : .snapshot ∈ state.events → .snapshot ∈ next.events)
    (howed : productId ∈ state.watchSet → state.Owed productId →
      next.Owed productId) :
    Tracked productId next := by
  simp only [State.core, Prod.mk.injEq] at hcore
  obtain ⟨hdb, hseen, hlog, hwatch, hnew, hgenerator⟩ := hcore
  constructor
  · rw [hdb]
    exact htracked.ids
  · rw [hdb]
    exact htracked.known
  · rw [hseen, hlog]
    exact htracked.seen
  · rw [hwatch]
    intro hwatched
    refine (htracked.current hwatched).imp (howed hwatched) fun hshows => ?_
    simpa only [State.Shows, hdb, hgenerator, hseen] using hshows
  · rw [hwatch, hlog]
    intro hwatched
    refine (htracked.greeted hwatched).imp (fun hqueued => ?_)
      (Or.imp_left fun hgreeting => ?_)
    · exact ⟨hsnapshot hqueued.1, hnew ▸ hqueued.2⟩
    · simpa only [State.Greeting, hgenerator, hnew] using hgreeting

/-- A marker is put behind what is in the queue. -/
theorem State.Owed.queue (howed : state.Owed productId)
    {listener : Listener} {marker : Marker}
    (hlistener : ∀ held, state.listener = held →
      held = .connected ∨ held = .received productId ∨
        held = .watched productId →
          marker = .resync ∨ marker = .changed productId) :
    ({ state with
      listener := listener
      events := state.events ++ [marker] } : State).Owed productId := by
  have hmarker : marker = .resync ∨ marker = .changed productId →
      ({ state with
        listener := listener
        events := state.events ++ [marker] } : State).Owed productId := by
    rintro (rfl | rfl)
    · exact .resync (by simp)
    · exact .changed (by simp)
  cases howed with
  | down hdown => exact .down hdown
  | connected hheld => exact hmarker (hlistener _ hheld (.inl rfl))
  | notified hchannel => exact .notified hchannel
  | received hheld => exact hmarker (hlistener _ hheld (.inr (.inl rfl)))
  | watched hheld => exact hmarker (hlistener _ hheld (.inr (.inr rfl)))
  | resync hevents => exact .resync (List.mem_append_left _ hevents)
  | changed hevents => exact .changed (List.mem_append_left _ hevents)
  | snapshot hqueued =>
      exact .snapshot ⟨List.mem_append_left _ hqueued.1, hqueued.2⟩
  | reading hreading => exact .reading hreading

/-- A step of the listener thread passes on what it owes. -/
theorem Tracked.stepListener (htracked : Tracked productId state)
    (hstep : stepListener state = some next) : Tracked productId next := by
  rw [Watch.stepListener] at hstep
  cases hlistener : state.listener with
  | disconnected =>
      rw [hlistener] at hstep
      cases hstep
      exact htracked.frame rfl id fun _ _ => .connected rfl
  | connected =>
      rw [hlistener] at hstep
      cases hstep
      exact htracked.frame rfl (List.mem_append_left _) fun _ howed =>
        howed.queue fun _ _ _ => .inl rfl
  | listening =>
      rw [hlistener] at hstep
      cases hchannel : state.channel with
      | nil => simp [hchannel] at hstep
      | cons received channel =>
          rw [hchannel] at hstep
          cases hstep
          refine htracked.frame rfl id fun _ howed => ?_
          cases howed with
          | down hdown => exact .down hdown
          | notified hnotified =>
              rw [hchannel] at hnotified
              rcases List.mem_cons.mp hnotified with rfl | hlater
              · exact .received rfl
              · exact .notified hlater
          | connected hheld | received hheld | watched hheld =>
              cases hlistener.symm.trans hheld
          | resync hevents => exact .resync hevents
          | changed hevents => exact .changed hevents
          | snapshot hqueued => exact .snapshot hqueued
          | reading hreading => exact .reading hreading
  | received received =>
      rw [hlistener] at hstep
      cases hstep
      refine htracked.frame rfl id fun hwatched howed => ?_
      cases howed with
      | down hdown => exact .down hdown
      | notified hchannel => exact .notified hchannel
      | received hheld =>
          cases hlistener.symm.trans hheld
          exact .watched (if_pos hwatched)
      | connected hheld | watched hheld => cases hlistener.symm.trans hheld
      | resync hevents => exact .resync hevents
      | changed hevents => exact .changed hevents
      | snapshot hqueued => exact .snapshot hqueued
      | reading hreading => exact .reading hreading
  | watched watched =>
      rw [hlistener] at hstep
      cases hstep
      refine htracked.frame rfl (List.mem_append_left _) fun _ howed =>
        howed.queue fun held hheld howes => .inr ?_
      cases hlistener.symm.trans hheld
      simpa [eq_comm] using howes
  | stopped =>
      rw [hlistener] at hstep
      cases hstep

/-- A commit that changes the product is announced, or the listener is down and
will ask for everything. -/
theorem Tracked.commit (htracked : Tracked productId state)
    {db : InventoryDb} {notices : List ℤ}
    (hids : (db.products.map Product.id).Nodup)
    (hannounced : Announced state.db db notices)
    (hknown : (db.available? productId).isSome) :
    Tracked productId (state.commit db notices) where
  ids := hids
  known := hknown
  seen := htracked.seen
  current hwatched := by
    by_cases hsame : db.available? productId = state.db.available? productId
    · refine (htracked.current hwatched).imp (fun howed => ?_)
        fun hshows available hafter => hshows available (hsame ▸ hafter)
      cases howed with
      | down hdown => exact .down hdown
      | connected hlistener => exact .connected hlistener
      | notified hchannel =>
          refine .notified ?_
          rw [State.commit]
          split_ifs
          · exact List.mem_append_left _ hchannel
          · exact hchannel
      | received hlistener => exact .received hlistener
      | watched hlistener => exact .watched hlistener
      | resync hevents => exact .resync hevents
      | changed hevents => exact .changed hevents
      | snapshot hqueued => exact .snapshot hqueued
      | reading hreading => exact .reading hreading
    · refine .inl ?_
      cases hup : state.linkUp with
      | false => exact .down hup
      | true =>
          have hnotice := hannounced.mem_notices htracked.known hknown hsame
          exact .notified (by simp [State.commit, hup, hnotice])
  greeted hwatched :=
    (htracked.greeted hwatched).imp_right (Or.imp_right fun hgreeted =>
      hgreeted.cons id)

/-- A command that does not subscribe the product. -/
theorem Tracked.applied (htracked : Tracked productId state)
    {command : WatchCommand}
    (hother : ¬ (Entry.applied command).Subscribes productId)
    {watchSet newlyAdded : Finset ℤ} {events : List Marker}
    (hwatch : productId ∈ watchSet → productId ∈ state.watchSet)
    (hnew : productId ∈ watchSet → productId ∈ state.newlyAdded →
      productId ∈ newlyAdded)
    (hevents : ∀ marker ∈ state.events, marker ∈ events) :
    Tracked productId { state with
      watchSet := watchSet
      newlyAdded := newlyAdded
      events := events
      log := .applied command :: state.log } where
  ids := htracked.ids
  known := htracked.known
  seen := htracked.seen
  current hwatched := by
    refine (htracked.current (hwatch hwatched)).imp_left fun howed => ?_
    cases howed with
    | down hdown => exact .down hdown
    | connected hlistener => exact .connected hlistener
    | notified hchannel => exact .notified hchannel
    | received hlistener => exact .received hlistener
    | watched hlistener => exact .watched hlistener
    | resync hresync => exact .resync (hevents _ hresync)
    | changed hchanged => exact .changed (hevents _ hchanged)
    | snapshot hqueued =>
        exact .snapshot ⟨hevents _ hqueued.1, hnew hwatched hqueued.2⟩
    | reading hreading =>
        refine .reading ?_
        revert hreading
        cases hgenerator : state.generator with
        | takingFresh =>
            simpa only [State.Reading, hgenerator] using hnew hwatched
        | _ => simp only [State.Reading, hgenerator, imp_self]
  greeted hwatched := by
    rcases htracked.greeted (hwatch hwatched) with
      hqueued | hgreeting | hgreeted
    · exact .inl ⟨hevents _ hqueued.1, hnew hwatched hqueued.2⟩
    · refine .inr (.inl ?_)
      revert hgreeting
      cases hgenerator : state.generator with
      | takingFresh =>
          simpa only [State.Greeting, hgenerator] using hnew hwatched
      | _ => simp only [State.Greeting, hgenerator, imp_self]
    · exact .inr (.inr (hgreeted.cons hother))

/-- A SUBSCRIBE queues the look at the products it adds. -/
theorem Tracked.applyCommand (htracked : Tracked productId state)
    (command : WatchCommand) :
    Tracked productId (state.applyCommand command) := by
  rw [State.applyCommand]
  cases haction : command.action with
  | subscribe =>
      by_cases hnamed : productId ∈ command.productIds
      · have hqueued : State.SnapshotQueued { state with
            newlyAdded := state.newlyAdded ∪ command.productIds.toFinset
            events := state.events ++ [.snapshot] } productId := by
          simp [State.SnapshotQueued, hnamed]
        exact ⟨htracked.ids, htracked.known, htracked.seen,
          fun _ => .inl (.snapshot hqueued), fun _ => .inl hqueued⟩
      · refine htracked.applied (fun hsubscribes => hnamed hsubscribes.2)
          (fun hwatched => ?_) (fun _ => Finset.mem_union_left _)
          fun _ => List.mem_append_left _
        simpa [hnamed] using hwatched
  | unsubscribe =>
      have hother : ¬ (Entry.applied command).Subscribes productId :=
        fun hsubscribes =>
          CommandAction.noConfusion (haction.symm.trans hsubscribes.1)
      exact htracked.applied hother
        (fun hwatched => (Finset.mem_sdiff.mp hwatched).1)
        (fun hwatched hadded => Finset.mem_sdiff.mpr
          ⟨hadded, (Finset.mem_sdiff.mp hwatched).2⟩) fun _ => id

/-! ## The handler -/

/-- A handler that has ended owes everything for good. -/
theorem Tracked.close (htracked : Tracked productId state) :
    Tracked productId state.close :=
  ⟨htracked.ids, htracked.known, htracked.seen,
    fun _ => .inl (.reading trivial), fun _ => .inr (.inl trivial)⟩

/-- Between two markers nothing is read and nothing is at hand. -/
theorem Tracked.rest (htracked : Tracked productId state)
    (hshows : ∀ available, state.Shows productId available →
      state.lastSeen productId = some available)
    (hreading : ¬ state.Reading productId)
    (hgreeting : ¬ state.Greeting productId) {after : Generator}
    (hafter : after = .loopHead ∨ after = .polling) :
    Tracked productId (state.goto after) := by
  refine ⟨htracked.ids, htracked.known, htracked.seen, fun hwatched => ?_,
    fun hwatched => ?_⟩
  · refine (htracked.current hwatched).imp (fun howed => ?_)
      fun hshown available havailable => ?_
    · exact howed.goOn rfl rfl fun hread => absurd hread hreading
    · have hseen := hshows available (hshown available havailable)
      rcases hafter with rfl | rfl <;> exact hseen
  · exact (htracked.greeted hwatched).imp_right (Or.imp_left
      fun hgreets => absurd hgreets hgreeting)

/-- A marker that is taken from the queue is handled next. -/
theorem Tracked.get (htracked : Tracked productId state)
    (hgenerator : state.generator = .polling) {marker : Marker}
    {events : List Marker} (hevents : state.events = marker :: events) :
    Tracked productId
      ({ state with events := events }.goto marker.handler) := by
  have hhead {wanted : Marker} (hwanted : wanted ∈ state.events) :
      wanted = marker ∨ wanted ∈ events := by
    rwa [hevents, List.mem_cons] at hwanted
  refine ⟨htracked.ids, htracked.known, htracked.seen, fun hwatched => ?_,
    fun hwatched => ?_⟩
  · rcases htracked.current hwatched with howed | hshows
    · refine .inl ?_
      cases howed with
      | down hdown => exact .down hdown
      | connected hlistener => exact .connected hlistener
      | notified hchannel => exact .notified hchannel
      | received hlistener => exact .received hlistener
      | watched hlistener => exact .watched hlistener
      | resync hresync =>
          rcases hhead hresync with rfl | hlater
          · exact .reading trivial
          · exact .resync hlater
      | changed hchanged =>
          rcases hhead hchanged with rfl | hlater
          · exact .reading (Finset.mem_singleton_self productId)
          · exact .changed hlater
      | snapshot hqueued =>
          rcases hhead hqueued.1 with rfl | hlater
          · exact .reading hqueued.2
          · exact .snapshot ⟨hlater, hqueued.2⟩
      | reading hreading => simp [State.Reading, hgenerator] at hreading
    · refine .inr fun available havailable => ?_
      have hseen := hshows available havailable
      simp only [State.Shows, hgenerator] at hseen
      cases marker <;> exact hseen
  · rcases htracked.greeted hwatched with hqueued | hgreeting | hgreeted
    · rcases hhead hqueued.1 with rfl | hlater
      · exact .inr (.inl hqueued.2)
      · exact .inl ⟨hlater, hqueued.2⟩
    · simp [State.Greeting, hgenerator] at hgreeting
    · exact .inr (.inr hgreeted)

/-- `newly_added` is taken over as a whole. -/
theorem Tracked.takeFresh (htracked : Tracked productId state)
    (hgenerator : state.generator = .takingFresh) :
    Tracked productId ({ state with newlyAdded := ∅ }.goto
      (.selecting state.newlyAdded true)) := by
  refine ⟨htracked.ids, htracked.known, htracked.seen, fun hwatched => ?_,
    fun hwatched => ?_⟩
  · refine (htracked.current hwatched).imp (fun howed => ?_) fun hshows => ?_
    · refine howed.keep rfl (fun hqueued => .reading hqueued.2)
        fun hreading => ?_
      simp only [State.Reading, hgenerator] at hreading
      exact .reading hreading
    · simp only [State.Shows, hgenerator] at hshows
      exact hshows
  · rcases htracked.greeted hwatched with hqueued | hgreeting | hgreeted
    · exact .inr (.inl ⟨rfl, hqueued.2⟩)
    · simp only [State.Greeting, hgenerator] at hgreeting
      exact .inr (.inl ⟨rfl, hgreeting⟩)
    · exact .inr (.inr hgreeted)

/-- A resync looks at the whole watch set. -/
theorem Tracked.takeWatched (htracked : Tracked productId state)
    (hgenerator : state.generator = .takingWatched) :
    Tracked productId (state.goto (.selecting state.watchSet false)) := by
  refine ⟨htracked.ids, htracked.known, htracked.seen,
    fun hwatched => .inl (.reading hwatched), fun hwatched => ?_⟩
  refine (htracked.greeted hwatched).imp_right (Or.imp_left fun hgreeting => ?_)
  simp [State.Greeting, hgenerator] at hgreeting

/-- A watched product passes the lock section of `_rows`. -/
theorem Tracked.select (htracked : Tracked productId state)
    {ids : Finset ℤ} {snapshot : Bool}
    (hgenerator : state.generator = .selecting ids snapshot) :
    Tracked productId ({ state with
        log := .selected (state.watchSet ∩ ids) :: state.log }.goto
      (.fetching (state.watchSet ∩ ids) snapshot)) := by
  refine ⟨htracked.ids, htracked.known, htracked.seen, fun hwatched => ?_,
    fun hwatched => ?_⟩
  · refine (htracked.current hwatched).imp (fun howed => ?_) fun hshows => ?_
    · refine howed.goOn rfl rfl fun hreading => ?_
      simp only [State.Reading, hgenerator] at hreading
      exact .reading (Finset.mem_inter.mpr ⟨hwatched, hreading⟩)
    · simp only [State.Shows, hgenerator] at hshows
      exact hshows
  · rcases htracked.greeted hwatched with hqueued | hgreeting | hgreeted
    · exact .inl hqueued
    · simp only [State.Greeting, hgenerator] at hgreeting
      exact .inr (.inl ⟨hgreeting.1,
        Finset.mem_inter.mpr ⟨hwatched, hgreeting.2⟩⟩)
    · exact .inr (.inr (hgreeted.cons id))

/-- The rows that are read are up to date. -/
theorem Tracked.fetch (htracked : Tracked productId state)
    {watched : Finset ℤ} {snapshot : Bool}
    (hgenerator : state.generator = .fetching watched snapshot) :
    Tracked productId
      (state.goto (.yielding (fetchStock state.db watched) snapshot)) := by
  obtain ⟨known, hknown⟩ := Option.isSome_iff_exists.mp htracked.known
  have hrows : ∀ available, state.db.available? productId = some available →
      ∀ row ∈ fetchStock state.db watched, row.productId = productId →
        row.availableQuantity = available := by
    rintro available havailable row hrow rfl
    exact Option.some.inj
      ((available?_of_mem_fetchStock htracked.ids hrow).symm.trans havailable)
  refine ⟨htracked.ids, htracked.known, htracked.seen, fun hwatched => ?_,
    fun hwatched => ?_⟩
  · by_cases hread : productId ∈ watched
    · exact .inr fun available havailable => ⟨hrows available havailable,
        .inl (exists_mem_fetchStock hread hknown)⟩
    · refine (htracked.current hwatched).imp (fun howed => ?_) fun hshows => ?_
      · refine howed.goOn rfl rfl fun hreading => ?_
        simp only [State.Reading, hgenerator] at hreading
        exact absurd hreading hread
      · simp only [State.Shows, hgenerator] at hshows
        exact fun available havailable => ⟨hrows available havailable,
          .inr (hshows available havailable)⟩
  · rcases htracked.greeted hwatched with hqueued | hgreeting | hgreeted
    · exact .inl hqueued
    · simp only [State.Greeting, hgenerator] at hgreeting
      exact .inr (.inl ⟨hgreeting.1,
        exists_mem_fetchStock hgreeting.2 hknown⟩)
    · exact .inr (.inr hgreeted)

/-- A row is left out when its quantity is the last one seen. -/
theorem Tracked.skipRow (htracked : Tracked productId state)
    {row : ProductStockRow} {rows : List ProductStockRow} {snapshot : Bool}
    (hgenerator : state.generator = .yielding (row :: rows) snapshot)
    (hskip : snapshot = false ∧
      state.lastSeen row.productId = some row.availableQuantity) :
    Tracked productId (state.goto (.yielding rows snapshot)) := by
  refine ⟨htracked.ids, htracked.known, htracked.seen, fun hwatched => ?_,
    fun hwatched => ?_⟩
  · refine (htracked.current hwatched).imp (fun howed => ?_)
      fun hshows available havailable => ?_
    · refine howed.goOn rfl rfl fun hreading => ?_
      simp [State.Reading, hgenerator] at hreading
    · have hrows := hshows available havailable
      simp only [State.Shows, hgenerator, List.forall_mem_cons,
        List.exists_mem_cons_iff] at hrows
      obtain ⟨⟨hown, hrest⟩, (hrow | hlater) | hseen⟩ := hrows
      · subst hrow
        exact ⟨hrest, .inr (hskip.2.trans (congrArg some (hown rfl)))⟩
      · exact ⟨hrest, .inl hlater⟩
      · exact ⟨hrest, .inr hseen⟩
  · rcases htracked.greeted hwatched with hqueued | hgreeting | hgreeted
    · exact .inl hqueued
    · simp [State.Greeting, hgenerator, hskip.1] at hgreeting
    · exact .inr (.inr hgreeted)

/-- What is sent is what is remembered. -/
theorem Tracked.sendRow (htracked : Tracked productId state)
    {row : ProductStockRow} {rows : List ProductStockRow} {snapshot : Bool}
    (hgenerator : state.generator = .yielding (row :: rows) snapshot) :
    Tracked productId ({ state with
        lastSeen := Function.update state.lastSeen row.productId
          (some row.availableQuantity)
        log := .sent (update row snapshot) :: state.log }.goto
      (.yielding rows snapshot)) := by
  refine ⟨htracked.ids, htracked.known, ?_, fun hwatched => ?_,
    fun hwatched => ?_⟩
  · by_cases hrow : row.productId = productId
    · subst hrow
      exact (Function.update_self _ _ _).trans
        (congrArg (Option.map StockUpdate.availableQuantity)
          (lastUpdate?_sent (update row snapshot))).symm
    · have hother : (update row snapshot).productId ≠ productId := hrow
      exact (Function.update_of_ne (Ne.symm hrow) _ _).trans
        (htracked.seen.trans
          (congrArg _ (lastUpdate?_sent_other hother).symm))
  · refine (htracked.current hwatched).imp (fun howed => ?_)
      fun hshows available havailable => ?_
    · refine howed.goOn rfl rfl fun hreading => ?_
      simp [State.Reading, hgenerator] at hreading
    · have hrows := hshows available havailable
      simp only [State.Shows, hgenerator, List.forall_mem_cons,
        List.exists_mem_cons_iff] at hrows
      obtain ⟨⟨hown, hrest⟩, hshown⟩ := hrows
      refine ⟨hrest, ?_⟩
      by_cases hrow : row.productId = productId
      · subst hrow
        exact .inr ((Function.update_self _ _ _).trans
          (congrArg some (hown rfl)))
      · exact hshown.imp (fun hexists => hexists.resolve_left hrow)
          (Function.update_of_ne (Ne.symm hrow) _ _).trans
  · by_cases hrow : row.productId = productId
    · subst hrow
      exact .inr (.inr (greeted_sent (update row snapshot)))
    · rcases htracked.greeted hwatched with hqueued | hgreeting | hgreeted
      · exact .inl hqueued
      · simp only [State.Greeting, hgenerator, List.exists_mem_cons_iff]
          at hgreeting
        exact .inr (.inl ⟨hgreeting.1, hgreeting.2.resolve_left hrow⟩)
      · exact .inr (.inr (hgreeted.cons id))

/-- A step of the handler keeps the account. -/
theorem Tracked.handlerStep (htracked : Tracked productId state)
    (hstep : HandlerStep state next) : Tracked productId next := by
  cases hstep with
  | check hgenerator =>
      apply htracked.rest <;>
        simp [State.Shows, State.Reading, State.Greeting, hgenerator]
  | leave => exact htracked.close
  | get hgenerator hevents => exact htracked.get hgenerator hevents
  | takeFresh hgenerator => exact htracked.takeFresh hgenerator
  | takeWatched hgenerator => exact htracked.takeWatched hgenerator
  | select hgenerator => exact htracked.select hgenerator
  | fetch hgenerator => exact htracked.fetch hgenerator
  | done hgenerator =>
      apply htracked.rest <;>
        simp [State.Shows, State.Reading, State.Greeting, hgenerator]
  | skip hgenerator hskip => exact htracked.skipRow hgenerator hskip
  | send hgenerator => exact htracked.sendRow hgenerator

/-- A step of the call keeps the account of a product that goes on existing. -/
theorem Tracked.step (htracked : Tracked productId state) {action : Action}
    (hkeeps : action.Keeps productId) (hstep : step state action = some next) :
    Tracked productId next := by
  cases transition_of_step hstep with
  | client hcore hfeed =>
      have hevents : next.events = state.events := congrArg Prod.fst hfeed
      refine htracked.frame hcore (fun hsnapshot => hevents ▸ hsnapshot)
        fun _ howed => ?_
      simp only [State.core, Prod.mk.injEq] at hcore
      obtain ⟨_, _, _, _, hnew, hgenerator⟩ := hcore
      refine howed.goOn hfeed hnew fun hreading => .reading ?_
      simpa only [State.Reading, hgenerator, hnew] using hreading
  | down hcore hevents hdown =>
      exact htracked.frame hcore (fun hsnapshot => hevents ▸ hsnapshot)
        fun _ _ => .down hdown
  | listener hlistener => exact htracked.stepListener hlistener
  | commit hids hannounced => exact htracked.commit hids hannounced hkeeps
  | readCommand =>
      have hframe {requests : List WatchCommand} :
          Tracked productId { state with requests := requests } :=
        htracked.frame rfl id fun _ howed =>
          howed.goOn rfl rfl fun hreading => .reading hreading
      exact hframe.applyCommand _
  | generator hhandler => exact htracked.handlerStep hhandler
  | timeout hgenerator =>
      apply htracked.rest <;>
        simp [State.Shows, State.Reading, State.Greeting, hgenerator]
  | close => exact htracked.close

end Steps

/-! ## Every run -/

theorem Tracked.init {db : InventoryDb}
    (hids : (db.products.map Product.id).Nodup) {productId : ℤ}
    (hexists : (db.available? productId).isSome) :
    Tracked productId (.init db) where
  ids := hids
  known := hexists
  seen := rfl
  current hwatched := absurd hwatched (Finset.notMem_empty _)
  greeted hwatched := absurd hwatched (Finset.notMem_empty _)

/-- At rest nothing is owed. -/
theorem Quiescent.not_owed {productId : ℤ} {state : State}
    (hquiet : Quiescent state) : ¬ state.Owed productId := by
  intro howed
  obtain ⟨hlistening, hup⟩ := hquiet.connected
  cases howed with
  | down hdown => exact Bool.noConfusion (hup.symm.trans hdown)
  | connected hheld | received hheld | watched hheld =>
      cases hlistening.symm.trans hheld
  | notified hchannel => simp [hquiet.channel] at hchannel
  | resync hevents | changed hevents => simp [hquiet.events] at hevents
  | snapshot hqueued => simp [State.SnapshotQueued, hquiet.events] at hqueued
  | reading hreading =>
      rcases hquiet.waiting with hgenerator | hgenerator <;>
        simp [State.Reading, hgenerator] at hreading

theorem Tracked.upToDate {productId : ℤ} {state : State}
    (htracked : Tracked productId state) (hquiet : Quiescent state)
    (hwatched : productId ∈ state.watchSet) : UpToDate state productId := by
  obtain ⟨available, havailable⟩ :=
    Option.isSome_iff_exists.mp htracked.known
  constructor
  · rcases htracked.greeted hwatched with hqueued | hgreeting | hgreeted
    · exact absurd (.snapshot hqueued) hquiet.not_owed
    · rcases hquiet.waiting with hgenerator | hgenerator <;>
        simp [State.Greeting, hgenerator] at hgreeting
    · exact hgreeted
  · have hshows := (htracked.current hwatched).resolve_left hquiet.not_owed
    have hseen := hshows available havailable
    rw [← htracked.seen, havailable]
    rcases hquiet.waiting with hgenerator | hgenerator <;>
      simpa only [State.Shows, hgenerator] using hseen

/-- Whatever the threads, the client and the database do: when the call has
come to rest, every watched product that existed all the time is up to
date. -/
theorem no_update_lost {db : InventoryDb}
    (hids : (db.products.map Product.id).Nodup)
    {schedule : List Action} {final : State}
    (hrun : run step (.init db) schedule = some final)
    (hquiet : Quiescent final) {productId : ℤ}
    (hwatched : productId ∈ final.watchSet)
    (hexists : (db.available? productId).isSome)
    (hkept : ∀ action ∈ schedule, action.Keeps productId) :
    UpToDate final productId := by
  have htracked : Tracked productId final :=
    run_invariant_along
      (fun _ _ _ htracked hkeeps hstep => htracked.step hkeeps hstep)
      (.init hids hexists) (Along.of_forall hkept _) hrun
  exact htracked.upToDate hquiet hwatched

/-- The transactions of `reserve_stock` and `release_stock` are commits of the
call: the trigger notifies about the products they write, and no product is
removed. -/
theorem step_commit_tx {state : State} {tx : Tx} {notices : List ℤ}
    (hids : (state.db.products.map Product.id).Nodup)
    (hnotices : ∀ productId, tx.writes productId ≠ none →
      productId ∈ notices) :
    step state (.commit (state.db.commit tx) notices) =
        some (state.commit (state.db.commit tx) notices) ∧
      ∀ productId, (state.db.available? productId).isSome →
        (Action.commit (state.db.commit tx) notices).Keeps productId := by
  have hsame : (state.db.commit tx).products.map Product.id =
      state.db.products.map Product.id := by
    rw [InventoryDb.commit, List.map_map]
    rfl
  have hannounced : Announced state.db (state.db.commit tx) notices := by
    intro old hold new hnew hid hchanged
    obtain ⟨product, hproduct, rfl⟩ := List.mem_map.mp hnew
    obtain rfl := List.inj_on_of_nodup_map hids hproduct hold hid
    refine hnotices product.id fun hunwritten => hchanged ?_
    rw [Tx.applyToProduct, hunwritten]
    rfl
  constructor
  · rw [step, if_pos ⟨hsame ▸ hids, hannounced⟩]
  · intro productId hknown
    rw [Action.Keeps, InventoryDb.available?_commit, Tx.available?,
      Option.isSome_map]
    exact hknown

/-- Seven widgets are sold. -/
def afterSale : InventoryDb where
  products :=
    [⟨1, "SKU-WIDGET", "Standard Widget", 93⟩,
      ⟨2, "SKU-GADGET", "Premium Gadget", 50⟩,
      ⟨3, "SKU-GIZMO", "Limited Gizmo", 10⟩]
  reservations := []

/-- Somebody watches the widgets, and the sale is committed while the
connection is down. -/
def soldOffline : List Action :=
  [Action.listener, .listener] ++ rounds 6 ++
    [Action.send ⟨.subscribe, [1]⟩, .readCommand] ++ rounds 7 ++
    [Action.dropLink, .commit afterSale [1], .loseConnection, .listener,
      .listener] ++ rounds 7

theorem no_update_lost_soldOffline :
    ∃ final, run step (.init seededDb) soldOffline = some final ∧
      UpToDate final 1 :=
  ⟨_, rfl, @no_update_lost seededDb (by decide) soldOffline _ rfl
    ⟨rfl, ⟨rfl, rfl⟩, rfl, rfl, rfl, .inl rfl⟩ 1 (by decide) (by decide)
    (by decide)⟩

end OrderFlow.Inventory.Watch
