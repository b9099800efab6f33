import OrderFlow.Inventory.WatchTeardown
import OrderFlow.Orders.BrowserWatch

/-!
# A browser that is gone

When the inbound pump is over, the session can always be taken down: the bridge
cancels the call, the handler leaves its loop, and the listener thread closes
its connection to PostgreSQL.
-/

namespace OrderFlow.Orders.BrowserWatch

open OrderFlow.Inventory (InventoryDb seededDb)
open OrderFlow.Inventory.Live (Leaving Orderly Stopping listenerLeft stepsLeft)
open OrderFlow.Orders.StockWatch
open OrderFlow.TransitionSystem

section Steps

variable {libraries : Libraries} {limit products : ℕ} {state next : State}

/-- Nobody reads the socket any more. -/
structure Gone (products : ℕ) (state : State) : Prop where
  pump : state.bridge.pump ≠ .running
  server : Orderly products state.server

/-- What is left to be taken down. -/
def tearsLeft (products : ℕ) (state : State) : ℕ :=
  (if state.bridge.outbound then 1 else 0) +
    (if state.server.call.active then 1 else 0) +
      stepsLeft products state.server.call.generator +
        listenerLeft state.server

theorem exists_serve {action : Inventory.Live.Action}
    {server : Inventory.Live.State}
    (hserver : Inventory.Live.step limit state.server action = some server) :
    ∃ next, state.serve limit action = some next ∧
      next.bridge = state.bridge ∧ next.server = server :=
  ⟨{ state with
      server := server
      downlink := state.downlink ++
        news state.server.call.log server.call.log },
    by rw [State.serve, hserver]; rfl, rfl, rfl⟩

theorem exists_server {action : Inventory.Live.Action}
    {server : Inventory.Live.State}
    (hserver : Inventory.Live.step limit state.server action = some server)
    (hown : fromClient action = false) :
    ∃ next, step libraries limit state (.server action) = some next ∧
      next.bridge = state.bridge ∧ next.server = server := by
  obtain ⟨next, hserve, hbridge, hnext⟩ := exists_serve hserver
  exact ⟨next, (if_neg (by simp [hown])).trans hserve, hbridge, hnext⟩

/-- The bridge cancels the call. -/
theorem exists_teardown (hgone : Gone products state)
    (houtbound : state.bridge.outbound = true) :
    ∃ action next, step libraries limit state action = some next ∧
      Gone products next ∧ tearsLeft products next < tearsLeft products state := by
  refine ⟨.socket .teardown,
    { state with
      bridge := { state.bridge with outbound := false }
      frames := state.frames ++ []
      uplink := state.uplink ++ [] }, ?_, ⟨hgone.pump, hgone.server⟩, ?_⟩
  · rw [step, Bridge.step, if_neg hgone.pump]
    · rfl
    · intro update hupdate
      cases hupdate
  · simp only [tearsLeft, houtbound]
    simp

/-- The cancellation reaches the call. -/
theorem exists_cancel (hgone : Gone products state)
    (houtbound : state.bridge.outbound = false)
    (hactive : state.server.call.active = true) :
    ∃ action next, step libraries limit state action = some next ∧
      Gone products next ∧ tearsLeft products next < tearsLeft products state := by
  obtain ⟨server, hshare⟩ := Inventory.Live.exists_share limit
    { state.server with
      call := { state.server.call with
        requestsOpen := false
        active := false } }
  have hserver : Inventory.Live.step limit state.server (.call .cancel) =
      some server := hshare
  obtain ⟨next, hserve, hbridge, rfl⟩ := exists_serve hserver
  have hleft := Inventory.Live.listenerLeft_share hshare
  refine ⟨.cancelArrives, next, ?_, ⟨hbridge ▸ hgone.pump,
    hgone.server.step hserver⟩, ?_⟩
  · rw [step, if_neg (by simp [houtbound])]
    exact hserve
  · have hsame : listenerLeft { state.server with
        call := { state.server.call with
          requestsOpen := false
          active := false } } = listenerLeft state.server := rfl
    rw [hsame] at hleft
    rw [tearsLeft, tearsLeft, hbridge, houtbound, hactive,
      (Inventory.Live.share_call hshare).1]
    simp only [Bool.false_eq_true, if_false, if_true]
    omega

/-- The handler goes on with its way out. -/
theorem exists_handling (hgone : Gone products state)
    (hactive : state.server.call.active = false)
    (hopen : state.server.call.generator ≠ .closed) :
    ∃ action next, step libraries limit state action = some next ∧
      Gone products next ∧ tearsLeft products next < tearsLeft products state := by
  obtain ⟨action, server, hhandler, hserver⟩ :=
    @Inventory.Live.exists_handlerAction limit _ hopen
  have hown : fromClient action = false := by
    cases action with
    | call action => cases action <;> first | rfl | cases hhandler
    | _ => rfl
  obtain ⟨next, hnext, hbridge, rfl⟩ :=
    @exists_server libraries limit state _ _ hserver hown
  have hsteps := (Inventory.Live.leaves_of_step hgone.server (.inl hactive)
    hserver).steps
  obtain ⟨hlistener, hstays⟩ :=
    Inventory.Live.handler_frame hhandler hserver
  refine ⟨.server action, next, hnext, ⟨hbridge ▸ hgone.pump,
    hgone.server.step hserver⟩, ?_⟩
  rw [if_pos hhandler] at hsteps
  rw [tearsLeft, tearsLeft, hbridge, hactive, hstays hactive]
  omega

/-- The listener thread goes on with its way out. -/
theorem exists_listening (hgone : Gone products state)
    (hclosed : state.server.call.generator = .closed)
    (hleft : listenerLeft state.server ≠ 0) :
    ∃ action next, step libraries limit state action = some next ∧
      Gone products next ∧ tearsLeft products next < tearsLeft products state := by
  have hstopping : Stopping products state.server :=
    ⟨hgone.server, hgone.server.closed hclosed⟩
  have hrunning : state.server.drain ≠ .ended := by
    intro hended
    apply hleft
    rw [listenerLeft, hended, hgone.server.spent hended]
    rfl
  obtain ⟨action, server, hlistener, hserver⟩ :=
    @Inventory.Live.exists_listenerAction limit _ hrunning
  have hown : fromClient action = false := by
    cases action with
    | call => cases hlistener
    | _ => rfl
  obtain ⟨next, hnext, hbridge, rfl⟩ :=
    @exists_server libraries limit state _ _ hserver hown
  have hlower := (Inventory.Live.stopping_step hstopping hserver).2
  obtain ⟨hgenerator, hactive⟩ :=
    Inventory.Live.listener_frame hlistener hserver
  refine ⟨.server action, next, hnext, ⟨hbridge ▸ hgone.pump,
    hgone.server.step hserver⟩, ?_⟩
  rw [if_pos hlistener] at hlower
  rw [tearsLeft, tearsLeft, hbridge, hgenerator, hactive]
  omega

theorem exists_tear (hgone : Gone products state)
    (hleft : tearsLeft products state ≠ 0) :
    ∃ action next, step libraries limit state action = some next ∧
      Gone products next ∧ tearsLeft products next < tearsLeft products state := by
  cases houtbound : state.bridge.outbound with
  | true => exact exists_teardown hgone houtbound
  | false =>
      cases hactive : state.server.call.active with
      | true => exact exists_cancel hgone houtbound hactive
      | false =>
          by_cases hclosed : state.server.call.generator = .closed
          · refine exists_listening hgone hclosed fun hzero => hleft ?_
            rw [tearsLeft, houtbound, hactive, hclosed, hzero]
            rfl
          · exact exists_handling hgone hactive hclosed

theorem server_of_serve {action : Inventory.Live.Action}
    (hserve : state.serve limit action = some next) :
    Inventory.Live.step limit state.server action = some next.server := by
  obtain ⟨server, hserver, rfl⟩ := Option.map_eq_some_iff.mp hserve
  exact hserver

/-- What happens on this side leaves the other side alone. -/
theorem server_of_step {action : Action}
    (hstep : step libraries limit state action = some next) :
    next.server = state.server ∨ ∃ action,
      Inventory.Live.step limit state.server action = some next.server := by
  cases step_moves hstep with
  | socket | response => exact .inl rfl
  | request _ uplink _ _ hserve =>
      exact .inr ⟨_, @server_of_serve limit { state with uplink := uplink } _ _
        hserve⟩
  | requestsEnd uplink _ _ hserve =>
      exact .inr ⟨_, @server_of_serve limit { state with uplink := uplink } _ _
        hserve⟩
  | cancel _ hserve => exact .inr ⟨_, server_of_serve hserve⟩
  | server _ _ _ hserve => exact .inr ⟨_, server_of_serve hserve⟩

theorem orderly_step {action : Action}
    (horderly : Orderly products state.server)
    (hstep : step libraries limit state action = some next) :
    Orderly products next.server := by
  rcases server_of_step hstep with hsame | ⟨action, hserver⟩
  · rw [hsame]
    exact horderly
  · exact horderly.step hserver

/-- From every state in which nobody reads the socket any more, the session can
be taken down in a number of steps that the table bounds: the call is
cancelled, its handler and its listener thread are over, and no connection to
PostgreSQL is left open. -/
theorem browser_gone_torn_down {db : InventoryDb} {before : List Action}
    (hbefore : run (step libraries limit) (.init db) before = some state)
    (hgone : state.bridge.pump ≠ .running) :
    ∃ after final, after.length ≤ db.products.length + 14 ∧
      run (step libraries limit) state after = some final ∧
      final.bridge.outbound = false ∧
      final.server.call.generator = .closed ∧
      final.server.drain = .ended ∧
      final.server.source.closed = List.range final.server.source.opened := by
  have horderly : Orderly db.products.length state.server :=
    @run_invariant _ _ (step libraries limit)
      (fun other => Orderly db.products.length other.server)
      (fun _ _ _ hkept hstep => orderly_step hkept hstep) _ _ _ (.init db)
      hbefore
  obtain ⟨after, final, hlength, hafter, hfinal, hzero⟩ :=
    @exists_run_to_zero _ _ (step libraries limit) (Gone db.products.length)
      (tearsLeft db.products.length)
      (fun _ hkept hleft => exists_tear hkept hleft) _ ⟨hgone, horderly⟩
  have hbound : tearsLeft db.products.length state ≤
      db.products.length + 14 := by
    have hhandler := Inventory.Live.stepsLeft_le horderly.within
    have hlistener := Inventory.Live.listenerLeft_le state.server
    have hbridge : (if state.bridge.outbound then 1 else 0) ≤ 1 := by
      split_ifs <;> decide
    have hactive : (if state.server.call.active then 1 else 0) ≤ 1 := by
      split_ifs <;> decide
    rw [tearsLeft]
    omega
  rw [tearsLeft] at hzero
  have hclosed := Inventory.Live.closed_of_stepsLeft (by omega :
    stepsLeft db.products.length final.server.call.generator = 0)
  obtain ⟨hended, hover⟩ := Inventory.Live.ended_of_listenerLeft (by omega :
    listenerLeft final.server = 0)
  refine ⟨after, final, hlength.trans hbound, hafter, ?_, hclosed, hended,
    hfinal.server.tidy.allClosed hover⟩
  by_contra houtbound
  rw [if_pos (by simpa using houtbound)] at hzero
  omega

theorem browser_gone_torn_down_widgets : ∃ state after final,
    run (step plain 2) (.init seededDb)
        [.server (.driver .connects), .server (.driver .listens),
          .socket .disconnect] = some state ∧
      state.server.source.phase = .listening 0 ∧
      run (step plain 2) state after = some final ∧ after.length ≤ 17 ∧
      final.server.drain = .ended := by
  have hdown : ∀ state, run (step plain 2) (.init seededDb)
      [.server (.driver .connects), .server (.driver .listens),
        .socket .disconnect] = some state → state.bridge.pump ≠ .running →
      ∃ after final, run (step plain 2) state after = some final ∧
        after.length ≤ 17 ∧ final.server.drain = .ended := by
    intro state hbefore hgone
    obtain ⟨after, final, hlength, hafter, _, _, hended, _⟩ :=
      browser_gone_torn_down hbefore hgone
    exact ⟨after, final, hafter, hlength, hended⟩
  obtain ⟨after, final, hafter, hlength, hended⟩ :=
    hdown _ rfl fun hrunning => Pump.noConfusion hrunning
  exact ⟨_, after, final, rfl, rfl, hafter, hlength, hended⟩

end Steps

end OrderFlow.Orders.BrowserWatch
