import OrderFlow.Orders.CreateOrder

/-!
# Concurrent `create_order` requests

Any number of requests share the two databases, and each await of each of them
is one step.  Every call is answered, and a commit fails exactly when the
primary key is taken.
-/

namespace OrderFlow.Orders.Concurrent

open OrderFlow.Inventory

/-! ## Interleaved requests -/

inductive Session where
  | idle
  | running (request : CreateRequest) (phase : Phase)

structure State where
  world : World
  sessions : ℕ → Session

inductive Action where
  | arrive (session : ℕ) (request : CreateRequest)
  | advance (session : ℕ)

/-- Empty order-db, any catalog, no reservations. -/
def State.init (products : List Product) : State where
  world := ⟨[], ⟨products, []⟩⟩
  sessions := fun _ => .idle

def State.goto (state : State) (number : ℕ) (world : World)
    (session : Session) : State :=
  ⟨world, Function.update state.sessions number session⟩

/-- A request arrives, or one that runs takes its next await. -/
def step (state : State) : Action → Option State
  | .arrive number request =>
      match state.sessions number with
      | .idle =>
          some (state.goto number state.world (.running request .lookup))
      | .running _ _ => none
  | .advance number =>
      match state.sessions number with
      | .idle => none
      | .running _ (.done _) => none
      | .running request phase =>
          let next := Orders.advance request {} state.world phase
          some (state.goto number next.1 (.running request next.2))

@[simp]
theorem State.goto_self (state : State) (number : ℕ) (world : World)
    (session : Session) :
    (state.goto number world session).sessions number = session :=
  Function.update_self ..

theorem State.goto_other (state : State) {number other : ℕ} (world : World)
    (session : Session) (hother : other ≠ number) :
    (state.goto number world session).sessions other =
      state.sessions other :=
  Function.update_of_ne hother ..

/-! ## What a step can do -/

def Session.HoldsFor (key : CharField128) : Session → Prop
  | .idle => False
  | .running request phase => request.orderRef = key ∧ Holds phase

def Carried (state : State) : Prop :=
  ∀ number request phase, state.sessions number = .running request phase →
    Carries request phase

/-- The inversion of `step`. -/
inductive StepCase (state : State) : Action → State → Prop
  | arrive (number : ℕ) (request : CreateRequest)
      (hidle : state.sessions number = .idle) :
      StepCase state (.arrive number request)
        (state.goto number state.world (.running request .lookup))
  /-- an await before the commit that leaves both databases as they are -/
  | quiet (number : ℕ) (request : CreateRequest) (phase next : Phase)
      (hsession : state.sessions number = .running request phase)
      (hbefore : ¬ Holds phase) (hnext : ¬ Holds next)
      (hcarries : Carries request next) :
      StepCase state (.advance number)
        (state.goto number state.world (.running request next))
  | reserved (number : ℕ) (request : CreateRequest)
      (hsession : state.sessions number =
        .running request (.reserve request.message request.order))
      (hsuccess : (reserveStock state.world.inventory
        (request.call state.world.inventory)).2.success = true) :
      StepCase state (.advance number)
        (state.goto number
          ⟨state.world.orders, (reserveStock state.world.inventory
            (request.call state.world.inventory)).1⟩
          (.running request (.persist request.order)))
  | saved (number : ℕ) (request : CreateRequest)
      (hsession : state.sessions number =
        .running request (.persist request.order))
      (hfresh : state.world.orders.get? request.orderRef = none) :
      StepCase state (.advance number)
        (state.goto number
          ⟨state.world.orders ++ [request.order], state.world.inventory⟩
          (.running request (.done (.returned request.order))))
  | contested (number : ℕ) (request : CreateRequest)
      (hsession : state.sessions number =
        .running request (.persist request.order))
      (htaken : state.world.orders.get? request.orderRef ≠ none) :
      StepCase state (.advance number)
        (state.goto number state.world
          (.running request (.rollback request.order)))
  | rolledBack (number : ℕ) (request : CreateRequest)
      (hsession : state.sessions number =
        .running request (.rollback request.order)) :
      StepCase state (.advance number)
        (state.goto number state.world
          (.running request (.release request.order)))
  | released (number : ℕ) (request : CreateRequest)
      (hsession : state.sessions number =
        .running request (.release request.order)) :
      StepCase state (.advance number)
        (state.goto number
          ⟨state.world.orders,
            (releaseStock state.world.inventory request.orderRef).1⟩
          (.running request
            (.done (.http ⟨500, .text "failed to persist order"⟩))))

theorem step_cases {state next : State} {action : Action}
    (hcarried : Carried state) (hstep : step state action = some next) :
    StepCase state action next := by
  cases action with
  | arrive number request =>
      rw [step] at hstep
      cases hsession : state.sessions number with
      | idle =>
          rw [hsession] at hstep
          cases hstep
          exact .arrive number request hsession
      | running => simp [hsession] at hstep
  | advance number =>
      rw [step] at hstep
      cases hsession : state.sessions number with
      | idle => simp [hsession] at hstep
      | running request phase =>
          have hcarries := hcarried number request phase hsession
          rw [hsession] at hstep
          cases phase with
          | done exit => simp at hstep
          | lookup =>
              cases hstep
              obtain ⟨hnext, hcarries⟩ := not_holds_afterLookup request
                (state.world.orders.get? request.orderRef)
              exact .quiet number request .lookup _ hsession id hnext hcarries
          | reserve message order =>
              obtain ⟨rfl, rfl⟩ := hcarries
              simp only [Orders.advance, Grpc.call_answered,
                request.servicer_eq, afterReserve] at hstep
              cases hsuccess : (reserveStock state.world.inventory
                  (request.call state.world.inventory)).2.success with
              | true =>
                  rw [if_pos hsuccess] at hstep
                  cases hstep
                  exact .reserved number request hsession hsuccess
              | false =>
                  rw [hsuccess, if_neg Bool.false_ne_true,
                    reserveStock_failed hsuccess] at hstep
                  cases hstep
                  exact .quiet number request _ _ hsession id id trivial
          | persist order =>
              obtain rfl : order = request.order := hcarries
              have hid : request.order.id = request.orderRef := rfl
              cases hfound : state.world.orders.get? request.orderRef with
              | none =>
                  simp only [Orders.advance, persistOrder,
                    OrderDb.insert?, hid, hfound] at hstep
                  cases hstep
                  exact .saved number request hsession hfound
              | some found =>
                  simp only [Orders.advance, persistOrder,
                    OrderDb.insert?, hid, hfound] at hstep
                  cases hstep
                  exact .contested number request hsession (by simp [hfound])
          | rollback order =>
              obtain rfl : order = request.order := hcarries
              cases hstep
              exact .rolledBack number request hsession
          | release order =>
              obtain rfl : order = request.order := hcarries
              have hid : request.order.id = request.orderRef := rfl
              simp only [Orders.advance, Grpc.call_answered, hid,
                InventoryServicer.releaseStock_eq request.orderRef_ne]
                at hstep
              cases hstep
              exact .released number request hsession

/-! ## What holds in every state -/

structure Sound (state : State) : Prop where
  ids_nodup : (state.world.inventory.reservations.map
    StockReservation.id).Nodup
  /-- `create_order` reserves with the order as the key -/
  own : ∀ row ∈ state.world.inventory.reservations,
    row.orderRef = row.idempotencyKey
  carried : Carried state

theorem Sound.init (products : List Product) : Sound (.init products) where
  ids_nodup := List.nodup_nil
  own row hrow := absurd hrow List.not_mem_nil
  carried number request phase hsession := by
    simp [State.init] at hsession

theorem Carried.goto {state : State} (hcarried : Carried state) {number : ℕ}
    {world : World} {request : CreateRequest} {phase : Phase}
    (hcarries : Carries request phase) :
    Carried (state.goto number world (.running request phase)) := by
  intro other otherRequest otherPhase hsession
  by_cases hother : other = number
  · subst hother
    rw [State.goto_self, Session.running.injEq] at hsession
    obtain ⟨rfl, rfl⟩ := hsession
    exact hcarries
  · rw [State.goto_other _ _ _ hother] at hsession
    exact hcarried other otherRequest otherPhase hsession

theorem Sound.step {state next : State} {action : Action}
    (hsound : Sound state)
    (hstep : Concurrent.step state action = some next) : Sound next := by
  cases step_cases hsound.carried hstep with
  | arrive number request hidle =>
      exact ⟨hsound.ids_nodup, hsound.own, hsound.carried.goto trivial⟩
  | quiet number request phase next _ _ _ hcarries =>
      exact ⟨hsound.ids_nodup, hsound.own, hsound.carried.goto hcarries⟩
  | reserved number request hsession hsuccess =>
      refine ⟨?_, ?_, hsound.carried.goto rfl⟩
      · exact reserveStock_ids_nodup hsound.ids_nodup (request.call_unused _)
      · intro row hrow
        rcases mem_reserveStock hrow with hold | ⟨item, _, line, rfl⟩
        · exact hsound.own row hold
        · rfl
  | saved number request =>
      exact ⟨hsound.ids_nodup, hsound.own, hsound.carried.goto trivial⟩
  | contested number request =>
      exact ⟨hsound.ids_nodup, hsound.own, hsound.carried.goto rfl⟩
  | rolledBack number request =>
      exact ⟨hsound.ids_nodup, hsound.own, hsound.carried.goto rfl⟩
  | released number request =>
      refine ⟨?_, ?_, hsound.carried.goto trivial⟩
      · change ((releaseStock _ _).1.reservations.map _).Nodup
        rw [releaseStock_ids]
        exact hsound.ids_nodup
      · intro row hrow
        obtain ⟨before, hbefore, horder, hkey, _⟩ := mem_releaseBody hrow
        rw [horder, hkey]
        exact hsound.own before hbefore

theorem Sound.reservedForOrder_eq {state : State} (hsound : Sound state)
    (key : CharField128) :
    state.world.inventory.reservedForOrder key =
      state.world.inventory.activeForKey key := by
  apply reservedForOrder_eq_activeForKey
  intro row hrow _
  rw [hsound.own row hrow]

end OrderFlow.Orders.Concurrent
