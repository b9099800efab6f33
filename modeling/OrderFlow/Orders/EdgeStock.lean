import OrderFlow.Inventory.Conservation
import OrderFlow.Orders.EdgeHistory

/-!
# Stock behind the order endpoints

All that requests do to inventory-db, however they overlap and fail, amounts
to a sequence of `reserve_stock` and `release_stock` calls that no check of the
servicer refuses.  So no unit of stock is lost or made up on the way.
-/

namespace OrderFlow.Inventory

/-- The checks of the servicer let the call through, and every quantity it
asks for is positive. -/
def ServiceCall.Posed : ServiceCall → Prop
  | .reserve request _ => request.orderRef ≠ .empty ∧ request.items ≠ [] ∧
      ∀ item ∈ request.items, 0 < item.quantity
  | .release orderRef => orderRef ≠ .empty

end OrderFlow.Inventory

namespace OrderFlow.Orders.Edge

open OrderFlow.Inventory
open OrderFlow.TransitionSystem

/-! ## The calls of one step -/

/-- The tables after some of the calls. -/
def Served (Allowed : ServiceCall → Prop) (db after : InventoryDb) : Prop :=
  ∃ calls, after = runCalls db calls ∧ ∀ call ∈ calls, Allowed call

theorem Served.none {Allowed : ServiceCall → Prop} (db : InventoryDb) :
    Served Allowed db db :=
  ⟨[], rfl, fun _ hcall => absurd hcall List.not_mem_nil⟩

theorem Served.one {Allowed : ServiceCall → Prop} {db : InventoryDb}
    {call : ServiceCall} (hallowed : Allowed call) :
    Served Allowed db (call.apply db) :=
  ⟨[call], rfl, fun _ hcall => List.mem_singleton.mp hcall ▸ hallowed⟩

theorem Served.trans {Allowed : ServiceCall → Prop}
    {db middle after : InventoryDb} (hfirst : Served Allowed db middle)
    (hsecond : Served Allowed middle after) : Served Allowed db after := by
  obtain ⟨first, rfl, hfirstAllowed⟩ := hfirst
  obtain ⟨second, rfl, hsecondAllowed⟩ := hsecond
  refine ⟨first ++ second, (List.foldl_append ..).symm, fun call hcall => ?_⟩
  rcases List.mem_append.mp hcall with hmem | hmem
  · exact hfirstAllowed call hmem
  · exact hsecondAllowed call hmem

theorem Served.mono {Allowed Wider : ServiceCall → Prop}
    {db after : InventoryDb} (hserved : Served Allowed db after)
    (hwider : ∀ call, Allowed call → Wider call) : Served Wider db after := by
  obtain ⟨calls, hafter, hallowed⟩ := hserved
  exact ⟨calls, hafter, fun call hcall => hwider call (hallowed call hcall)⟩

theorem served_mayCall {db after : InventoryDb} {call : ServiceCall}
    (hposed : call.Posed) (hcall : MayCall db after (call.apply db)) :
    Served ServiceCall.Posed db after := by
  rcases hcall with rfl | rfl
  · exact .none _
  · exact .one hposed

theorem posed_reserve (request : CreateRequest) :
    (ServiceCall.reserve request.message request.clock).Posed := by
  refine ⟨request.orderRef_ne, request.reserveItems_ne, fun item hitem => ?_⟩
  obtain ⟨line, _, rfl⟩ := List.mem_map.mp hitem
  exact line.quantity_pos

theorem AdvanceCase.served {request : CreateRequest} {world : World}
    {phase : Phase} {next : World × Phase}
    (hcase : AdvanceCase request world phase next) :
    Served ServiceCall.Posed world.inventory next.1.inventory := by
  cases hcase with
  | reserved => exact .one (posed_reserve request)
  | notReserved inventory exception hcall =>
      exact served_mayCall (posed_reserve request) hcall
  | released inventory hcall =>
      exact @served_mayCall _ _ (.release request.orderRef) request.orderRef_ne
        hcall
  | replayed | notEncodable | encoded | saved | notSaved | rolledBack =>
      exact .none _

/-- What a batch has still to call for. -/
def BatchPosed (request : BulkRequest) : BulkPhase → Prop
  | .streaming messages _ =>
      ∀ message ∈ messages, message ∈ request.lines.map lineMessage
  | .commit tally => ∃ outcomes, tally = tallied request outcomes
  | .releasing refs _ => ∀ orderRef ∈ refs, orderRef ≠ .empty
  | .done _ => True

theorem stranded_ne_empty (request : BulkRequest)
    (outcomes : CharField128 → List ItemOutcome) :
    ∀ orderRef ∈ (tallied request outcomes).strandedRefs,
      orderRef ≠ .empty := by
  intro orderRef hstranded
  rw [tallied, foldl_tally] at hstranded
  obtain ⟨order, horder, rfl⟩ :=
    List.mem_map.mp (by simpa [Tally.start] using hstranded)
  exact BulkRequest.id_ne_empty (List.mem_filter.mp horder).1

theorem batchPosed_nextRelease (request : BulkRequest) (out : BulkOrderOut)
    {refs : List CharField128} (hrefs : ∀ orderRef ∈ refs, orderRef ≠ .empty) :
    BatchPosed request (nextRelease out refs) := by
  cases refs with
  | nil => trivial
  | cons orderRef refs => exact hrefs

theorem BulkCase.batchPosed {request : BulkRequest} {world : World}
    {phase : BulkPhase} {next : World × BulkPhase}
    (hcase : BulkCase request world phase next)
    (hposed : BatchPosed request phase) : BatchPosed request next.2 := by
  cases hcase with
  | served message messages =>
      exact fun other hother => hposed other (List.mem_cons_of_mem _ hother)
  | summarized loop outcomes => exact ⟨outcomes, rfl⟩
  | saved tally orders raised =>
      obtain ⟨outcomes, rfl⟩ := hposed
      cases raised with
      | true => trivial
      | false =>
          exact batchPosed_nextRelease request _
            (stranded_ne_empty request outcomes)
  | released orderRef refs out =>
      exact batchPosed_nextRelease request out fun other hother =>
        hposed other (List.mem_cons_of_mem _ hother)
  | streamFailed | notSaved => trivial

theorem posed_line {request : BulkRequest} {message : BulkReserveItem}
    (hmessage : message ∈ request.lines.map lineMessage) (clock : ℕ → ℕ) :
    (ServiceCall.reserve message.request clock).Posed := by
  obtain ⟨line, hline, rfl⟩ := List.mem_map.mp hmessage
  obtain ⟨order, horder, hmem⟩ := List.mem_flatMap.mp hline
  obtain ⟨ordered, hordered, rfl⟩ := List.mem_map.mp hmem
  refine ⟨BulkRequest.id_ne_empty horder, List.cons_ne_nil _ _, ?_⟩
  intro item hitem
  obtain rfl := List.mem_singleton.mp hitem
  obtain ⟨draw, hdraw, rfl⟩ := List.mem_mapIdx.mp horder
  obtain ⟨source, _, rfl⟩ := List.mem_map.mp hordered
  exact source.quantity_pos

theorem BulkCase.served_calls {request : BulkRequest} {world : World}
    {phase : BulkPhase} {next : World × BulkPhase}
    (hcase : BulkCase request world phase next)
    (hposed : BatchPosed request phase) :
    Served ServiceCall.Posed world.inventory next.1.inventory := by
  cases hcase with
  | served message messages loop clock =>
      have hline := posed_line (hposed message List.mem_cons_self) clock
      exact bulkLine_apply hline.1 clock ▸ .one hline
  | released orderRef refs out inventory hcall =>
      have hrelease : (ServiceCall.release orderRef).Posed :=
        hposed orderRef List.mem_cons_self
      rw [InventoryServicer.releaseStock_eq hrelease] at hcall
      exact served_mayCall hrelease hcall
  | streamFailed | summarized | saved | notSaved => exact .none _

/-! ## The calls of a run -/

def Session.Posed : Session → Prop
  | .batching request phase => BatchPosed request phase
  | _ => True

/-- Every batch in flight calls for its own orders only. -/
def Posing (state : State) : Prop := ∀ number, (state.sessions number).Posed

theorem Posing.step {state next : State} {action : Action}
    (hsound : Sound state) (hposing : Posing state)
    (hstep : Edge.step state action = some next) : Posing next := by
  cases step_cases hsound.carried hstep with
  | start action number session _ hidle hstarts =>
      refine State.forall_goto hposing ?_
      cases hstarts with
      | bulk request =>
          have hgenerated := requestGen_prefix request.lines
          exact fun message hmessage => hgenerated.subset hmessage
      | refused | create | read | unread => trivial
  | unread | advance => exact State.forall_goto hposing trivial
  | proceed number event request phase point hsession hcase =>
      have hown := hposing number
      rw [hsession] at hown
      exact State.forall_goto hposing (hcase.batchPosed hown)
  | other call => exact hposing

/-- A call that order-service has made, or one of another client. -/
def Seen (schedule : List Action) (call : ServiceCall) : Prop :=
  call.Posed ∨ Action.other call ∈ schedule

theorem step_served {state next : State} {action : Action}
    (hsound : Sound state) (hposing : Posing state)
    (hstep : Edge.step state action = some next) :
    Served (Seen [action]) state.world.inventory next.world.inventory := by
  have hposed : ∀ {after}, Served ServiceCall.Posed state.world.inventory
      after → Served (Seen [action]) state.world.inventory after :=
    fun hserved => hserved.mono fun _ => .inl
  cases step_cases hsound.carried hstep with
  | start | unread => exact .none _
  | advance number faults request phase point hsession hcase =>
      exact hposed hcase.served
  | proceed number event request phase point hsession hcase =>
      have hown := hposing number
      rw [hsession] at hown
      exact hposed (hcase.served_calls hown)
  | other call => exact .one (.inr List.mem_cons_self)

theorem run_served {state final : State} {schedule : List Action}
    (hsound : Sound state) (hposing : Posing state)
    (hrun : run step state schedule = some final) :
    Served (Seen schedule) state.world.inventory final.world.inventory := by
  induction schedule generalizing state with
  | nil =>
      rw [run_nil, Option.some.injEq] at hrun
      exact hrun ▸ .none _
  | cons action schedule ih =>
      obtain ⟨next, hnext, hrest⟩ := run_cons_eq_some hrun
      have hfirst := (step_served hsound hposing hnext).mono fun call hseen =>
        hseen.imp_right fun hmem : Action.other call ∈ [action] =>
          (List.mem_singleton.mp hmem ▸ List.mem_cons_self :
            Action.other call ∈ action :: schedule)
      have hsecond := (ih (hsound.step hnext) (hposing.step hsound hnext)
        hrest).mono fun call hseen =>
          hseen.imp_right (List.mem_cons_of_mem action)
      exact hfirst.trans hsecond

/-- What a run does to inventory-db is a sequence of calls.  Those made by
order-service are never refused as malformed, and stock is conserved. -/
theorem edge_keeps_stock {world : World} (hwell : world.inventory.WellFormed)
    {schedule : List Action} {final : State}
    (hrun : run step (.init world) schedule = some final) :
    (∃ calls, final.world.inventory = runCalls world.inventory calls ∧
        ∀ call ∈ calls, call.Posed ∨ Action.other call ∈ schedule) ∧
      final.world.inventory.WellFormed ∧
        ∀ productId, final.world.inventory.total? productId =
          world.inventory.total? productId := by
  obtain ⟨calls, hcalls, hseen⟩ :=
    run_served (.init world) (fun _ => trivial) hrun
  have hkeeps : Keeps world.inventory final.world.inventory :=
    hcalls ▸ runCalls_keeps hwell calls
  exact ⟨⟨calls, hcalls, hseen⟩, hkeeps.wellFormed, hkeeps.total⟩

theorem edge_keeps_stock_rush : ∃ final,
    run step (.init ⟨[], seededDb⟩) rush = some final ∧
      final.world.inventory.WellFormed ∧
      final.world.inventory.reservedQuantity 3 = 10 ∧
      final.world.inventory.total? 3 = some 10 := by
  have hkept : ∀ final,
      run step (.init ⟨[], seededDb⟩) rush = some final →
        final.world.inventory.WellFormed ∧
          ∀ productId, final.world.inventory.total? productId =
            seededDb.total? productId :=
    fun final hrun => (edge_keeps_stock seededDb_wellFormed hrun).2
  exact ⟨_, rfl, (hkept _ rfl).1, by decide, ((hkept _ rfl).2 3).trans rfl⟩

end OrderFlow.Orders.Edge
