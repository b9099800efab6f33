import OrderFlow.Orders.BrowserHistory
import OrderFlow.Orders.EdgeStock

/-!
# The whole site

The order endpoints in front of inventory-db, and any number of browsers that
watch its products, each through a bridge and a `WatchStock` call of its own.
A call to inventory-service is one transaction, and every connection that
listens is notified of it.
-/

namespace OrderFlow.Orders.Edge

open OrderFlow.Grpc
open OrderFlow.Inventory
open OrderFlow.TransitionSystem

/-! ## The transaction behind a step -/

/-- The transaction of inventory-db behind the next await of a single order. -/
def createCall? (request : CreateRequest) (faults : Faults) :
    Phase → Option ServiceCall
  | .reserve message _ =>
      if faults.reserve.executed then some (.reserve message request.clock)
      else none
  | .release order =>
      if faults.release.executed then some (.release order.id) else none
  | .lookup | .persist _ | .rollback _ | .done _ => none

def bulkCall? : BulkPhase → BulkEvent → Option ServiceCall
  | .streaming (message :: _) _, .serve clock =>
      some (.reserve message.request clock)
  | .releasing (orderRef :: _) _, .release delivery =>
      if delivery.executed then some (.release orderRef) else none
  | _, _ => none

def call? (state : State) : Action → Option ServiceCall
  | .advance number faults =>
      match state.sessions number with
      | .creating request phase => createCall? request faults phase
      | _ => none
  | .proceed number event =>
      match state.sessions number with
      | .batching _ phase => bulkCall? phase event
      | _ => none
  | .other call => some call
  | .post _ _ _ _ _ | .postBulk _ _ _ | .get _ _ | .readFails _ => none

section Calls

theorem advance_call {request : CreateRequest} (faults : Faults)
    (world : World) {phase : Phase} (hcarries : Carries request phase) :
    (Orders.advance request faults world phase).1.inventory =
      runCalls world.inventory (createCall? request faults phase).toList := by
  cases phase with
  | lookup | persist | rollback | done => rfl
  | reserve message order =>
      obtain ⟨rfl, rfl⟩ := hcarries
      rw [Orders.advance, createCall?]
      simp only [call_fst, request.servicer_eq]
      cases faults.reserve.executed <;> rfl
  | release order =>
      obtain rfl : order = request.order := hcarries
      have hid : request.order.id = request.orderRef := rfl
      rw [Orders.advance, createCall?]
      simp only [call_fst, hid,
        InventoryServicer.releaseStock_eq request.orderRef_ne]
      cases faults.release.executed <;> rfl

theorem advanceBulk_call {request : BulkRequest} {world : World}
    {phase : BulkPhase} {event : BulkEvent} {next : World × BulkPhase}
    (hposed : BatchPosed request phase)
    (hnext : advanceBulk request world phase event = some next) :
    next.1.inventory =
      runCalls world.inventory (bulkCall? phase event).toList := by
  cases advanceBulk_moves hnext with
  | serve message messages loop clock =>
      have hline := posed_line (hposed message List.mem_cons_self) clock
      exact bulkLine_apply hline.1 clock
  | release orderRef refs out delivery =>
      have hrelease : orderRef ≠ .empty := hposed orderRef List.mem_cons_self
      simp only [call_fst, bulkCall?,
        InventoryServicer.releaseStock_eq hrelease]
      cases delivery.executed <;> rfl
  | failed messages | cancelled messages => cases messages <;> rfl
  | answered | commit => rfl

/-- What a step does to inventory-db is what its call does. -/
theorem step_call {state next : State} {action : Action}
    (hsound : Sound state) (hposing : Posing state)
    (hstep : step state action = some next) :
    next.world.inventory =
      runCalls state.world.inventory (call? state action).toList := by
  cases step_moves hstep with
  | other | post | postBulk | get | readFails | lookupFails => rfl
  | advance number faults request phase hsession =>
      have hcarries : Carries request phase := by
        have hown := hsound.carried number
        rwa [hsession] at hown
      rw [call?, hsession]
      exact advance_call faults state.world hcarries
  | proceed number bulkEvent request phase point hsession hpoint =>
      have hposed : BatchPosed request phase := by
        have hown := hposing number
        rwa [hsession] at hown
      rw [call?, hsession]
      exact advanceBulk_call hposed hpoint

end Calls

end OrderFlow.Orders.Edge

namespace OrderFlow.Inventory

/-! ## The columns -/

/-- However the units of a product are spread, its column holds them. -/
def InventoryDb.Roomy (db : InventoryDb) : Prop :=
  ∀ product ∈ db.products,
    product.availableQuantity + db.reservedQuantity product.id ≤ 2147483647

instance (db : InventoryDb) : Decidable db.Roomy :=
  inferInstanceAs (Decidable (∀ product ∈ db.products, _))

theorem runCalls_productIds (db : InventoryDb) (calls : List ServiceCall) :
    (runCalls db calls).products.map Product.id =
      db.products.map Product.id := by
  induction calls generalizing db with
  | nil => rfl
  | cons call calls ih => exact (ih _).trans (call.apply_productIds db)

/-- Calls leave every quantity in the range of its column. -/
theorem runCalls_fits {db : InventoryDb} (hwell : db.WellFormed)
    (hfits : db.Fits) (hids : (db.products.map Product.id).Nodup)
    (hroomy : db.Roomy) (calls : List ServiceCall) :
    (runCalls db calls).Fits := by
  have hkeeps := runCalls_keeps hwell calls
  have hsame := runCalls_productIds db calls
  have hidsAfter : ((runCalls db calls).products.map Product.id).Nodup :=
    hsame ▸ hids
  intro product hproduct
  have hmem : product.id ∈ db.products.map Product.id :=
    hsame ▸ List.mem_map_of_mem hproduct
  obtain ⟨old, hold, hid⟩ := List.mem_map.mp hmem
  have havailable : (runCalls db calls).available? product.id =
      some product.availableQuantity :=
    InventoryDb.available?_of_mem hidsAfter hproduct
  have hbefore : db.available? product.id = some old.availableQuantity := by
    rw [← hid]
    exact InventoryDb.available?_of_mem hids hold
  have htotal := hkeeps.total product.id
  rw [InventoryDb.total?, InventoryDb.total?, havailable, hbefore,
    Option.map_some, Option.map_some, Option.some.injEq] at htotal
  have hroom := hroomy old hold
  have hreserved := hkeeps.wellFormed.reservedQuantity_nonneg product.id
  have hlow := hkeeps.wellFormed.available_nonneg _ _ havailable
  rw [hid] at hroom
  exact ⟨hid ▸ (hfits old hold).1, hlow, by omega⟩

end OrderFlow.Inventory

namespace OrderFlow.Inventory.Live

/-- A step without a commit leaves the tables and their history alone. -/
theorem step_frame {limit : ℕ} {state next : State} {action : Action}
    (hcommits : action.commits = false)
    (hstep : step limit state action = some next) :
    next.call.db = state.call.db ∧
      ∀ initial, Watch.history initial next.call.log =
        Watch.history initial state.call.log := by
  obtain ⟨middle, hact, hshare⟩ := Option.bind_eq_some_iff.mp hstep
  obtain ⟨_, source, rfl, _⟩ := share_frame hshare
  cases actCase_of_act hact with
  | thread hthread hcallStep =>
      have hframe := thread_frame hthread hcallStep
      exact ⟨hframe.db, hframe.history⟩
  | commit hcommitted => exact absurd (hcommitted.symm.trans hcommits) (by simp)
  | resync =>
      change (state.put .resync).resume.call.db = _ ∧ ∀ initial,
        Watch.history initial (state.put .resync).resume.call.log = _
      rw [resume_call]
      exact ⟨rfl, fun _ => rfl⟩
  | dropLink | drive | returned | raised | looks | queues =>
      exact ⟨rfl, fun _ => rfl⟩

end OrderFlow.Inventory.Live

namespace OrderFlow.Orders.Site

open OrderFlow.Inventory
open OrderFlow.Inventory.Watch (WatchCommand history quantityAt)
open OrderFlow.Orders.BrowserWatch (Linked Settled shown lastShown? watchedIn)
open OrderFlow.Orders.StockWatch (Libraries StockUpdateOut)
open OrderFlow.TransitionSystem

/-! ## The system -/

structure State where
  edge : Edge.State
  browsers : ℕ → BrowserWatch.State

/-- Before the first request.  A browser that has not connected yet is one that
has not taken a step. -/
def State.init (world : World) : State where
  edge := .init world
  browsers _ := .init world.inventory

inductive Action where
  /-- a step of a request, or a call of another client -/
  | edge (action : Edge.Action)
  /-- a step of a browser, of its session or of its `WatchStock` call -/
  | browser (number : ℕ) (action : BrowserWatch.Action)

/-- What is written to inventory-db is not written by a watch. -/
def commits : BrowserWatch.Action → Bool
  | .server action => action.commits
  | _ => false

/-- The transaction becomes visible on the other side of a browser. -/
def hear (db : InventoryDb) (call? : Option ServiceCall)
    (browser : BrowserWatch.State) : BrowserWatch.State :=
  match call? with
  | none => browser
  | some call =>
      { browser with
        server := browser.server.commit (call.apply db) (call.notices db) }

def step (libraries : Libraries) (limit : ℕ) (state : State) :
    Action → Option State
  | .edge action =>
      (Edge.step state.edge action).map fun edge =>
        { edge := edge
          browsers := fun number =>
            hear state.edge.world.inventory (Edge.call? state.edge action)
              (state.browsers number) }
  | .browser number action =>
      if commits action then none
      else
        (BrowserWatch.step libraries limit (state.browsers number) action).map
          fun browser =>
            { state with
              browsers := Function.update state.browsers number browser }

/-! ## One history -/

/-- The product tables before the first call and after each one. -/
def timeline (start : InventoryDb) (calls : List ServiceCall) :
    List (List Product) :=
  (List.range (calls.length + 1)).map fun date =>
    (runCalls start (calls.take date)).products

theorem timeline_concat (start : InventoryDb) (calls : List ServiceCall)
    (call : ServiceCall) :
    timeline start (calls ++ [call]) =
      timeline start calls ++ [(runCalls start (calls ++ [call])).products] := by
  rw [timeline, timeline, List.length_append, List.length_singleton,
    List.range_succ, List.map_append, List.map_singleton]
  congr 1
  · refine List.map_congr_left fun date hdate => ?_
    rw [List.take_append_of_le_length
      (Nat.le_of_lt_succ (List.mem_range.mp hdate))]
  · rw [List.take_of_length_le (by simp)]

/-- A quantity of the history is one that some calls have left. -/
theorem quantityAt_timeline {start : InventoryDb} {calls : List ServiceCall}
    {log : List Inventory.Watch.Entry} {date : ℕ} {productId quantity : ℤ}
    (hhistory : (history start log).reverse = timeline start calls)
    (hquantity : quantityAt start log date productId = some quantity) :
    date ≤ calls.length ∧
      (runCalls start (calls.take date)).available? productId =
        some quantity := by
  rw [quantityAt, hhistory, timeline, List.getElem?_map,
    Option.bind_eq_some_iff] at hquantity
  obtain ⟨products, hproducts, hfound⟩ := hquantity
  obtain ⟨found, hrange, rfl⟩ := Option.map_eq_some_iff.mp hproducts
  obtain ⟨hlength, hdate⟩ := List.getElem?_eq_some_iff.mp hrange
  rw [List.length_range] at hlength
  rw [List.getElem_range] at hdate
  subst hdate
  exact ⟨Nat.le_of_lt_succ hlength, hfound⟩

/-! ## What holds of the whole -/

/-- One browser sees what the calls have done. -/
structure Sees (libraries : Libraries) (limit : ℕ) (start : InventoryDb)
    (calls : List ServiceCall) (browser : BrowserWatch.State) : Prop where
  linked : Linked libraries limit start browser
  tables : browser.server.call.db = runCalls start calls
  history : (history start browser.server.call.log).reverse =
    timeline start calls
  /-- the generator knows of `stop` -/
  told : browser.server.call.stop = true → browser.server.source.stop = true

structure Coherent (libraries : Libraries) (limit : ℕ) (start : InventoryDb)
    (calls : List ServiceCall) (state : State) : Prop where
  sound : Edge.Sound state.edge
  posing : Edge.Posing state.edge
  tables : state.edge.world.inventory = runCalls start calls
  sees : ∀ number, Sees libraries limit start calls (state.browsers number)

section Steps

variable {libraries : Libraries} {limit : ℕ} {start : InventoryDb}
  {calls : List ServiceCall}

/-- A call that fits is served on the other side of every browser. -/
theorem serve_eq {browser : BrowserWatch.State} {call : ServiceCall}
    (htold : browser.server.call.stop = true →
      browser.server.source.stop = true)
    (hfits : (call.apply browser.server.call.db).Fits) :
    BrowserWatch.step libraries limit browser (.server (.serve call)) =
      some (hear browser.server.call.db (some call) browser) := by
  have hact : Inventory.Live.act limit browser.server (.serve call) =
      some (browser.server.commit (call.apply browser.server.call.db)
        (call.notices browser.server.call.db)) := if_pos hfits
  have hshare : Inventory.Live.State.share limit (browser.server.commit
      (call.apply browser.server.call.db)
      (call.notices browser.server.call.db)) =
        some (browser.server.commit (call.apply browser.server.call.db)
          (call.notices browser.server.call.db)) :=
    if_neg fun hset => Bool.noConfusion ((htold hset.1).symm.trans hset.2)
  have hstep : Inventory.Live.step limit browser.server (.serve call) =
      some (browser.server.commit (call.apply browser.server.call.db)
        (call.notices browser.server.call.db)) := by
    rw [Inventory.Live.step, hact, Option.bind_some, hshare]
  have hnews : BrowserWatch.news browser.server.call.log
      (.committed (call.apply browser.server.call.db).products ::
        browser.server.call.log) = [] :=
    @BrowserWatch.news_of_append browser.server.call.log [.committed _]
  have hdownlink : browser.downlink ++ BrowserWatch.news
      browser.server.call.log
      (.committed (call.apply browser.server.call.db).products ::
        browser.server.call.log) = browser.downlink := by
    rw [hnews, List.append_nil]
  have hserve : BrowserWatch.step libraries limit browser
      (.server (.serve call)) = browser.serve limit (.serve call) := rfl
  rw [hserve, BrowserWatch.State.serve, hstep, Option.map_some]
  exact congrArg (fun downlink => some { hear browser.server.call.db
    (some call) browser with downlink := downlink }) hdownlink

theorem Sees.hear {browser : BrowserWatch.State}
    (hsees : Sees libraries (limit + 1) start calls browser)
    (call? : Option ServiceCall)
    (hfits : (runCalls start (calls ++ call?.toList)).Fits) :
    Sees libraries (limit + 1) start (calls ++ call?.toList)
      (hear (runCalls start calls) call? browser) := by
  cases call? with
  | none =>
      rw [Option.toList_none, List.append_nil]
      exact hsees
  | some call =>
      have hafter : runCalls start (calls ++ [call]) =
          call.apply (runCalls start calls) := List.foldl_append ..
      have htables : (call.apply (runCalls start calls)).Fits := by
        rw [← hafter]
        exact hfits
      rw [← hsees.tables] at htables ⊢
      have hserved := @serve_eq libraries (limit + 1) _ _ hsees.told htables
      refine ⟨hsees.linked.step hserved, ?_, ?_, hsees.told⟩
      · change call.apply browser.server.call.db = _
        rw [hsees.tables]
        exact hafter.symm
      · change ((call.apply browser.server.call.db).products ::
          Inventory.Watch.history start
            browser.server.call.log).reverse = _
        rw [List.reverse_cons, hsees.history, hsees.tables, ← hafter]
        exact (timeline_concat start calls call).symm

/-- A step with the server of the browser as it was. -/
theorem Sees.of_server {browser next : BrowserWatch.State}
    (hsees : Sees libraries limit start calls browser)
    (hlinked : Linked libraries limit start next)
    (hserver : next.server = browser.server) :
    Sees libraries limit start calls next where
  linked := hlinked
  tables := by rw [hserver, hsees.tables]
  history := by rw [hserver, hsees.history]
  told := by
    rw [hserver]
    exact hsees.told

theorem Sees.serve {browser next : BrowserWatch.State}
    {uplink : List (Option WatchCommand)}
    {action : Inventory.Live.Action}
    (hsees : Sees libraries limit start calls browser)
    (hlinked : Linked libraries limit start next)
    (hcommits : action.commits = false)
    (hstep : { browser with uplink := uplink }.serve limit action =
      some next) : Sees libraries limit start calls next := by
  obtain ⟨server, hserved, rfl⟩ := Option.map_eq_some_iff.mp hstep
  obtain ⟨hdb, hhistory⟩ := Inventory.Live.step_frame hcommits hserved
  obtain ⟨_, _, hshare⟩ := Option.bind_eq_some_iff.mp hserved
  refine ⟨hlinked, hdb.trans hsees.tables, ?_,
    (Inventory.Live.share_frame hshare).1⟩
  rw [← hsees.history]
  exact congrArg List.reverse (hhistory start)

theorem Sees.step {browser next : BrowserWatch.State}
    {action : BrowserWatch.Action}
    (hsees : Sees libraries (limit + 1) start calls browser)
    (hcommits : commits action = false)
    (hstep : BrowserWatch.step libraries (limit + 1) browser action =
      some next) : Sees libraries (limit + 1) start calls next := by
  have hlinked := hsees.linked.step hstep
  cases BrowserWatch.step_moves hstep with
  | socket | response => exact hsees.of_server hlinked rfl
  | request _ _ _ _ hserve => exact hsees.serve hlinked rfl hserve
  | requestsEnd _ _ _ hserve => exact hsees.serve hlinked rfl hserve
  | cancel _ hserve => exact hsees.serve hlinked rfl hserve
  | server action _ _ hserve => exact hsees.serve hlinked hcommits hserve

/-- What holds of all browsers and of the one that has taken a step. -/
theorem sees_update {browsers : ℕ → BrowserWatch.State}
    (hsees : ∀ number, Sees libraries limit start calls (browsers number))
    {number : ℕ} {browser : BrowserWatch.State}
    (hown : Sees libraries limit start calls browser) (other : ℕ) :
    Sees libraries limit start calls
      (Function.update browsers number browser other) := by
  by_cases hother : other = number
  · subst hother
    rwa [Function.update_self]
  · rw [Function.update_of_ne hother]
    exact hsees other

theorem Coherent.init {world : World} (hwell : world.inventory.WellFormed)
    (hfits : world.inventory.Fits)
    (hids : (world.inventory.products.map Product.id).Nodup) :
    Coherent libraries limit world.inventory [] (.init world) where
  sound := .init world
  posing _ := trivial
  tables := rfl
  sees _ := ⟨.init hwell hfits hids, rfl, rfl, fun hstop => hstop⟩

/-- A step of the site makes at most one call. -/
theorem Coherent.step {state next : State} {action : Action}
    (hcoherent : Coherent libraries (limit + 1) start calls state)
    (hfits : ∀ later, (runCalls start later).Fits)
    (hstep : step libraries (limit + 1) state action = some next) :
    ∃ later, Coherent libraries (limit + 1) start later next := by
  cases action with
  | edge action =>
      obtain ⟨edge, hedge, rfl⟩ := Option.map_eq_some_iff.mp hstep
      have htables := Edge.step_call hcoherent.sound hcoherent.posing hedge
      rw [hcoherent.tables] at htables
      refine ⟨calls ++ (Edge.call? state.edge action).toList,
        hcoherent.sound.step hedge,
        hcoherent.posing.step hcoherent.sound hedge, ?_, fun number => ?_⟩
      · exact htables.trans (List.foldl_append ..).symm
      · rw [hcoherent.tables]
        exact (hcoherent.sees number).hear _ (hfits _)
  | browser number action =>
      rw [Site.step] at hstep
      split_ifs at hstep with hcommits
      obtain ⟨browser, hbrowser, rfl⟩ := Option.map_eq_some_iff.mp hstep
      have hown := (hcoherent.sees number).step (by simpa using hcommits)
        hbrowser
      exact ⟨calls, hcoherent.sound, hcoherent.posing, hcoherent.tables,
        sees_update hcoherent.sees hown⟩

end Steps

/-! ## Every run -/

section Runs

variable {libraries : Libraries} {limit : ℕ} {world : World} {final : State}
  {schedule : List Action}

theorem run_coherent (hwell : world.inventory.WellFormed)
    (hfits : world.inventory.Fits)
    (hids : (world.inventory.products.map Product.id).Nodup)
    (hroomy : world.inventory.Roomy)
    (hrun : run (step libraries (limit + 1)) (.init world) schedule =
      some final) :
    ∃ calls, Coherent libraries (limit + 1) world.inventory calls final := by
  have hroom := runCalls_fits hwell hfits hids hroomy
  apply @run_invariant _ _ (step libraries (limit + 1)) (fun state => ∃ calls,
    Coherent libraries (limit + 1) world.inventory calls state) ?_ _ _ _
    ⟨[], .init hwell hfits hids⟩ hrun
  rintro state action next ⟨calls, hcoherent⟩ hstep
  exact hcoherent.step hroom hstep

end Runs

end OrderFlow.Orders.Site
