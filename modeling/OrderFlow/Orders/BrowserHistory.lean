import OrderFlow.Orders.BrowserWatch

/-!
# What the browser shows

Through both streams and both pumps the browser gets the updates of the handler
in order.  So it goes forward in the history of the table, and when nothing is
on its way any more it shows the committed quantity of all that it watches.
-/

namespace OrderFlow.Inventory.Watch

section Log

variable {productId : ℤ} {log : List Entry}

theorem sends_updates :
    ((sends productId log).map Prod.snd).reverse =
      (updatesOf log).filter fun update => update.productId = productId := by
  induction log with
  | nil => rfl
  | cons entry log ih =>
      rw [updatesOf_cons, List.filter_append, ← ih]
      cases entry with
      | sent update =>
          by_cases hsame : update.productId = productId
          · simp [sends, Entry.sent?, hsame]
          · simp [sends, Entry.sent?, hsame]
      | applied | committed | selected => simp [sends, Entry.sent?]

/-- Where an update stands in the log. -/
theorem exists_sent_of_prefix {before : List StockUpdate}
    {update : StockUpdate} (hinitial : before ++ [update] <+: updatesOf log) :
    ∃ earlier, (.sent update :: earlier) <:+ log ∧
      updatesOf earlier = before := by
  induction log with
  | nil =>
      have hnil := List.prefix_nil.mp hinitial
      simp at hnil
  | cons entry log ih =>
      have hlater : before ++ [update] <+: updatesOf log →
          ∃ earlier, (.sent update :: earlier) <:+ entry :: log ∧
            updatesOf earlier = before := by
        intro hearlier
        obtain ⟨earlier, hsuffix, hbefore⟩ := ih hearlier
        exact ⟨earlier, hsuffix.trans (List.suffix_cons entry log), hbefore⟩
      rw [updatesOf_cons] at hinitial
      cases entry with
      | sent sent =>
          rcases List.prefix_concat_iff.mp hinitial with hwhole | hearlier
          · obtain ⟨hbefore, hlast⟩ := List.append_inj' hwhole rfl
            cases hlast
            exact ⟨log, List.suffix_refl _, hbefore.symm⟩
          · exact hlater hearlier
      | applied | committed | selected =>
          rw [Entry.sent?, Option.toList_none, List.append_nil] at hinitial
          exact hlater hinitial

end Log

end OrderFlow.Inventory.Watch

namespace OrderFlow.Orders.BrowserWatch

open OrderFlow.Inventory (InventoryDb)
open OrderFlow.Inventory.Watch (Kind StockUpdate lastUpdate? quantityAt
  updatesOf)
open OrderFlow.Orders.StockWatch
open OrderFlow.TransitionSystem

section Shown

variable {productId : ℤ} {updates : List StockUpdate}

theorem filter_outs : ((updates.map stockUpdateOut).filter fun out =>
    out.productId = productId) =
      (updates.filter fun update => update.productId = productId).map
        stockUpdateOut := by
  rw [List.filter_map]
  rfl

/-- The quantity shown is the one that was sent last. -/
theorem lastShown?_outs (log : List Inventory.Watch.Entry) :
    (lastShown? productId ((updatesOf log).map stockUpdateOut)).map
        StockUpdateOut.availableQuantity =
      (lastUpdate? productId log).map StockUpdate.availableQuantity := by
  rw [lastShown?, filter_outs, List.getLast?_map,
    ← Inventory.Watch.lastUpdate?_eq_findLast, Option.map_map]
  rfl

end Shown

/-- What the browser shows of a product goes forward in time, and a change is
one. -/
structure InOrder (start : InventoryDb) (log : List Inventory.Watch.Entry)
    (outs : List StockUpdateOut) : Prop where
  forward : ∀ productId, ∃ dates : List ℕ, dates.Pairwise (· ≤ ·) ∧
    List.Forall₂ (fun date out => quantityAt start log date productId =
      some (StockUpdateOut.availableQuantity out)) dates
        (outs.filter fun out => out.productId = productId)
  changed : ∀ earlier out, earlier ++ [out] <+: outs → out.kind = "changed" →
    (lastShown? out.productId earlier).map StockUpdateOut.availableQuantity ≠
      some out.availableQuantity

/-- The first so many updates of a call that goes forward. -/
theorem inOrder_of_prefix {start : InventoryDb}
    {log : List Inventory.Watch.Entry} {outs : List StockUpdateOut}
    (hchronological : Inventory.Watch.Chronological start log)
    (hinitial : outs <+: (updatesOf log).map stockUpdateOut) :
    InOrder start log outs where
  forward productId := by
    obtain ⟨dates, hmatched, hforward⟩ := hchronological.forward productId
    have hdated : List.Forall₂ (fun date out =>
        quantityAt start log date productId =
          some (StockUpdateOut.availableQuantity out)) dates.reverse
        (((updatesOf log).map stockUpdateOut).filter fun out =>
          out.productId = productId) := by
      rw [filter_outs, ← Inventory.Watch.sends_updates, List.map_reverse,
        List.forall₂_reverse_iff, List.map_map, List.forall₂_map_right_iff]
      exact hmatched.imp fun _ _ hmatch => hmatch.2
    obtain ⟨rest, hrest⟩ := hinitial
    rw [← hrest, List.filter_append] at hdated
    refine ⟨dates.reverse.take
      (outs.filter fun out => out.productId = productId).length, ?_, ?_⟩
    · exact (List.pairwise_reverse.mpr hforward).sublist
        (List.take_sublist _ _)
    · have htaken := List.forall₂_take
        (outs.filter fun out => out.productId = productId).length hdated
      rwa [List.take_left] at htaken
  changed earlier out hout hkind := by
    obtain ⟨rest, hrest⟩ := hout.trans hinitial
    rw [List.append_assoc] at hrest
    obtain ⟨before, after, hupdates, hbefore, hafter⟩ :=
      List.map_eq_append_iff.mp hrest.symm
    obtain ⟨update, later, rfl, hupdate, _⟩ :=
      List.map_eq_cons_iff.mp hafter
    obtain ⟨earlierLog, hsuffix, hsent⟩ :=
      @Inventory.Watch.exists_sent_of_prefix log _ _
        ⟨later, by rw [hupdates, List.append_assoc]; rfl⟩
    subst hbefore hupdate hsent
    have hchanged : update.kind = .changed := by
      cases hlabel : update.kind with
      | changed => rfl
      | snapshot =>
          have hlabelled : updateKindLabels .snapshot = "changed" :=
            hlabel ▸ hkind
          exact absurd hlabelled (by decide)
    have hlast := @lastShown?_outs update.productId earlierLog
    intro hsame
    exact hchronological.changed update earlierLog hsuffix hchanged
      (hlast.symm.trans hsame)

/-! ## Every run -/

section Runs

variable {libraries : Libraries} {limit : ℕ} {start : InventoryDb}
  {state final : State}

theorem run_linked {db : InventoryDb} (hwell : db.WellFormed)
    (hfits : db.Fits) (hids : (db.products.map Inventory.Product.id).Nodup)
    {schedule : List Action}
    (hrun : run (step libraries (limit + 1)) (.init db) schedule =
      some final) : Linked libraries (limit + 1) db final :=
  run_invariant (fun _ _ _ hlinked hstep => hlinked.step hstep)
    (.init hwell hfits hids) hrun

/-- Nothing is on its way, and the session goes on. -/
structure Settled (state : State) : Prop where
  pump : state.bridge.pump = .running
  commands : state.bridge.commands = []
  uplink : state.uplink = []
  downlink : state.downlink = []
  server : Inventory.Live.Quiescent state.server

instance (state : State) : Decidable (Settled state) :=
  decidable_of_iff (state.bridge.pump = .running ∧
    state.bridge.commands = [] ∧ state.uplink = [] ∧ state.downlink = [] ∧
    Inventory.Live.Quiescent state.server)
    ⟨fun ⟨hpump, hcommands, huplink, hdownlink, hserver⟩ =>
      ⟨hpump, hcommands, huplink, hdownlink, hserver⟩,
    fun ⟨hpump, hcommands, huplink, hdownlink, hserver⟩ =>
      ⟨hpump, hcommands, huplink, hdownlink, hserver⟩⟩

/-- The handler takes its next steps alone. -/
def handlerSteps (count : ℕ) : List Action :=
  List.replicate count (.server (.call .generator))

def subscribeWidgets : String :=
  "\x7b\"action\": \"subscribe\", \"product_ids\": [1]\x7d"

/-- The browser subscribes to the widgets, and an order takes two of them. -/
def widgetsSold : List Action :=
  [.server (.driver .connects), .server (.driver .listens), .server .drain] ++
    handlerSteps 6 ++
    [.socket (.frame subscribeWidgets), .socket .take, .requestArrives,
      .server (.call .readCommand)] ++ handlerSteps 7 ++
    [.server (.serve (.reserve ⟨.ofText "order-1", [⟨1, 2⟩], .empty⟩ id)),
      .server (.driver (.payload
        (Inventory.Notifications.triggerPayload 1 98))),
      .server .drain, .responseArrives, .server .drain] ++ handlerSteps 6 ++
    [.responseArrives]

/-- At every moment the browser has the first so many updates of the handler,
and they go forward in the history of the table. -/
theorem browser_in_order {db : InventoryDb} (hwell : db.WellFormed)
    (hfits : db.Fits) (hids : (db.products.map Inventory.Product.id).Nodup)
    {schedule : List Action}
    (hrun : run (step libraries (limit + 1)) (.init db) schedule =
      some final) :
    shown final.bridge <+:
        (updatesOf final.server.call.log).map stockUpdateOut ∧
      InOrder db final.server.call.log (shown final.bridge) := by
  have hlinked := run_linked hwell hfits hids hrun
  have hinitial : shown final.bridge <+:
      (updatesOf final.server.call.log).map stockUpdateOut :=
    ⟨_, hlinked.shown.symm⟩
  exact ⟨hinitial,
    inOrder_of_prefix (hlinked.matched.chronological hids) hinitial⟩

theorem browser_in_order_widgetsSold : ∃ final,
    run (step plain 2) (.init Inventory.seededDb) widgetsSold = some final ∧
      (shown final.bridge).map StockUpdateOut.kind =
        ["snapshot", "changed"] ∧
      InOrder Inventory.seededDb final.server.call.log
        (shown final.bridge) := by
  have hshows : (run (step plain 2) (.init Inventory.seededDb)
      widgetsSold).any fun final => decide ((shown final.bridge).map
        StockUpdateOut.kind = ["snapshot", "changed"]) := by
    decide +kernel
  obtain ⟨final, hrun, hkinds⟩ := (Option.any_eq_true _ _).mp hshows
  exact ⟨final, hrun, of_decide_eq_true hkinds,
    (browser_in_order Inventory.seededDb_wellFormed (by decide) (by decide)
      hrun).2⟩

/-- The call watches what the frames of the browser amount to. -/
theorem Linked.watchSet_eq (hlinked : Linked libraries limit start state)
    (hsettled : Settled state) :
    state.server.call.watchSet = watchedIn libraries limit state.frames := by
  have hlog := hlinked.queued hsettled.pump
  have hfifo := hlinked.fifo
  rw [Bridge.Fifo, hlog, hsettled.commands, List.append_nil,
    List.filterMap_map] at hfifo
  have hsame : state.frames.filterMap (translation? libraries limit) =
      state.bridge.requests := by
    -- the sentinel is no command, so it does not matter whether it is taken
    have hcommands := congrArg (List.filterMap id) hfifo
    cases hopen : state.bridge.requestsOpen <;>
      simpa [Function.comp_def, Entry.put?, List.filterMap_filterMap, hopen]
        using hcommands
  rw [hlinked.watchSet, watchedIn, hsame, hlinked.requests,
    hsettled.server.requests, hsettled.uplink]
  simp [commandsIn]

theorem Linked.upToDate
    (hlinked : Linked libraries (limit + 1) start state)
    (hids : (start.products.map Inventory.Product.id).Nodup)
    (hsettled : Settled state) {productId : ℤ}
    (hwatched : productId ∈ watchedIn libraries (limit + 1) state.frames)
    (hknown : (start.available? productId).isSome) :
    ∃ out, lastShown? productId (BrowserWatch.shown state.bridge) = some out ∧
      state.server.call.db.available? productId =
        some out.availableQuantity := by
  have hshown : BrowserWatch.shown state.bridge =
      (updatesOf state.server.call.log).map stockUpdateOut := by
    rw [hlinked.shown, hsettled.downlink]
    exact (List.append_nil _).symm
  rw [← hlinked.watchSet_eq hsettled] at hwatched
  have hcurrent := (hlinked.matched.upToDate hids hsettled.server hwatched
    hknown).current
  obtain ⟨available, havailable⟩ : ∃ available,
      state.server.call.db.available? productId = some available := by
    rw [← Option.isSome_iff_exists, hlinked.matched.wired.tables.known]
    exact hknown
  rw [havailable, ← lastShown?_outs, ← hshown, Option.map_eq_some_iff]
    at hcurrent
  obtain ⟨out, hout, rfl⟩ := hcurrent
  exact ⟨out, hout, havailable⟩

/-- When nothing is on its way any more, the browser shows the committed
quantity of every product that it has subscribed and not given up. -/
theorem browser_up_to_date {db : InventoryDb} (hwell : db.WellFormed)
    (hfits : db.Fits) (hids : (db.products.map Inventory.Product.id).Nodup)
    {schedule : List Action}
    (hrun : run (step libraries (limit + 1)) (.init db) schedule =
      some final) (hsettled : Settled final) {productId : ℤ}
    (hwatched : productId ∈ watchedIn libraries (limit + 1) final.frames)
    (hknown : (db.available? productId).isSome) :
    ∃ out, lastShown? productId (shown final.bridge) = some out ∧
      final.server.call.db.available? productId =
        some out.availableQuantity :=
  (run_linked hwell hfits hids hrun).upToDate hids hsettled hwatched hknown

theorem browser_up_to_date_widgetsSold : ∃ final out,
    run (step plain 2) (.init Inventory.seededDb) widgetsSold = some final ∧
      final.server.call.db.available? 1 = some 98 ∧
      lastShown? 1 (shown final.bridge) = some out ∧
      final.server.call.db.available? 1 = some out.availableQuantity := by
  have hsettles : (run (step plain 2) (.init Inventory.seededDb)
      widgetsSold).any fun final => decide (Settled final ∧
        1 ∈ watchedIn plain 2 final.frames ∧
        final.server.call.db.available? 1 = some 98) := by
    decide +kernel
  obtain ⟨final, hrun, hfacts⟩ := (Option.any_eq_true _ _).mp hsettles
  obtain ⟨hsettled, hwatched, hsold⟩ := of_decide_eq_true hfacts
  obtain ⟨out, hout, hcurrent⟩ :=
    browser_up_to_date Inventory.seededDb_wellFormed (by decide) (by decide)
      hrun hsettled hwatched (by decide)
  exact ⟨final, out, hrun, hsold, hout, hcurrent⟩

end Runs

end OrderFlow.Orders.BrowserWatch
