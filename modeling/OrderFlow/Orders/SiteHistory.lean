import OrderFlow.Orders.Site

/-!
# What all browsers have in common

The calls of order-service and of everybody else make one history of
inventory-db.  Every browser goes forward in this history, and those at rest
have come to its end.
-/

namespace OrderFlow.Orders.Site

open OrderFlow.Inventory
open OrderFlow.Orders.BrowserWatch (Settled handlerSteps lastShown? shown
  subscribeWidgets watchedIn)
open OrderFlow.Orders.StockWatch (Libraries StockUpdateOut plain)
open OrderFlow.TransitionSystem

section Runs

variable {libraries : Libraries} {limit : ℕ} {world : World} {final : State}
  {schedule : List Action}

/-- The quantities that a list of updates shows are those of some dates of the
history, and the dates go forward. -/
def Samples (start : InventoryDb) (calls : List ServiceCall)
    (outs : List StockUpdateOut) : Prop :=
  ∀ productId, ∃ dates : List ℕ, dates.Pairwise (· ≤ ·) ∧
    List.Forall₂ (fun date out => date ≤ calls.length ∧
      (runCalls start (calls.take date)).available? productId =
        some (StockUpdateOut.availableQuantity out)) dates
      (outs.filter fun out => out.productId = productId)

theorem Coherent.samples {start : InventoryDb} {calls : List ServiceCall}
    (hcoherent : Coherent libraries limit start calls final)
    (hids : (start.products.map Product.id).Nodup) (number : ℕ) :
    Samples start calls (shown (final.browsers number).bridge) := by
  have hsees := hcoherent.sees number
  have hinOrder := BrowserWatch.inOrder_of_prefix
    (hsees.linked.matched.chronological hids) ⟨_, hsees.linked.shown.symm⟩
  intro productId
  obtain ⟨dates, hforward, hdated⟩ := hinOrder.forward productId
  exact ⟨dates, hforward, hdated.imp fun date out hquantity =>
    quantityAt_timeline hsees.history hquantity⟩

/-- A browser subscribes to the widgets. -/
def subscribes : List BrowserWatch.Action :=
  [.server (.driver .connects), .server (.driver .listens), .server .drain] ++
    handlerSteps 6 ++
    [.socket (.frame subscribeWidgets), .socket .take, .requestArrives,
      .server (.call .readCommand)] ++ handlerSteps 7 ++
    [.responseArrives]

/-- It hears that 98 of them are left. -/
def hears : List BrowserWatch.Action :=
  [.server (.driver (.payload
      (Inventory.Notifications.triggerPayload 1 98))),
    .server .drain, .server .drain] ++ handlerSteps 6 ++ [.responseArrives]

def buysWidgets : List Edge.Action :=
  [.post 0 [(1, 2)] (some "key-1") .zero id, .advance 0 {}, .advance 0 {},
    .advance 0 {}]

/-- Two browsers watch the widgets while somebody buys two of them. -/
def watchedSale : List Action :=
  subscribes.map (.browser 0) ++ subscribes.map (.browser 1) ++
    buysWidgets.map .edge ++ hears.map (.browser 1) ++ hears.map (.browser 0)

/-- All browsers are shown quantities of one and the same history, each in its
order: what is available after the first so many calls. -/
theorem browsers_share_history (hwell : world.inventory.WellFormed)
    (hfits : world.inventory.Fits)
    (hids : (world.inventory.products.map Product.id).Nodup)
    (hroomy : world.inventory.Roomy)
    (hrun : run (step libraries (limit + 1)) (.init world) schedule =
      some final) :
    ∃ calls,
      final.edge.world.inventory = runCalls world.inventory calls ∧
        ∀ number, Samples world.inventory calls
          (shown (final.browsers number).bridge) := by
  obtain ⟨calls, hcoherent⟩ := run_coherent hwell hfits hids hroomy hrun
  exact ⟨calls, hcoherent.tables, hcoherent.samples hids⟩

theorem browsers_share_history_watchedSale : ∃ final calls,
    run (step plain 2) (.init ⟨[], seededDb⟩) watchedSale = some final ∧
      (shown (final.browsers 0).bridge).map
        StockUpdateOut.availableQuantity = [100, 98] ∧
      Samples seededDb calls (shown (final.browsers 0).bridge) ∧
        Samples seededDb calls (shown (final.browsers 1).bridge) := by
  have hshows : (run (step plain 2) (.init ⟨[], seededDb⟩) watchedSale).any
      fun final => decide ((shown (final.browsers 0).bridge).map
        StockUpdateOut.availableQuantity = [100, 98]) := by
    decide +kernel
  obtain ⟨final, hrun, hquantities⟩ := (Option.any_eq_true _ _).mp hshows
  obtain ⟨calls, _, hsamples⟩ := browsers_share_history seededDb_wellFormed
    (by decide) (by decide) (by decide) hrun
  exact ⟨final, calls, hrun, of_decide_eq_true hquantities, hsamples 0,
    hsamples 1⟩

/-- The browsers at rest show, of every product that they watch, what the
orders have left of it. -/
theorem settled_browsers_agree (hwell : world.inventory.WellFormed)
    (hfits : world.inventory.Fits)
    (hids : (world.inventory.products.map Product.id).Nodup)
    (hroomy : world.inventory.Roomy)
    (hrun : run (step libraries (limit + 1)) (.init world) schedule =
      some final) {productId total : ℤ}
    (htotal : world.inventory.total? productId = some total) (number : ℕ)
    (hsettled : Settled (final.browsers number))
    (hwatched : productId ∈ watchedIn libraries (limit + 1)
      (final.browsers number).frames) :
    ∃ out, lastShown? productId (shown (final.browsers number).bridge) =
        some out ∧
      out.availableQuantity =
        total - final.edge.world.inventory.reservedQuantity productId := by
  obtain ⟨calls, hcoherent⟩ := run_coherent hwell hfits hids hroomy hrun
  have hsees := hcoherent.sees number
  have hknown : (world.inventory.available? productId).isSome := by
    rw [InventoryDb.total?, Option.map_eq_some_iff] at htotal
    obtain ⟨available, havailable, _⟩ := htotal
    rw [havailable]
    rfl
  obtain ⟨out, hout, hcurrent⟩ :=
    hsees.linked.upToDate hids hsettled hwatched hknown
  have hkept := (runCalls_keeps hwell calls).total productId
  rw [hsees.tables] at hcurrent
  rw [htotal, InventoryDb.total?, hcurrent, Option.map_some,
    Option.some.injEq] at hkept
  refine ⟨out, hout, ?_⟩
  rw [hcoherent.tables, ← hkept]
  omega

theorem settled_browsers_agree_watchedSale : ∃ final first second,
    run (step plain 2) (.init ⟨[], seededDb⟩) watchedSale = some final ∧
      lastShown? 1 (shown (final.browsers 0).bridge) = some first ∧
      lastShown? 1 (shown (final.browsers 1).bridge) = some second ∧
      first.availableQuantity = 100 - 2 ∧
        second.availableQuantity = 100 - 2 := by
  have hrests : (run (step plain 2) (.init ⟨[], seededDb⟩) watchedSale).any
      fun final => decide ((∀ number : Fin 2,
        Settled (final.browsers number) ∧
          1 ∈ watchedIn plain 2 (final.browsers number).frames) ∧
        final.edge.world.inventory.reservedQuantity 1 = 2) := by
    decide +kernel
  obtain ⟨final, hrun, hfacts⟩ := (Option.any_eq_true _ _).mp hrests
  obtain ⟨hboth, hreserved⟩ := of_decide_eq_true hfacts
  have hagree : ∀ number : Fin 2, ∃ out,
      lastShown? 1 (shown (final.browsers number).bridge) = some out ∧
        out.availableQuantity = 100 - 2 := by
    intro number
    obtain ⟨hsettled, hwatched⟩ := hboth number
    have hcurrent := settled_browsers_agree seededDb_wellFormed (by decide)
      (by decide) (by decide) hrun (by decide : seededDb.total? 1 = some 100)
      number hsettled hwatched
    rwa [hreserved] at hcurrent
  obtain ⟨first, hfirst, hfirstLeft⟩ := hagree 0
  obtain ⟨second, hsecond, hsecondLeft⟩ := hagree 1
  exact ⟨final, first, second, hrun, hfirst, hsecond, hfirstLeft, hsecondLeft⟩

end Runs

end OrderFlow.Orders.Site
