import Mathlib.Data.Int.ConditionallyCompleteOrder
import OrderFlow.Core.ChangeFeed
import OrderFlow.Inventory.Conservation
import OrderFlow.Inventory.History
import OrderFlow.Inventory.ListenerSurvival

/-!
# The trigger behind the live updates

Migration 0003: every UPDATE that changes `available_quantity` notifies the
channel with the id and the new quantity of the row, and the notifications are
delivered when the transaction commits.  The UPDATEs here are those that
`reserve_stock` and `release_stock` make, statement by statement.
-/

namespace OrderFlow.Inventory

open OrderFlow.ChangeFeed
open OrderFlow.Json
open OrderFlow.Inventory.Notifications

/-! ## UPDATEs -/

/-- `UPDATE inventory_app_product SET available_quantity`, of one row. -/
abbrev StockChange := Change ℤ ℤ

/-- The UPDATE of one line, when the loop comes to it. -/
def ReserveLoop.update? (db : InventoryDb) (loop : ReserveLoop)
    (item : ReserveItem) : Option StockChange :=
  if item.quantity ≤ 0 then none
  else (loop.tx.available? db item.productId).bind fun available =>
    if available < item.quantity then none
    else some ⟨item.productId, available, available - item.quantity⟩

/-- The UPDATEs of the loop of `reserve_stock`. -/
def reserveUpdates (db : InventoryDb) (call : ReserveCall) :
    ReserveLoop → List ReserveItem → List StockChange
  | _, [] => []
  | loop, item :: items =>
      (loop.update? db item).toList ++
        match reserveLine db call loop item with
        | .error _ => []
        | .ok next => reserveUpdates db call next items

/-- The UPDATEs of the loop of `release_stock`. -/
def releaseUpdates (db : InventoryDb) :
    Tx → List StockReservation → List StockChange
  | _, [] => []
  | tx, row :: rows =>
      ((tx.available? db row.productId).map fun available =>
        ⟨row.productId, available, available + row.quantity⟩).toList ++
          releaseUpdates db (releaseLine db tx row) rows

/-- The UPDATEs that a call commits: a transaction that is rolled back leaves
none. -/
def ServiceCall.updates (db : InventoryDb) : ServiceCall → List StockChange
  | .reserve request clock =>
      let call := request.toCall db clock
      if call.items = [] then []
      else match replay? db call.idempotencyKey with
        | some _ => []
        | none =>
            match reserveLoop db call .start (sortedItems call.items) with
            | .error _ => []
            | .ok loop =>
                if loop.allOk then
                  reserveUpdates db call .start (sortedItems call.items)
                else []
  | .release orderRef =>
      releaseUpdates db .start
        (orderByProductId (db.reservedForOrder orderRef))

/-- The payloads that the commit of a call delivers. -/
def ServiceCall.notices (db : InventoryDb) (call : ServiceCall) :
    List String :=
  feed triggerPayload (call.updates db)

/-! ## What the UPDATEs lead to -/

/-- A write of a product that is there, as its own transaction reads it. -/
theorem Tx.available?_write_eq_update {tx : Tx} {db : InventoryDb}
    {productId old : ℤ} (hold : tx.available? db productId = some old)
    (quantity : ℤ) :
    (tx.write productId quantity).available? db =
      Function.update (tx.available? db) productId (some quantity) := by
  funext other
  rw [Tx.available?_write]
  by_cases hsame : other = productId
  · subst hsame
    have hknown : db.available? other ≠ none := by
      rw [Ne, ← Tx.available?_eq_none_iff tx db other, hold]
      simp
    obtain ⟨committed, hcommitted⟩ := Option.ne_none_iff_exists'.mp hknown
    rw [if_pos rfl, Function.update_self, hcommitted]
    rfl
  · rw [if_neg hsame, Function.update_of_ne hsame]

/-- The UPDATE of one line, and what the transaction reads behind it. -/
theorem reserveLine_leads {db : InventoryDb} {call : ReserveCall}
    {loop next : ReserveLoop} {item : ReserveItem}
    (hline : reserveLine db call loop item = .ok next) :
    Leads (loop.tx.available? db) (loop.update? db item).toList
        (next.tx.available? db) ∧
      ∀ change ∈ loop.update? db item, change.new < change.old := by
  have hcase := reserveLine_case db call loop item
  rw [hline] at hcase
  cases hcase with
  | nonPositive hquantity =>
      rw [ReserveLoop.update?, if_pos hquantity]
      exact ⟨.nil _, fun _ hchange => by simp at hchange⟩
  | notFound hquantity hproduct =>
      rw [ReserveLoop.update?, if_neg hquantity.not_ge, hproduct]
      exact ⟨.nil _, fun _ hchange => by simp at hchange⟩
  | insufficient available hquantity hproduct hshort =>
      rw [ReserveLoop.update?, if_neg hquantity.not_ge, hproduct,
        Option.bind_some, if_pos hshort]
      exact ⟨.nil _, fun _ hchange => by simp at hchange⟩
  | reserved available hquantity hproduct henough hindex =>
      rw [ReserveLoop.update?, if_neg hquantity.not_ge, hproduct,
        Option.bind_some, if_neg henough.not_gt]
      constructor
      · refine .cons hproduct ?_
        have hread := Tx.available?_write_eq_update hproduct
          (available - item.quantity)
        exact hread ▸ .nil _
      · intro change hchange
        obtain rfl := Option.some.inj hchange
        change available - item.quantity < available
        linarith

theorem reserveUpdates_leads {db : InventoryDb} {call : ReserveCall}
    {loop final : ReserveLoop} {items : List ReserveItem}
    (hrun : reserveLoop db call loop items = .ok final) :
    Leads (loop.tx.available? db) (reserveUpdates db call loop items)
        (final.tx.available? db) ∧
      Falling id (reserveUpdates db call loop items) := by
  induction items generalizing loop with
  | nil =>
      obtain rfl : loop = final := Except.ok.inj hrun
      exact ⟨.nil _, fun _ hchange => absurd hchange List.not_mem_nil⟩
  | cons item items ih =>
      rw [reserveLoop_cons] at hrun
      cases hline : reserveLine db call loop item with
      | error error =>
          rw [hline] at hrun
          exact absurd hrun (by simp [Except.bind])
      | ok next =>
          rw [hline] at hrun
          obtain ⟨hleads, hfalls⟩ := reserveLine_leads hline
          obtain ⟨hrest, hrestFalls⟩ := ih hrun
          simp only [reserveUpdates, hline]
          refine ⟨hleads.append hrest, fun change hchange => ?_⟩
          rcases List.mem_append.mp hchange with hfirst | hlater
          · exact .inr (hfalls change (by simpa using hfirst))
          · exact hrestFalls change hlater

/-- The add-back of one row, and what the transaction reads behind it. -/
theorem releaseUpdates_leads {db : InventoryDb} {tx : Tx}
    {rows : List StockReservation} (hrows : ∀ row ∈ rows, 0 ≤ row.quantity) :
    Leads (tx.available? db) (releaseUpdates db tx rows)
        ((releaseLoop db tx rows).available? db) ∧
      Falling (fun value : ℤ => -value) (releaseUpdates db tx rows) := by
  induction rows generalizing tx with
  | nil => exact ⟨.nil _, fun _ hchange => absurd hchange List.not_mem_nil⟩
  | cons row rows ih =>
      rw [List.forall_mem_cons] at hrows
      obtain ⟨hrest, hfalls⟩ := @ih (releaseLine db tx row) hrows.2
      have hloop : releaseLoop db tx (row :: rows) =
          releaseLoop db (releaseLine db tx row) rows := rfl
      rw [hloop, releaseUpdates]
      cases hproduct : tx.available? db row.productId with
      | none =>
          have hread : (releaseLine db tx row).available? db =
              tx.available? db := by
            rw [releaseLine, addBack, hproduct]
            rfl
          rw [hread] at hrest
          exact ⟨hrest, hfalls⟩
      | some available =>
          have hread : (releaseLine db tx row).available? db =
              Function.update (tx.available? db) row.productId
                (some (available + row.quantity)) := by
            rw [releaseLine, addBack, hproduct]
            exact Tx.available?_write_eq_update hproduct _
          rw [hread] at hrest
          refine ⟨.cons hproduct hrest, fun change hchange => ?_⟩
          rcases List.mem_cons.mp hchange with rfl | hlater
          · rcases hrows.1.eq_or_lt with hzero | hpositive
            · exact .inl (by simp [← hzero])
            · refine .inr ?_
              change -(available + row.quantity) < -available
              linarith
          · exact hfalls change hlater

/-- The UPDATEs of a call lead from the tables before it to those after it, and
move every product in one direction. -/
theorem ServiceCall.updates_lead {db : InventoryDb} (hwell : db.WellFormed)
    (call : ServiceCall) :
    Leads db.available? (call.updates db) (call.apply db).available? ∧
      (Falling id (call.updates db) ∨
        Falling (fun value : ℤ => -value) (call.updates db)) := by
  have hstart : Tx.start.available? db = db.available? :=
    funext (Tx.available?_start db)
  have hcommit : ∀ tx : Tx, (db.commit tx).available? = tx.available? db :=
    fun tx => funext (db.available?_commit tx)
  have hnothing : Leads db.available? [] db.available? ∧
      (Falling id ([] : List StockChange) ∨
        Falling (fun value : ℤ => -value) ([] : List StockChange)) :=
    ⟨.nil _, .inl fun _ hchange => absurd hchange List.not_mem_nil⟩
  cases call with
  | release orderRef =>
      have hrows : ∀ row ∈ orderByProductId (db.reservedForOrder orderRef),
          0 ≤ row.quantity := by
        intro row hrow
        rw [(perm_orderByProductId _).mem_iff] at hrow
        exact hwell.quantity_nonneg row (List.mem_of_mem_filter hrow)
      obtain ⟨hleads, hfalls⟩ :=
        @releaseUpdates_leads db .start _ hrows
      rw [hstart, ← hcommit] at hleads
      exact ⟨hleads, .inr hfalls⟩
  | reserve request clock =>
      have happly : (ServiceCall.reserve request clock).apply db =
          (reserveStock db (request.toCall db clock)).1 := rfl
      rw [happly, ServiceCall.updates, reserveStock]
      by_cases hitems : (request.toCall db clock).items = []
      · simp only [if_pos hitems]
        exact hnothing
      simp only [if_neg hitems]
      cases replay? db (request.toCall db clock).idempotencyKey with
      | some outcome => exact hnothing
      | none =>
          simp only [reserveBody]
          cases hrun : reserveLoop db (request.toCall db clock) .start
              (sortedItems (request.toCall db clock).items) with
          | error error => exact hnothing
          | ok loop =>
              simp only [ReserveLoop.finish]
              split_ifs with hallOk
              · obtain ⟨hleads, hfalls⟩ := reserveUpdates_leads hrun
                rw [hcommit, ← hstart]
                exact ⟨hleads, .inl hfalls⟩
              · exact hnothing

/-! ## The payloads -/

theorem triggerPayload_injective (productId quantity otherId other : ℤ)
    (hsame : triggerPayload productId quantity =
      triggerPayload otherId other) :
    productId = otherId ∧ quantity = other := by
  have hcomma : ∀ rest, Delimits (',' :: rest) := fun rest =>
    delimits_cons (.inl rfl)
  have hbrace : Delimits ['\x7d'] := delimits_cons (.inr rfl)
  have htext := congrArg String.toList hsame
  rw [triggerPayload, triggerPayload, String.toList_ofList,
    String.toList_ofList] at htext
  simp only [renderRecord, renderTail, renderMember, Scalar.render,
    List.flatMap_cons, List.flatMap_nil, List.append_nil, List.cons_append,
    List.append_assoc, List.cons.injEq, List.append_cancel_left_eq,
    true_and] at htext
  obtain ⟨hid, hrest⟩ := renderInt_append_inj (hcomma _) (hcomma _) htext
  simp only [List.cons.injEq, List.append_cancel_left_eq, true_and] at hrest
  exact ⟨hid, (renderInt_append_inj hbrace hbrace hrest).1⟩

/-- Every product has an id and a quantity that its columns can hold. -/
def InventoryDb.Fits (db : InventoryDb) : Prop :=
  ∀ product ∈ db.products, (-2 ^ 63 ≤ product.id ∧ product.id < 2 ^ 63) ∧
    PositiveIntegerField product.availableQuantity

instance (value : ℤ) : Decidable (PositiveIntegerField value) :=
  inferInstanceAs (Decidable (_ ∧ _))

instance (db : InventoryDb) : Decidable db.Fits :=
  inferInstanceAs (Decidable (∀ product ∈ db.products, _))

theorem InventoryDb.Fits.available? {db : InventoryDb} (hfits : db.Fits)
    {productId available : ℤ}
    (havailable : db.available? productId = some available) :
    (-2 ^ 63 ≤ productId ∧ productId < 2 ^ 63) ∧
      PositiveIntegerField available := by
  obtain ⟨product, hproduct, rfl⟩ := Option.map_eq_some_iff.mp havailable
  have hid : product.id = productId := by
    simpa using List.find?_some hproduct
  rw [← hid]
  exact hfits product (List.mem_of_find?_eq_some hproduct)

/-- What `_parse_product_id` makes of the payload is the product. -/
def reads (limit : ℕ) (productId : ℤ) (payload : String) : Bool :=
  productId? limit payload = some productId

theorem productId?_change {limit : ℕ} {db : InventoryDb}
    (hwell : db.WellFormed) (hfits : db.Fits) {call : ServiceCall}
    (hafter : (call.apply db).Fits) {change : StockChange}
    (hchange : change ∈ call.updates db) :
    productId? (limit + 1) (triggerPayload change.key change.new) =
      some change.key := by
  obtain ⟨hleads, hfalls⟩ := call.updates_lead hwell
  have hbounds : (-2 ^ 63 ≤ change.key ∧ change.key < 2 ^ 63) ∧
      -2 ^ 63 ≤ change.new ∧ change.new < 2 ^ 63 := by
    rcases hfalls with hfalls | hfalls
    all_goals
      obtain ⟨old, new, hold, hnew, hlow, hhigh⟩ :=
        hleads.between hfalls hchange
      obtain ⟨hid, holdLow, holdHigh⟩ := hfits.available? hold
      obtain ⟨_, hnewLow, hnewHigh⟩ := hafter.available? hnew
      simp only [id_eq, neg_le_neg_iff] at hlow hhigh
      exact ⟨hid, by omega, by omega⟩
  exact productId?_trigger (short_of_bounds hbounds.1.1 hbounds.1.2)
    (short_of_bounds hbounds.2.1 hbounds.2.2)

/-- The last payload about a product that a call delivers: there is one exactly
if the call has changed the product, and it has the committed quantity. -/
theorem last_notice {limit : ℕ} {db : InventoryDb} (hwell : db.WellFormed)
    (hfits : db.Fits) {call : ServiceCall} (hafter : (call.apply db).Fits)
    (productId : ℤ) :
    ((call.notices db).filter (reads (limit + 1) productId)).getLast? =
      if (call.apply db).available? productId = db.available? productId then
        none
      else ((call.apply db).available? productId).map
        (triggerPayload productId) := by
  have habout : ∀ change ∈ call.updates db,
      reads (limit + 1) productId (triggerPayload change.key change.new) =
        decide (change.key = productId) := by
    intro change hchange
    rw [reads, productId?_change hwell hfits hafter hchange]
    simp
  obtain ⟨hleads, hfalls | hfalls⟩ := call.updates_lead hwell
  · exact hleads.getLast?_feed triggerPayload_injective hfalls habout
  · exact hleads.getLast?_feed triggerPayload_injective hfalls habout

/-- Two lines for the widgets, without a key, and one for the gadgets. -/
def threeLines : ServiceCall :=
  .reserve ⟨.ofText "order-1", [⟨1, 2⟩, ⟨2, 1⟩, ⟨1, 3⟩], .empty⟩ id

theorem last_notice_threeLines :
    threeLines.notices seededDb = [triggerPayload 1 98, triggerPayload 1 95,
        triggerPayload 2 49] ∧
      ((threeLines.notices seededDb).filter (reads 1 1)).getLast? =
        some (triggerPayload 1 95) ∧
      ((threeLines.notices seededDb).filter (reads 1 3)).getLast? = none := by
  have hlast := @last_notice 0 seededDb seededDb_wellFormed (by decide) threeLines (by decide)
  exact ⟨by decide +kernel, hlast 1, hlast 3⟩

end OrderFlow.Inventory
