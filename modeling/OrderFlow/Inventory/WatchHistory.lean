import OrderFlow.Inventory.NoLostUpdate
import Mathlib.Data.List.Forall2

/-!
# A watch goes forward in the history of the stock

The handler reads one table at a time and yields its rows before it reads the
next one, so that the updates of a product can be dated by the tables they were
read from.  `last_seen` is the quantity sent last, whatever is subscribed or
given up in between.
-/

namespace OrderFlow.Inventory.Watch

open TransitionSystem

/-! ## Dates -/

/-- The tables that were committed, the newest first and the initial one
last. -/
def history (initial : InventoryDb) : List Entry → List (List Product)
  | [] => [initial.products]
  | .committed products :: log => products :: history initial log
  | .applied _ :: log | .selected _ :: log | .sent _ :: log =>
      history initial log

/-- The number of commits; the initial table has the date 0. -/
def now : List Entry → ℕ
  | [] => 0
  | .committed _ :: log => now log + 1
  | .applied _ :: log | .selected _ :: log | .sent _ :: log => now log

/-- The quantity that the table of a date has of the product. -/
def quantityAt (initial : InventoryDb) (log : List Entry) (date : ℕ)
    (productId : ℤ) : Option ℤ :=
  (history initial log).reverse[date]?.bind fun products =>
    (products.find? fun product => product.id = productId).map
      Product.availableQuantity

/-- The updates sent for the product with the dates they were sent at, the
newest first. -/
def sends (productId : ℤ) : List Entry → List (ℕ × StockUpdate)
  | [] => []
  | .sent update :: log =>
      if update.productId = productId then
        (now log, update) :: sends productId log
      else sends productId log
  | .applied _ :: log | .selected _ :: log | .committed _ :: log =>
      sends productId log

/-- Every update carries the quantity of a date that was not over when it was
sent, and a later update has no earlier date. -/
structure Dated (initial : InventoryDb) (log : List Entry) (productId : ℤ)
    (dates : List ℕ) : Prop where
  matched : List.Forall₂
    (fun date sent => date ≤ sent.1 ∧
      quantityAt initial log date productId =
        some sent.2.availableQuantity)
    dates (sends productId log)
  forward : dates.Pairwise fun later earlier => earlier ≤ later

structure Chronological (initial : InventoryDb) (log : List Entry) : Prop where
  forward : ∀ productId, ∃ dates, Dated initial log productId dates
  /-- a CHANGED differs from the update before it -/
  changed : ∀ update earlier, (.sent update :: earlier) <:+ log →
    update.kind = .changed →
      (lastUpdate? update.productId earlier).map
        StockUpdate.availableQuantity ≠ some update.availableQuantity

section Dates

variable {initial : InventoryDb} {log : List Entry} {productId : ℤ}

theorem history_length : (history initial log).length = now log + 1 := by
  induction log with
  | nil => rfl
  | cons entry log ih =>
      cases entry with
      | committed products => exact congrArg (· + 1) ih
      | applied | selected | sent => exact ih

/-- What is past stays as it was. -/
theorem quantityAt_cons {date : ℕ} {quantity : ℤ} (entry : Entry)
    (hdate : quantityAt initial log date productId = some quantity) :
    quantityAt initial (entry :: log) date productId = some quantity := by
  cases entry with
  | applied | selected | sent => exact hdate
  | committed products =>
      obtain ⟨table, htable, hquantity⟩ := Option.bind_eq_some_iff.mp hdate
      obtain ⟨hlength, _⟩ := List.getElem?_eq_some_iff.mp htable
      rw [quantityAt, history, List.reverse_cons,
        List.getElem?_append_left hlength, htable]
      exact hquantity

/-- The newest table is the one of the present date. -/
theorem quantityAt_now {products : List Product}
    (hpresent : (history initial log).head? = some products) :
    quantityAt initial log (now log) productId =
      (products.find? fun product => product.id = productId).map
        Product.availableQuantity := by
  have hlast : now log = (history initial log).reverse.length - 1 := by
    rw [List.length_reverse, history_length, Nat.add_sub_cancel]
  rw [quantityAt, hlast, ← List.getLast?_eq_getElem?, List.getLast?_reverse,
    hpresent]
  rfl

/-- An entry that is no update of the product leaves its dates. -/
theorem Dated.cons {dates : List ℕ} (hdated : Dated initial log productId dates)
    {entry : Entry}
    (hsends : sends productId (entry :: log) = sends productId log) :
    Dated initial (entry :: log) productId dates where
  matched := by
    rw [hsends]
    exact hdated.matched.imp fun _ _ hmatch =>
      ⟨hmatch.1, quantityAt_cons entry hmatch.2⟩
  forward := hdated.forward

/-- An update of a table read since the last one. -/
theorem Dated.sent {dates : List ℕ} {sent : StockUpdate}
    (hdated : Dated initial log sent.productId dates) {read : ℕ}
    (hpast : ∀ date ∈ dates, date ≤ read) (hread : read ≤ now log)
    (hquantity : quantityAt initial log read sent.productId =
      some sent.availableQuantity) :
    Dated initial (.sent sent :: log) sent.productId (read :: dates) where
  matched := by
    rw [sends, if_pos rfl]
    exact .cons ⟨hread, hquantity⟩ (hdated.matched.imp fun _ _ hmatch =>
      ⟨hmatch.1, hmatch.2⟩)
  forward := List.pairwise_cons.mpr ⟨hpast, hdated.forward⟩

end Dates

/-! ## The table at hand -/

/-- The rows that are still to be yielded. -/
def Generator.rows : Generator → List ProductStockRow
  | .yielding rows _ => rows
  | _ => []

/-- Everything sent can be dated up to `read`, the date of the table that the
rows at hand were read from. -/
structure ReadAt (initial : InventoryDb) (state : State) (read : ℕ) :
    Prop where
  past : read ≤ now state.log
  dated : ∀ productId, ∃ dates, Dated initial state.log productId dates ∧
    ∀ date ∈ dates, date ≤ read
  rows : ∀ row ∈ state.generator.rows,
    quantityAt initial state.log read row.productId =
      some row.availableQuantity

structure InTime (initial : InventoryDb) (state : State) : Prop where
  ids : (state.db.products.map Product.id).Nodup
  present : (history initial state.log).head? = some state.db.products
  seen : ∀ productId, state.lastSeen productId =
    (lastUpdate? productId state.log).map StockUpdate.availableQuantity
  changed : ∀ update earlier, (.sent update :: earlier) <:+ state.log →
    update.kind = .changed →
      (lastUpdate? update.productId earlier).map
        StockUpdate.availableQuantity ≠ some update.availableQuantity
  read : ∃ read, ReadAt initial state read

section Steps

variable {initial : InventoryDb} {state next : State}

/-- What the dates depend on. -/
def State.sight (state : State) :=
  (state.db, state.lastSeen, state.log, state.generator)

theorem sight_of_core (hcore : next.core = state.core) :
    next.sight = state.sight := by
  simp only [State.core, Prod.mk.injEq] at hcore
  obtain ⟨hdb, hseen, hlog, _, _, hgenerator⟩ := hcore
  rw [State.sight, hdb, hseen, hlog, hgenerator]
  rfl

/-- The watch set does not matter. -/
theorem InTime.frame (htime : InTime initial state)
    (hsight : next.sight = state.sight) : InTime initial next := by
  simp only [State.sight, Prod.mk.injEq] at hsight
  obtain ⟨hdb, hseen, hlog, hgenerator⟩ := hsight
  obtain ⟨read, hread⟩ := htime.read
  refine ⟨hdb ▸ htime.ids, ?_, ?_, ?_, read, ?_⟩
  · rw [hlog, hdb]
    exact htime.present
  · rw [hseen, hlog]
    exact htime.seen
  · rw [hlog]
    exact htime.changed
  · exact ⟨hlog ▸ hread.past, hlog ▸ hread.dated, by
      rw [hlog, hgenerator]
      exact hread.rows⟩

/-- The handler goes on without rows. -/
theorem InTime.goto (htime : InTime initial state) {generator : Generator}
    (hrows : generator.rows = []) : InTime initial (state.goto generator) := by
  obtain ⟨read, hread⟩ := htime.read
  refine ⟨htime.ids, htime.present, htime.seen, htime.changed, read,
    hread.past, hread.dated, fun row hrow => ?_⟩
  rw [State.goto, hrows] at hrow
  exact absurd hrow List.not_mem_nil

theorem InTime.changed_cons (htime : InTime initial state) {entry : Entry}
    (hentry : ∀ update, entry = .sent update → update.kind = .changed →
      state.lastSeen update.productId ≠ some update.availableQuantity) :
    ∀ update earlier, (.sent update :: earlier) <:+ (entry :: state.log) →
      update.kind = .changed →
        (lastUpdate? update.productId earlier).map
          StockUpdate.availableQuantity ≠ some update.availableQuantity := by
  intro update earlier hsuffix hkind
  rcases List.suffix_cons_iff.mp hsuffix with hnow | hbefore
  · obtain ⟨rfl, rfl⟩ := List.cons.inj hnow
    rw [← htime.seen]
    exact hentry update rfl hkind
  · exact htime.changed update earlier hbefore hkind

/-- An entry that the observer writes while nothing is sent. -/
theorem InTime.note (htime : InTime initial state) {entry : Entry}
    (hcommit : ∀ products, entry ≠ .committed products)
    (hsend : ∀ update, entry ≠ .sent update) :
    InTime initial { state with log := entry :: state.log } := by
  obtain ⟨read, hread⟩ := htime.read
  have hsends : ∀ productId,
      sends productId (entry :: state.log) = sends productId state.log := by
    intro productId
    cases entry with
    | sent update => exact absurd rfl (hsend update)
    | applied | committed | selected => rfl
  have hlast : ∀ productId, lastUpdate? productId (entry :: state.log) =
      lastUpdate? productId state.log := by
    intro productId
    apply lastUpdate?_cons_none
    cases entry with
    | sent update => exact absurd rfl (hsend update)
    | applied | committed | selected => rfl
  refine ⟨htime.ids, ?_, fun productId => ?_, ?_, read, ?_, fun productId => ?_,
    fun row hrow => quantityAt_cons entry (hread.rows row hrow)⟩
  · cases entry with
    | committed products => exact absurd rfl (hcommit products)
    | applied | selected | sent => exact htime.present
  · rw [hlast]
    exact htime.seen productId
  · exact htime.changed_cons fun update hsent => absurd hsent (hsend update)
  · cases entry with
    | committed products => exact absurd rfl (hcommit products)
    | applied | selected | sent => exact hread.past
  · obtain ⟨dates, hdated, hpast⟩ := hread.dated productId
    exact ⟨dates, hdated.cons (hsends productId), hpast⟩

/-- A commit adds a date. -/
theorem InTime.commit (htime : InTime initial state) {db : InventoryDb}
    (hids : (db.products.map Product.id).Nodup) (notices : List ℤ) :
    InTime initial (state.commit db notices) := by
  obtain ⟨read, hread⟩ := htime.read
  refine ⟨hids, rfl, htime.seen, ?_, read, hread.past.trans (Nat.le_succ _),
    fun productId => ?_, fun row hrow => quantityAt_cons _ (hread.rows row hrow)⟩
  · exact htime.changed_cons fun update hsent => Entry.noConfusion hsent
  · obtain ⟨dates, hdated, hpast⟩ := hread.dated productId
    exact ⟨dates, hdated.cons rfl, hpast⟩

theorem InTime.applyCommand (htime : InTime initial state)
    (command : WatchCommand) : InTime initial (state.applyCommand command) := by
  have hnoted : InTime initial
      { state with log := .applied command :: state.log } :=
    htime.note (fun _ => Entry.noConfusion) fun _ => Entry.noConfusion
  apply hnoted.frame
  rw [State.applyCommand]
  cases command.action <;> rfl

/-- The handler reads the table of the present date. -/
theorem InTime.fetch (htime : InTime initial state) (watched : Finset ℤ)
    (snapshot : Bool) :
    InTime initial
      (state.goto (.yielding (fetchStock state.db watched) snapshot)) := by
  obtain ⟨read, hread⟩ := htime.read
  refine ⟨htime.ids, htime.present, htime.seen, htime.changed, now state.log,
    le_rfl, fun productId => ?_, fun row hrow => ?_⟩
  · obtain ⟨dates, hdated, hpast⟩ := hread.dated productId
    exact ⟨dates, hdated, fun date hdate =>
      (hpast date hdate).trans hread.past⟩
  · exact (quantityAt_now htime.present).trans
      (available?_of_mem_fetchStock htime.ids hrow)

/-- A row that is not sent is dropped. -/
theorem InTime.skip (htime : InTime initial state) {row : ProductStockRow}
    {rows : List ProductStockRow} {snapshot : Bool}
    (hgenerator : state.generator = .yielding (row :: rows) snapshot) :
    InTime initial (state.goto (.yielding rows snapshot)) := by
  obtain ⟨read, hread⟩ := htime.read
  have hrows := hread.rows
  rw [hgenerator] at hrows
  exact ⟨htime.ids, htime.present, htime.seen, htime.changed, read, hread.past,
    hread.dated, fun other hother => hrows other (List.mem_cons_of_mem row hother)⟩

/-- An update carries the date of the table at hand. -/
theorem InTime.send (htime : InTime initial state) {row : ProductStockRow}
    {rows : List ProductStockRow} {snapshot : Bool}
    (hgenerator : state.generator = .yielding (row :: rows) snapshot)
    (hsend : ¬ (snapshot = false ∧
      state.lastSeen row.productId = some row.availableQuantity)) :
    InTime initial ({ state with
        lastSeen := Function.update state.lastSeen row.productId
          (some row.availableQuantity)
        log := .sent (update row snapshot) :: state.log }.goto
      (.yielding rows snapshot)) := by
  obtain ⟨read, hread⟩ := htime.read
  have hrows := hread.rows
  rw [hgenerator] at hrows
  refine ⟨htime.ids, htime.present, fun productId => ?_, ?_, read, hread.past,
    fun productId => ?_, fun other hother =>
      hrows other (List.mem_cons_of_mem row hother)⟩
  · by_cases hsame : productId = row.productId
    · subst hsame
      refine (Function.update_self _ _ _).trans (Eq.symm ?_)
      exact congrArg (Option.map StockUpdate.availableQuantity)
        (lastUpdate?_sent (update row snapshot))
    · have hother : (update row snapshot).productId ≠ productId :=
        Ne.symm hsame
      refine (Function.update_of_ne hsame _ _).trans ?_
      rw [State.goto, lastUpdate?_sent_other hother]
      exact htime.seen productId
  · apply htime.changed_cons
    rintro _ ⟨⟩ hkind hseen
    refine hsend ⟨?_, hseen⟩
    cases snapshot with
    | true => cases hkind
    | false => rfl
  · obtain ⟨dates, hdated, hpast⟩ := hread.dated productId
    by_cases hsame : row.productId = productId
    · subst hsame
      refine ⟨read :: dates, ?_, List.forall_mem_cons.mpr ⟨le_rfl, hpast⟩⟩
      exact @Dated.sent initial state.log dates (update row snapshot) hdated
        read hpast hread.past (hrows row List.mem_cons_self)
    · exact ⟨dates, hdated.cons (if_neg hsame), hpast⟩

theorem InTime.close (htime : InTime initial state) :
    InTime initial state.close := by
  obtain ⟨read, hread⟩ := htime.read
  exact ⟨htime.ids, htime.present, htime.seen, htime.changed, read, hread.past,
    hread.dated, fun _ hrow => absurd hrow List.not_mem_nil⟩

theorem InTime.handlerStep (htime : InTime initial state)
    (hstep : HandlerStep state next) : InTime initial next := by
  cases hstep with
  | check | takeWatched | done => exact htime.goto rfl
  | leave => exact htime.close
  | @get marker events =>
      have hframe : InTime initial { state with events := events } :=
        htime.frame rfl
      exact hframe.goto (by cases marker <;> rfl)
  | takeFresh =>
      obtain ⟨read, hread⟩ := htime.read
      exact ⟨htime.ids, htime.present, htime.seen, htime.changed, read,
        hread.past, hread.dated, fun _ hrow => absurd hrow List.not_mem_nil⟩
  | @select ids snapshot =>
      have hnoted : InTime initial { state with
          log := .selected (state.watchSet ∩ ids) :: state.log } :=
        htime.note (fun _ => Entry.noConfusion) fun _ => Entry.noConfusion
      exact hnoted.goto rfl
  | @fetch watched snapshot => exact htime.fetch watched snapshot
  | skip hgenerator => exact htime.skip hgenerator
  | send hgenerator hsend => exact htime.send hgenerator hsend

theorem InTime.step (htime : InTime initial state) {action : Action}
    (hstep : step state action = some next) : InTime initial next := by
  cases transition_of_step hstep with
  | client hcore => exact htime.frame (sight_of_core hcore)
  | down hcore => exact htime.frame (sight_of_core hcore)
  | listener hlistener =>
      exact htime.frame (sight_of_core (stepListener_core hlistener))
  | commit hids => exact htime.commit hids _
  | @readCommand command requests =>
      have hframe : InTime initial { state with requests := requests } :=
        htime.frame rfl
      exact hframe.applyCommand command
  | generator hhandler => exact htime.handlerStep hhandler
  | timeout => exact htime.goto rfl
  | close => exact htime.close

end Steps

/-! ## Every run -/

theorem InTime.init {db : InventoryDb}
    (hids : (db.products.map Product.id).Nodup) : InTime db (.init db) where
  ids := hids
  present := rfl
  seen _ := rfl
  changed update earlier hsuffix :=
    absurd (List.suffix_nil.mp hsuffix) (List.cons_ne_nil _ _)
  read := ⟨0, le_rfl, fun _ => ⟨[], ⟨.nil, .nil⟩, by simp⟩,
    fun _ hrow => absurd hrow List.not_mem_nil⟩

/-- Whatever the threads, the client and the database do, the updates of a
product go forward in its history, and a CHANGED repeats nothing. -/
theorem updates_chronological {db : InventoryDb}
    (hids : (db.products.map Product.id).Nodup) {schedule : List Action}
    {final : State} (hrun : run step (.init db) schedule = some final) :
    Chronological db final.log := by
  have htime : InTime db final :=
    run_invariant (fun _ _ _ htime hstep => htime.step hstep) (.init hids) hrun
  obtain ⟨read, hread⟩ := htime.read
  refine ⟨fun productId => ?_, htime.changed⟩
  obtain ⟨dates, hdated, _⟩ := hread.dated productId
  exact ⟨dates, hdated⟩

theorem updates_chronological_soldOffline : ∃ final,
    run step (.init seededDb) soldOffline = some final ∧
      Chronological seededDb final.log :=
  ⟨_, rfl, @updates_chronological seededDb (by decide) soldOffline _ rfl⟩

end OrderFlow.Inventory.Watch
