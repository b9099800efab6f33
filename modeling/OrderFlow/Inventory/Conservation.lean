import OrderFlow.Inventory.History
import OrderFlow.Inventory.SerialInvariants
import OrderFlow.Inventory.Simulation

/-!
# Stock is conserved

The quantity of a product that is available and the quantity held in RESERVED
rows add up to the same number at all times, whatever calls run and however
their statements interleave.  It follows that no product is oversold and that
no pending write, the add-back of a release included, leaves the range of its
column.
-/

namespace OrderFlow.Inventory

/-- The range of a `PositiveIntegerField` column in PostgreSQL. -/
def PositiveIntegerField (value : ℤ) : Prop := 0 ≤ value ∧ value ≤ 2147483647

/-- What is available of a product and what is reserved of it, together. -/
def InventoryDb.total? (db : InventoryDb) (productId : ℤ) : Option ℤ :=
  (db.available? productId).map fun available =>
    available + db.reservedQuantity productId

theorem InventoryDb.WellFormed.reservedQuantity_nonneg {db : InventoryDb}
    (hwell : db.WellFormed) (productId : ℤ) :
    0 ≤ db.reservedQuantity productId :=
  groupedSum.nonneg (fun row hrow =>
    hwell.quantity_nonneg row (List.mem_of_mem_filter hrow)) productId

/-! ## Reserving -/

/-- Accepted lines add to the RESERVED rows what they take from stock. -/
theorem Progress.reservedQuantity {db : InventoryDb} {call : ReserveCall}
    {done accepted : List ReserveItem} {loop : ReserveLoop}
    (hprogress : Progress db call done accepted loop) (productId : ℤ) :
    (db.commit loop.tx).reservedQuantity productId =
      db.reservedQuantity productId + requested accepted productId := by
  have hnew : (call.rows accepted).filter (fun row =>
      decide (row.status = .reserved)) = call.rows accepted := by
    rw [List.filter_eq_self]
    intro row hrow
    obtain ⟨item, _, line, rfl⟩ := ReserveCall.mem_rows hrow
    rfl
  rw [InventoryDb.reservedQuantity,
    hprogress.reservations_commit, List.filter_append, hnew,
    quantityOf, groupedSum.append, ← call.quantityOf_rows accepted productId]
  rfl

theorem Progress.total? {db : InventoryDb} {call : ReserveCall}
    {done accepted : List ReserveItem} {loop : ReserveLoop}
    (hprogress : Progress db call done accepted loop) (productId : ℤ) :
    (db.commit loop.tx).total? productId = db.total? productId := by
  rw [InventoryDb.total?, InventoryDb.total?, InventoryDb.available?_commit,
    hprogress.balance, hprogress.reservedQuantity, Option.map_map]
  congr 1
  funext available
  change available - requested accepted productId +
    (db.reservedQuantity productId + requested accepted productId) =
      available + db.reservedQuantity productId
  linarith

/-- Only what is there is taken. -/
theorem Progress.requested_le {db : InventoryDb} {call : ReserveCall}
    {done accepted : List ReserveItem} {loop : ReserveLoop}
    (hprogress : Progress db call done accepted loop) {productId available : ℤ}
    (havailable : db.available? productId = some available)
    (hnonneg : 0 ≤ available) : requested accepted productId ≤ available := by
  by_cases hproduct : ∃ item ∈ accepted, item.productId = productId
  · obtain ⟨item, hitem, rfl⟩ := hproduct
    obtain ⟨committed, hcommitted, hcovered⟩ := hprogress.covered item hitem
    rw [Option.some.inj (havailable.symm.trans hcommitted)]
    exact hcovered
  · have hzero : requested accepted productId = 0 :=
      groupedSum.eq_zero_of_forall_ne fun item hitem hsame =>
        hproduct ⟨item, hitem, hsame⟩
    rw [hzero]
    exact hnonneg

theorem Progress.requested_nonneg {db : InventoryDb} {call : ReserveCall}
    {done accepted : List ReserveItem} {loop : ReserveLoop}
    (hprogress : Progress db call done accepted loop) (productId : ℤ) :
    0 ≤ requested accepted productId :=
  groupedSum.nonneg (fun item hitem => (hprogress.positive item hitem).le) _

theorem Progress.wellFormed {db : InventoryDb} {call : ReserveCall}
    {done accepted : List ReserveItem} {loop : ReserveLoop}
    (hprogress : Progress db call done accepted loop)
    (hwell : db.WellFormed)
    (hids : ((db.commit loop.tx).reservations.map
      StockReservation.id).Nodup) : (db.commit loop.tx).WellFormed where
  ids_nodup := hids
  available_nonneg productId available havailable := by
    rw [InventoryDb.available?_commit, hprogress.balance] at havailable
    obtain ⟨committed, hcommitted, rfl⟩ := Option.map_eq_some_iff.mp havailable
    have hnonneg := hwell.available_nonneg productId committed hcommitted
    have hcovered := hprogress.requested_le hcommitted hnonneg
    linarith
  quantity_nonneg row hrow := by
    rw [hprogress.reservations_commit, List.mem_append] at hrow
    rcases hrow with hold | hnew
    · exact hwell.quantity_nonneg row hold
    · obtain ⟨item, hitem, line, rfl⟩ := ReserveCall.mem_rows hnew
      exact (hprogress.positive item hitem).le

/-! ## Releasing -/

/-- The rows a release has locked are RESERVED rows, each of them once. -/
structure Releasable (db : InventoryDb) (rows : List StockReservation) :
    Prop where
  ids_nodup : (rows.map StockReservation.id).Nodup
  reserved : ∀ row ∈ rows, row ∈ db.reservations ∧ row.status = .reserved

theorem releasable_currentRows {db : InventoryDb} (orderRef : CharField128)
    {ids : List RowId} (hids : ids.Nodup) :
    Releasable db (Serial.currentRows db orderRef ids) where
  ids_nodup := Serial.currentRows_ids_nodup orderRef hids
  reserved row hrow := by
    obtain ⟨hmem, _, _, hstatus⟩ := Serial.mem_currentRows hrow
    exact ⟨hmem, hstatus⟩

/-- The RESERVED rows are those about to be released and the others. -/
theorem Releasable.perm_filter {db : InventoryDb}
    {rows : List StockReservation} (hrows : Releasable db rows)
    (hids : (db.reservations.map StockReservation.id).Nodup) :
    ((db.reservations.filter fun row => row.status = .reserved).filter
      fun row => row.id ∈ rows.map StockReservation.id).Perm rows := by
  rw [List.perm_ext_iff_of_nodup (((hids.of_map _).filter _).filter _)
    (hrows.ids_nodup.of_map _)]
  intro row
  rw [List.mem_filter, List.mem_filter, decide_eq_true_eq, decide_eq_true_eq]
  constructor
  · rintro ⟨⟨hrow, _⟩, hid⟩
    obtain ⟨other, hother, hsame⟩ := List.mem_map.mp hid
    rwa [← List.inj_on_of_nodup_map hids (hrows.reserved other hother).1 hrow
      hsame]
  · intro hrow
    exact ⟨hrows.reserved row hrow, List.mem_map_of_mem hrow⟩

theorem Releasable.reservedQuantity {db : InventoryDb}
    {rows : List StockReservation} (hrows : Releasable db rows)
    (hids : (db.reservations.map StockReservation.id).Nodup)
    (productId : ℤ) :
    (releaseBody db rows).1.reservedQuantity productId +
        quantityOf rows productId = db.reservedQuantity productId := by
  have hafter : (releaseBody db rows).1.reservations.filter
      (fun row => decide (row.status = .reserved)) =
        (db.reservations.filter fun row => row.status = .reserved).filter
          fun row => row.id ∉ rows.map StockReservation.id := by
    apply filter_releaseBody
    intro row
    simp [Bool.and_comm]
  have hsplit := quantityOf_filter_add
    (fun row => decide (row.id ∈ rows.map StockReservation.id))
    (db.reservations.filter fun row => row.status = .reserved) productId
  rw [quantityOf_perm (hrows.perm_filter hids)] at hsplit
  rw [InventoryDb.reservedQuantity, InventoryDb.reservedQuantity, hafter,
    add_comm, ← hsplit]
  simp only [decide_not]

theorem Releasable.total? {db : InventoryDb} {rows : List StockReservation}
    (hrows : Releasable db rows)
    (hids : (db.reservations.map StockReservation.id).Nodup)
    (productId : ℤ) :
    (releaseBody db rows).1.total? productId = db.total? productId := by
  have hreserved := hrows.reservedQuantity hids productId
  have hbalance := (releaseLoop_progress db rows).balance productId
  have havailable : (releaseBody db rows).1.available? productId =
      (db.available? productId).map fun available =>
        available + quantityOf rows productId := by
    rw [releaseBody, InventoryDb.available?_commit, hbalance]
  rw [InventoryDb.total?, InventoryDb.total?, havailable, Option.map_map]
  congr 1
  funext available
  change available + quantityOf rows productId + _ = available + _
  linarith

theorem Releasable.quantityOf_nonneg {db : InventoryDb}
    {rows : List StockReservation} (hrows : Releasable db rows)
    (hwell : db.WellFormed) (productId : ℤ) :
    0 ≤ quantityOf rows productId :=
  groupedSum.nonneg (fun row hrow =>
    hwell.quantity_nonneg row (hrows.reserved row hrow).1) productId

theorem Releasable.wellFormed {db : InventoryDb}
    {rows : List StockReservation} (hrows : Releasable db rows)
    (hwell : db.WellFormed) : (releaseBody db rows).1.WellFormed where
  ids_nodup := by
    rw [releaseBody_ids]
    exact hwell.ids_nodup
  available_nonneg productId available havailable := by
    rw [releaseBody, InventoryDb.available?_commit,
      (releaseLoop_progress db rows).balance] at havailable
    obtain ⟨committed, hcommitted, rfl⟩ := Option.map_eq_some_iff.mp havailable
    have hnonneg := hwell.available_nonneg productId committed hcommitted
    have hadded := hrows.quantityOf_nonneg hwell productId
    linarith
  quantity_nonneg row hrow := by
    rw [reservations_releaseBody] at hrow
    obtain ⟨before, hbefore, rfl⟩ := List.mem_map.mp hrow
    rw [Tx.applyToRow_quantity]
    exact hwell.quantity_nonneg before hbefore

/-! ## Serial runs -/

/-- The invariant behind every run: the tables are well formed, and of every
product there is as much as at the start. -/
structure Conserves (start : InventoryDb) (serial : Serial.State) : Prop where
  fresh : Serial.Fresh serial
  wellFormed : serial.db.WellFormed
  total : ∀ productId, serial.db.total? productId = start.total? productId

theorem Conserves.step {start : InventoryDb} {serial next : Serial.State}
    {action : Serial.Action} (hconserves : Conserves start serial)
    (hstep : Serial.step serial action = some next) :
    Conserves start next := by
  have hfresh := hconserves.fresh.step hstep
  have hsame : next.db = serial.db → Conserves start next := fun hdb =>
    { fresh := hfresh
      wellFormed := hdb ▸ hconserves.wellFormed
      total := fun productId => hdb ▸ hconserves.total productId }
  cases Serial.step_cases hstep with
  | call number request hidle hunused => exact hsame rfl
  | answer number call outcome hsession houtcome => exact hsame rfl
  | proceed number call hsession hitems hreplay => exact hsame rfl
  | select number orderRef rows hsession hselects => exact hsame rfl
  | abort number hopen => exact hsame rfl
  | reserve number call hsession =>
      rcases reserveBody_cases serial.db call with
        ⟨hrefused, _⟩ | ⟨_, loop, hprogress, hcommit⟩
      · exact hsame hrefused
      · have hdb : (serial.finish number (reserveBody serial.db call).1
            (.reserved (reserveBody serial.db call).2)).db =
              serial.db.commit loop.tx := hcommit
        refine ⟨hfresh, ?_, fun productId => ?_⟩
        · rw [hdb]
          exact hprogress.wellFormed hconserves.wellFormed
            (hdb ▸ hfresh.ids_nodup)
        · rw [hdb, hprogress.total?]
          exact hconserves.total productId
  | release number orderRef ids hsession =>
      have hknown := hconserves.fresh.sessions number
      rw [hsession] at hknown
      have hrows : Releasable serial.db
          (Serial.currentRows serial.db orderRef ids) :=
        releasable_currentRows orderRef hknown.1
      exact ⟨hfresh, hrows.wellFormed hconserves.wellFormed, fun productId =>
        (hrows.total? hconserves.fresh.ids_nodup productId).trans
          (hconserves.total productId)⟩

/-! ## Pending writes -/

/-- Nothing the transaction has written is negative or more than there is. -/
def WritesBounded (db : InventoryDb) (tx : Tx) : Prop :=
  ∀ productId written total, tx.writes productId = some written →
    db.total? productId = some total → 0 ≤ written ∧ written ≤ total

theorem writesBounded_start (db : InventoryDb) : WritesBounded db .start :=
  fun _ _ _ hwritten => absurd hwritten (by simp [Tx.start])

/-- A pending write is what the transaction reads back. -/
theorem Tx.available?_of_writes {tx : Tx} {db : InventoryDb}
    {productId written total : ℤ}
    (hwritten : tx.writes productId = some written)
    (htotal : db.total? productId = some total) :
    ∃ committed, db.available? productId = some committed ∧
      total = committed + db.reservedQuantity productId ∧
        tx.available? db productId = some written := by
  obtain ⟨committed, hcommitted, rfl⟩ := Option.map_eq_some_iff.mp htotal
  exact ⟨committed, hcommitted, rfl,
    by simp [Tx.available?, hcommitted, hwritten]⟩

theorem Progress.writesBounded {db : InventoryDb} {call : ReserveCall}
    {done accepted : List ReserveItem} {loop : ReserveLoop}
    (hprogress : Progress db call done accepted loop)
    (hwell : db.WellFormed) : WritesBounded db loop.tx := by
  intro productId written total hwritten htotal
  obtain ⟨committed, hcommitted, rfl, hread⟩ :=
    Tx.available?_of_writes hwritten htotal
  rw [hprogress.balance, hcommitted, Option.map_some,
    Option.some.injEq] at hread
  have hcovered := hprogress.requested_le hcommitted
    (hwell.available_nonneg productId committed hcommitted)
  have htaken := hprogress.requested_nonneg productId
  have hreserved := hwell.reservedQuantity_nonneg productId
  constructor <;> linarith

/-- The decrement of a row that was read with enough stock. -/
theorem WritesBounded.saveProduct {db : InventoryDb} {loop : ReserveLoop}
    (hbounded : WritesBounded db loop.tx) (hwell : db.WellFormed)
    {item : ReserveItem} {available : ℤ}
    (hread : loop.tx.available? db item.productId = some available)
    (hpositive : 0 < item.quantity) (henough : item.quantity ≤ available) :
    WritesBounded db (loop.saveProduct item available).tx := by
  intro productId written total hwritten htotal
  by_cases hsame : productId = item.productId
  · subst hsame
    have hnow : available - item.quantity = written := by
      simpa [ReserveLoop.saveProduct, Tx.write] using hwritten
    have hreadBound : available ≤ total := by
      obtain ⟨committed, hcommitted, rfl⟩ := Option.map_eq_some_iff.mp htotal
      have hreserved := hwell.reservedQuantity_nonneg item.productId
      cases hearlier : loop.tx.writes item.productId with
      | none =>
          simp only [Tx.available?, hcommitted, hearlier, Option.map_some,
            Option.getD_none, Option.some.injEq] at hread
          linarith
      | some earlier =>
          simp only [Tx.available?, hcommitted, hearlier, Option.map_some,
            Option.getD_some, Option.some.injEq] at hread
          exact hread ▸ (hbounded _ _ _ hearlier htotal).2
    constructor <;> linarith
  · apply hbounded productId written total _ htotal
    simpa [ReserveLoop.saveProduct, Tx.write, hsame] using hwritten

/-- Rows a release has locked are worth no more than what is reserved. -/
theorem Releasable.quantityOf_le {db : InventoryDb}
    {rows done : List StockReservation} (hrows : Releasable db rows)
    (hwell : db.WellFormed) (hdone : done.Sublist rows) (productId : ℤ) :
    quantityOf done productId ≤ db.reservedQuantity productId := by
  have hpositive : ∀ row ∈ rows, 0 ≤ row.quantity := fun row hrow =>
    hwell.quantity_nonneg row (hrows.reserved row hrow).1
  calc quantityOf done productId
      ≤ quantityOf rows productId :=
        groupedSum.le_of_sublist hdone hpositive productId
    _ = quantityOf ((db.reservations.filter
          fun row => row.status = .reserved).filter
            fun row => row.id ∈ rows.map StockReservation.id) productId :=
        (quantityOf_perm (hrows.perm_filter hwell.ids_nodup) productId).symm
    _ ≤ db.reservedQuantity productId :=
        groupedSum.le_of_sublist List.filter_sublist (fun row hrow =>
          hwell.quantity_nonneg row (List.mem_of_mem_filter hrow)) productId

/-- The add-backs of a release stay within what there is. -/
theorem Releasable.writesBounded {db : InventoryDb}
    {rows done : List StockReservation} (hrows : Releasable db rows)
    (hwell : db.WellFormed) (hdone : done.Sublist rows) {tx : Tx}
    (hwrites : tx.writes = (releaseLoop db .start done).writes) :
    WritesBounded db tx := by
  intro productId written total hwritten htotal
  rw [hwrites] at hwritten
  obtain ⟨committed, hcommitted, rfl, hread⟩ :=
    Tx.available?_of_writes hwritten htotal
  rw [(releaseLoop_progress db done).balance, hcommitted, Option.map_some,
    Option.some.injEq] at hread
  have hcommittedNonneg :=
    hwell.available_nonneg productId committed hcommitted
  have hadded : 0 ≤ quantityOf done productId :=
    groupedSum.nonneg (fun row hrow => hwell.quantity_nonneg row
      (hrows.reserved row (hdone.subset hrow)).1) productId
  have hlocked := hrows.quantityOf_le hwell hdone productId
  constructor <;> linarith

end OrderFlow.Inventory

namespace OrderFlow.Inventory.Refinement

section Sessions

variable {db : InventoryDb} {holdsProduct : ℤ → Prop} {holdsRow : RowId → Prop}

theorem ReserveOk.writesBounded {call : ReserveCall}
    {done todo : List ReserveItem} {loop : ReserveLoop}
    (hok : ReserveOk db holdsProduct call done todo loop)
    (hwell : db.WellFormed) : WritesBounded db loop.tx := by
  obtain ⟨accepted, hprogress⟩ := reserveLoop_progress hok.loop_eq
  exact hprogress.writesBounded hwell

theorem ReservePhaseRelated.writesBounded {call : ReserveCall}
    {checked : Bool} {phase : Interleaved.ReservePhase}
    (hphase : ReservePhaseRelated db holdsProduct call checked phase)
    (hwell : db.WellFormed) :
    WritesBounded db (Interleaved.Session.reserving call phase).tx := by
  cases phase with
  | replayCheck => exact writesBounded_start db
  | loopHead todo loop =>
      obtain ⟨_, done, hok⟩ := hphase
      exact hok.writesBounded hwell
  | saveProduct item available todo loop =>
      obtain ⟨_, done, hok, _⟩ := hphase
      exact hok.writesBounded hwell
  | createReservation item todo loop =>
      obtain ⟨_, done, before, available, hok, hread, rfl⟩ := hphase
      exact (hok.writesBounded hwell).saveProduct hwell hread.read
        hread.positive hread.enough

theorem ReleaseOk.writesBounded {orderRef : CharField128} {ids : List RowId}
    {done todo reservations worked : List StockReservation} {tx : Tx}
    (hok : ReleaseOk db holdsProduct holdsRow orderRef ids done todo
      reservations)
    (hwell : db.WellFormed) (hids : ids.Nodup)
    (hworked : worked.Sublist (done ++ todo))
    (hwrites : tx.writes = (releaseLoop db .start worked).writes) :
    WritesBounded db tx := by
  have hrows : Releasable db reservations :=
    hok.rows ▸ releasable_currentRows orderRef hids
  exact hrows.writesBounded hwell (hok.split ▸ hworked) hwrites

theorem ReleasePhaseRelated.writesBounded {orderRef : CharField128}
    {snapshot : Option (List RowId)} {phase : Interleaved.ReleasePhase}
    (hphase : ReleasePhaseRelated db holdsProduct holdsRow orderRef snapshot
      phase)
    (hwell : db.WellFormed) (hids : ∀ ids, snapshot = some ids → ids.Nodup) :
    WritesBounded db (Interleaved.Session.releasing orderRef phase).tx := by
  cases phase with
  | select => exact writesBounded_start db
  | lockRows todo locked => exact writesBounded_start db
  | addBack todo reservations tx =>
      obtain ⟨ids, done, hsnapshot, hok, rfl⟩ := hphase
      exact hok.writesBounded hwell (hids ids hsnapshot)
        (List.sublist_append_left done todo) rfl
  | saveStatus row todo reservations tx =>
      obtain ⟨ids, done, hsnapshot, hok, _, rfl⟩ := hphase
      have hworked : (done ++ [row]).Sublist (done ++ row :: todo) :=
        (List.Sublist.refl done).append (by simp)
      apply hok.writesBounded hwell (hids ids hsnapshot) hworked
      rw [releaseLoop_concat]
      rfl

end Sessions

theorem SessionRelated.writesBounded {db : InventoryDb}
    {holdsProduct : ℤ → Prop} {holdsRow : RowId → Prop} {number : ℕ}
    {session : Interleaved.Session} {serial : Serial.Session}
    (hsession : SessionRelated db holdsProduct holdsRow number session serial)
    (hwell : db.WellFormed) (hfresh : Serial.SessionFresh db number serial) :
    WritesBounded db session.tx := by
  cases hsession with
  | idle => exact writesBounded_start db
  | reserving hnumber hunused hphase => exact hphase.writesBounded hwell
  | releasing hphase =>
      apply hphase.writesBounded hwell
      rintro ids rfl
      exact hfresh.1
  | finished result => exact writesBounded_start db

end OrderFlow.Inventory.Refinement

namespace OrderFlow.Inventory

open OrderFlow.TransitionSystem
open OrderFlow.Inventory.Refinement

/-! ## Interleaved runs -/

/-- What holds of a product of which there was `total` before any of the
concurrent calls: it is neither lost nor oversold, and no write that is pending
in some transaction is out of range. -/
structure StockConserved (state : Interleaved.State) (productId total : ℤ) :
    Prop where
  conserved : ∃ available, state.db.available? productId = some available ∧
    available + state.db.reservedQuantity productId = total ∧
      0 ≤ available ∧ available ≤ total
  pending : ∀ number written,
    (state.sessions number).tx.writes productId = some written →
      0 ≤ written ∧ written ≤ total
  column : PositiveIntegerField total → ∀ number written,
    (state.sessions number).tx.writes productId = some written →
      PositiveIntegerField written

theorem Conserves.stockConserved {start : InventoryDb}
    {state : Interleaved.State} {serial : Serial.State}
    (hrelated : Related state serial) (hconserves : Conserves start serial)
    {productId total : ℤ} (htotal : start.total? productId = some total) :
    StockConserved state productId total := by
  obtain ⟨hfresh, hwell, hsame⟩ := hconserves
  rw [hrelated.db] at hwell hsame
  have hnow : state.db.total? productId = some total :=
    (hsame productId).trans htotal
  have hpending : ∀ number written,
      (state.sessions number).tx.writes productId = some written →
        0 ≤ written ∧ written ≤ total := by
    intro number written hwritten
    have hself := hfresh.sessions number
    rw [hrelated.db] at hself
    exact (hrelated.sessions number).writesBounded hwell hself productId
      written total hwritten hnow
  obtain ⟨available, havailable, hsum⟩ := Option.map_eq_some_iff.mp hnow
  have hreserved := hwell.reservedQuantity_nonneg productId
  refine ⟨⟨available, havailable, hsum, ?_, ?_⟩, hpending, ?_⟩
  · exact hwell.available_nonneg productId available havailable
  · linarith
  · intro hcolumn number written hwritten
    obtain ⟨hnonneg, hbound⟩ := hpending number written hwritten
    exact ⟨hnonneg, hbound.trans hcolumn.2⟩

/-- Stock conservation and no oversell, in every state that any interleaving
of any calls can reach. -/
theorem stock_conserved {db : InventoryDb} (hwell : db.WellFormed)
    {schedule : List Interleaved.Action} {final : Interleaved.State}
    (hrun : run Interleaved.step (.init db) schedule = some final)
    {productId total : ℤ} (htotal : db.total? productId = some total) :
    StockConserved final productId total := by
  have hinit : Behind (Conserves db) (.init db) :=
    ⟨.init db, .init hwell.ids_nodup, .init hwell.ids_nodup, hwell,
      fun _ => rfl⟩
  have hcalls : ∀ action ∈ schedule, Calls (fun _ => True) action := by
    intro action _
    cases action <;> trivial
  obtain ⟨serial, hrelated, hconserves⟩ := hinit.run
    (fun _ _ _ hkept _ hstep => hkept.step hstep) hcalls hrun
  exact hconserves.stockConserved hrelated htotal

/-- Two sessions want the last two widgets, with one key, while a third one
asks for a gadget twice. -/
def lastWidgetsDb : InventoryDb where
  products :=
    [⟨1, "SKU-WIDGET", "Standard Widget", 2⟩,
      ⟨2, "SKU-GADGET", "Premium Gadget", 5⟩]
  reservations := []

def lastWidgetsSchedule : List Interleaved.Action :=
  [.call 0 (.reserve (.ofText "a") [⟨1, 2⟩] (.ofText "a") id),
    .call 1 (.reserve (.ofText "a") [⟨1, 2⟩] (.ofText "a") id),
    .call 2 (.reserve (.ofText "b") [⟨2, 3⟩, ⟨2, -1⟩, ⟨2, 1⟩] .empty id),
    .advance 0, .advance 1, .advance 2, .advance 0, .advance 2, .advance 0,
    .advance 2, .advance 0, .advance 2, .advance 0, .advance 1, .advance 1]

theorem stock_conserved_lastWidgets : ∃ final,
    run Interleaved.step (.init lastWidgetsDb) lastWidgetsSchedule =
        some final ∧
      final.db.available? 1 = some 0 ∧ final.db.reservedQuantity 1 = 2 ∧
        StockConserved final 1 2 ∧ StockConserved final 2 5 := by
  have hwell : lastWidgetsDb.WellFormed := by
    refine ⟨by decide, ?_, by decide⟩
    intro productId available havailable
    obtain ⟨product, hproduct, rfl⟩ :=
      InventoryDb.exists_product_of_available? havailable
    exact (by decide : ∀ product ∈ lastWidgetsDb.products,
      0 ≤ product.availableQuantity) product hproduct
  have hconserved : ∀ final,
      run Interleaved.step (.init lastWidgetsDb) lastWidgetsSchedule =
        some final → StockConserved final 1 2 ∧ StockConserved final 2 5 := by
    intro final hrun
    exact ⟨stock_conserved hwell hrun (by decide),
      stock_conserved hwell hrun (by decide)⟩
  exact ⟨_, rfl, by decide, by decide, hconserved _ rfl⟩

/-! ## Calls one after the other -/

/-- The tables are well formed and have as much of every product. -/
structure Keeps (db after : InventoryDb) : Prop where
  wellFormed : after.WellFormed
  total : ∀ productId, after.total? productId = db.total? productId

theorem ServiceCall.keeps {db : InventoryDb} (hwell : db.WellFormed)
    (call : ServiceCall) : Keeps db (call.apply db) := by
  have hids := call.apply_ids_nodup hwell.ids_nodup
  cases call with
  | reserve request clock =>
      rcases reserveStock_cases db (request.toCall db clock) with
        hsame | ⟨_, _, loop, hprogress, hcommit⟩
      · have hdb : (ServiceCall.reserve request clock).apply db = db := hsame
        rw [hdb]
        exact ⟨hwell, fun _ => rfl⟩
      · have hdb : (ServiceCall.reserve request clock).apply db =
            db.commit loop.tx := hcommit
        rw [hdb] at hids ⊢
        exact ⟨hprogress.wellFormed hwell hids, hprogress.total?⟩
  | release orderRef =>
      have hrows : Releasable db
          (orderByProductId (db.reservedForOrder orderRef)) := by
        have hperm := perm_orderByProductId (db.reservedForOrder orderRef)
        refine ⟨?_, fun row hrow => ?_⟩
        · rw [(hperm.map StockReservation.id).nodup_iff]
          exact hwell.ids_nodup.sublist (List.filter_sublist.map _)
        · obtain ⟨hmem, hboth⟩ := List.mem_filter.mp (hperm.mem_iff.mp hrow)
          exact ⟨hmem, (of_decide_eq_true hboth).2⟩
      exact ⟨hrows.wellFormed hwell, hrows.total? hwell.ids_nodup⟩

theorem runCalls_keeps {db : InventoryDb} (hwell : db.WellFormed)
    (calls : List ServiceCall) : Keeps db (runCalls db calls) := by
  induction calls generalizing db with
  | nil => exact ⟨hwell, fun _ => rfl⟩
  | cons call calls ih =>
      have hfirst := call.keeps hwell
      have hrest := ih hfirst.wellFormed
      exact ⟨hrest.wellFormed, fun productId =>
        (hrest.total productId).trans (hfirst.total productId)⟩

end OrderFlow.Inventory
