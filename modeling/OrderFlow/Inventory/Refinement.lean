import OrderFlow.Inventory.Serial
import OrderFlow.Inventory.ReserveSpec

/-!
# Row locks make transaction bodies atomic

The interleaved system refines the serial one.  What a session has read so far
is protected by the locks it holds, so running the sequential loop on the
current committed tables over the lines already processed still gives exactly
the state the session is in; when the session commits, it has therefore done
what the whole body does at that moment.
-/

namespace OrderFlow.Inventory.Refinement

open OrderFlow
open OrderFlow.TransitionSystem
open OrderFlow.Inventory.Interleaved

/-- The committed tables before and after a step of another session, seen from
a session that holds the given product rows and reservation rows. -/
structure Agrees (holdsProduct : ℤ → Prop) (holdsRow : RowId → Prop)
    (number : ℕ) (db db' : InventoryDb) : Prop where
  available : ∀ productId, holdsProduct productId →
    db'.available? productId = db.available? productId
  missing : ∀ productId,
    db'.available? productId = none ↔ db.available? productId = none
  active : ∀ key productId, holdsProduct productId →
    db.available? productId ≠ none →
      db'.hasActive key productId = db.hasActive key productId
  locked : ∀ orderRef id, id ∈ db.reservations.map StockReservation.id →
    holdsRow id →
      db'.stillReserved? orderRef id = db.stillReserved? orderRef id
  gone : ∀ orderRef id, id ∈ db.reservations.map StockReservation.id →
    db.stillReserved? orderRef id = none →
      db'.stillReserved? orderRef id = none
  ids : ∀ id ∈ db.reservations.map StockReservation.id,
    id ∈ db'.reservations.map StockReservation.id
  unused : (∀ row ∈ db.reservations, row.id.call ≠ number) →
    ∀ row ∈ db'.reservations, row.id.call ≠ number

theorem Agrees.refl (holdsProduct : ℤ → Prop) (holdsRow : RowId → Prop)
    (number : ℕ) (db : InventoryDb) :
    Agrees holdsProduct holdsRow number db db where
  available _ _ := rfl
  missing _ := Iff.rfl
  active _ _ _ _ := rfl
  locked _ _ _ _ := rfl
  gone _ _ _ hgone := hgone
  ids _ hid := hid
  unused hunused := hunused

/-! ## Reads that the locks protect -/

theorem createReservation_congr {db db' : InventoryDb} {call : ReserveCall}
    {loop : ReserveLoop} {item : ReserveItem}
    (hactive : db'.hasActive call.idempotencyKey item.productId =
      db.hasActive call.idempotencyKey item.productId) :
    loop.createReservation db' call item =
      loop.createReservation db call item := by
  rw [ReserveLoop.createReservation, ReserveLoop.createReservation,
    Tx.violatesUniqueIndex, Tx.violatesUniqueIndex, hactive]

/-- One line reads only its product and the index entry of its product. -/
theorem reserveLine_congr {db db' : InventoryDb} {call : ReserveCall}
    {loop : ReserveLoop} {item : ReserveItem}
    (havailable : 0 < item.quantity →
      db'.available? item.productId = db.available? item.productId)
    (hactive : 0 < item.quantity → db.available? item.productId ≠ none →
      db'.hasActive call.idempotencyKey item.productId =
        db.hasActive call.idempotencyKey item.productId) :
    reserveLine db' call loop item = reserveLine db call loop item := by
  rw [reserveLine, reserveLine]
  by_cases hquantity : item.quantity ≤ 0
  · rw [if_pos hquantity, if_pos hquantity]
  rw [if_neg hquantity, if_neg hquantity,
    Tx.available?_congr _ (havailable (not_le.mp hquantity))]
  cases hread : loop.tx.available? db item.productId with
  | none => rfl
  | some available =>
      have hexists : db.available? item.productId ≠ none := by
        rw [Ne, ← Tx.available?_eq_none_iff loop.tx, hread]
        exact Option.some_ne_none available
      simp only [createReservation_congr
        (hactive (not_le.mp hquantity) hexists)]

/-- A session holds the row of every product its lines have read. -/
def Covers (db : InventoryDb) (holdsProduct : ℤ → Prop)
    (items : List ReserveItem) : Prop :=
  ∀ item ∈ items, 0 < item.quantity →
    db.available? item.productId ≠ none → holdsProduct item.productId

theorem reserveLoop_congr {holdsProduct : ℤ → Prop} {holdsRow : RowId → Prop}
    {number : ℕ} {db db' : InventoryDb}
    (hagrees : Agrees holdsProduct holdsRow number db db')
    (call : ReserveCall) (loop : ReserveLoop) {items : List ReserveItem}
    (hcovers : Covers db holdsProduct items) :
    reserveLoop db' call loop items = reserveLoop db call loop items := by
  induction items generalizing loop with
  | nil => rfl
  | cons item items ih =>
      have hitem := hcovers item List.mem_cons_self
      have hline : reserveLine db' call loop item =
          reserveLine db call loop item := by
        apply reserveLine_congr
        · intro hquantity
          by_cases hexists : db.available? item.productId = none
          · rw [hexists, hagrees.missing]
            exact hexists
          · exact hagrees.available _ (hitem hquantity hexists)
        · intro hquantity hexists
          exact hagrees.active _ _ (hitem hquantity hexists) hexists
      rw [reserveLoop_cons, reserveLoop_cons, hline]
      congr 1
      funext next
      exact ih next fun other hother => hcovers other
        (List.mem_cons_of_mem item hother)

theorem addBack_congr {db db' : InventoryDb} {tx : Tx}
    {row : StockReservation}
    (havailable :
      db'.available? row.productId = db.available? row.productId) :
    addBack db' tx row = addBack db tx row := by
  rw [addBack, addBack, Tx.available?_congr tx havailable]

/-- A session holds the product row of every reservation it added back. -/
def CoversRows (db : InventoryDb) (holdsProduct : ℤ → Prop)
    (rows : List StockReservation) : Prop :=
  ∀ row ∈ rows, db.available? row.productId ≠ none →
    holdsProduct row.productId

theorem CoversRows.available {holdsProduct : ℤ → Prop}
    {holdsRow : RowId → Prop} {number : ℕ} {db db' : InventoryDb}
    (hagrees : Agrees holdsProduct holdsRow number db db')
    {rows : List StockReservation} (hcovers : CoversRows db holdsProduct rows)
    {row : StockReservation} (hrow : row ∈ rows) :
    db'.available? row.productId = db.available? row.productId := by
  by_cases hexists : db.available? row.productId = none
  · rw [hexists, hagrees.missing]
    exact hexists
  · exact hagrees.available _ (hcovers row hrow hexists)

theorem releaseLoop_congr {holdsProduct : ℤ → Prop} {holdsRow : RowId → Prop}
    {number : ℕ} {db db' : InventoryDb}
    (hagrees : Agrees holdsProduct holdsRow number db db') (tx : Tx)
    {rows : List StockReservation}
    (hcovers : CoversRows db holdsProduct rows) :
    releaseLoop db' tx rows = releaseLoop db tx rows := by
  induction rows using List.reverseRecOn with
  | nil => rfl
  | append_singleton rows row ih =>
      rw [releaseLoop_concat, releaseLoop_concat, releaseLine, releaseLine,
        ih fun other hother => hcovers other (List.mem_append_left _ hother),
        addBack_congr (hcovers.available hagrees (by simp))]

theorem currentRows_congr {holdsProduct : ℤ → Prop} {holdsRow : RowId → Prop}
    {number : ℕ} {db db' : InventoryDb}
    (hagrees : Agrees holdsProduct holdsRow number db db')
    (orderRef : CharField128) {ids : List RowId}
    (hids : ∀ id ∈ ids, id ∈ db.reservations.map StockReservation.id)
    (hheld : ∀ row ∈ Serial.currentRows db orderRef ids, holdsRow row.id) :
    Serial.currentRows db' orderRef ids =
      Serial.currentRows db orderRef ids := by
  apply List.filterMap_congr
  intro id hid
  cases hcurrent : db.stillReserved? orderRef id with
  | none => exact hagrees.gone orderRef id (hids id hid) hcurrent
  | some row =>
      have hrow : row.id = id :=
        (InventoryDb.stillReserved?_eq_some hcurrent).2.1
      have hmem : row ∈ Serial.currentRows db orderRef ids :=
        List.mem_filterMap.mpr ⟨id, hid, hcurrent⟩
      rw [← hcurrent]
      exact hagrees.locked orderRef id (hids id hid) (hrow ▸ hheld row hmem)

/-! ## The state of one session -/

/-- The lines `done` have been processed, under the locks they need. -/
structure ReserveOk (db : InventoryDb) (holdsProduct : ℤ → Prop)
    (call : ReserveCall) (done todo : List ReserveItem)
    (loop : ReserveLoop) : Prop where
  sorted : done ++ todo = sortedItems call.items
  loop_eq : reserveLoop db call .start done = .ok loop
  covers : Covers db holdsProduct done

/-- The row of `item` is locked and was read with `available`. -/
structure ReadOk (db : InventoryDb) (holdsProduct : ℤ → Prop)
    (loop : ReserveLoop) (item : ReserveItem) (available : ℤ) : Prop where
  positive : 0 < item.quantity
  held : holdsProduct item.productId
  read : loop.tx.available? db item.productId = some available
  enough : item.quantity ≤ available

/-- The rows `done` of the locked rows have been added back. -/
structure ReleaseOk (db : InventoryDb) (holdsProduct : ℤ → Prop)
    (holdsRow : RowId → Prop) (orderRef : CharField128) (ids : List RowId)
    (done todo reservations : List StockReservation) : Prop where
  known : ∀ id ∈ ids, id ∈ db.reservations.map StockReservation.id
  rows : reservations = Serial.currentRows db orderRef ids
  held : ∀ row ∈ reservations, holdsRow row.id
  split : done ++ todo = reservations
  covers : CoversRows db holdsProduct done

/-- How far a `reserve_stock` call has come, against its replay check. -/
def ReservePhaseRelated (db : InventoryDb) (holdsProduct : ℤ → Prop)
    (call : ReserveCall) (checked : Bool) : ReservePhase → Prop
  | .replayCheck => checked = false
  | .loopHead todo loop => checked = true ∧ ∃ done,
      ReserveOk db holdsProduct call done todo loop
  | .saveProduct item available todo loop => checked = true ∧ ∃ done,
      ReserveOk db holdsProduct call done (item :: todo) loop ∧
        ReadOk db holdsProduct loop item available
  | .createReservation item todo loop => checked = true ∧
      ∃ done before available,
        ReserveOk db holdsProduct call done (item :: todo) before ∧
          ReadOk db holdsProduct before item available ∧
          loop = before.saveProduct item available

/-- How far a `release_stock` call has come, against its snapshot. -/
def ReleasePhaseRelated (db : InventoryDb) (holdsProduct : ℤ → Prop)
    (holdsRow : RowId → Prop) (orderRef : CharField128)
    (snapshot : Option (List RowId)) : ReleasePhase → Prop
  | .select => snapshot = none
  | .lockRows todo locked => ∃ seen,
      snapshot = some (seen ++ todo) ∧
        (∀ id ∈ seen ++ todo,
          id ∈ db.reservations.map StockReservation.id) ∧
        locked = Serial.currentRows db orderRef seen ∧
        ∀ row ∈ locked, holdsRow row.id
  | .addBack todo reservations tx => ∃ ids done,
      snapshot = some ids ∧
        ReleaseOk db holdsProduct holdsRow orderRef ids done todo
          reservations ∧
        tx = releaseLoop db .start done
  | .saveStatus row todo reservations tx => ∃ ids done,
      snapshot = some ids ∧
        ReleaseOk db holdsProduct holdsRow orderRef ids done (row :: todo)
          reservations ∧
        CoversRows db holdsProduct [row] ∧
        tx = addBack db (releaseLoop db .start done) row

/-- A session of the interleaved system and one of the serial system are at
the same point. -/
inductive SessionRelated (db : InventoryDb) (holdsProduct : ℤ → Prop)
    (holdsRow : RowId → Prop) (number : ℕ) :
    Interleaved.Session → Serial.Session → Prop
  | idle : SessionRelated db holdsProduct holdsRow number .idle .idle
  | reserving {call : ReserveCall} {phase : ReservePhase} {checked : Bool}
      (hnumber : call.number = number)
      (hunused : ∀ row ∈ db.reservations, row.id.call ≠ number)
      (hphase : ReservePhaseRelated db holdsProduct call checked phase) :
      SessionRelated db holdsProduct holdsRow number
        (.reserving call phase) (.reserving call checked)
  | releasing {orderRef : CharField128} {phase : ReleasePhase}
      {snapshot : Option (List RowId)}
      (hphase : ReleasePhaseRelated db holdsProduct holdsRow orderRef
        snapshot phase) :
      SessionRelated db holdsProduct holdsRow number
        (.releasing orderRef phase) (.releasing orderRef snapshot)
  | finished (result : Result) :
      SessionRelated db holdsProduct holdsRow number
        (.finished result) (.finished result)

/-! ## A session is not disturbed by the others -/

section Stability

variable {holdsProduct holdsProduct' : ℤ → Prop}
variable {holdsRow holdsRow' : RowId → Prop}
variable {number : ℕ} {db db' : InventoryDb}

theorem Covers.stable (hagrees : Agrees holdsProduct holdsRow number db db')
    (hproducts : ∀ productId, holdsProduct productId →
      holdsProduct' productId) {items : List ReserveItem}
    (hcovers : Covers db holdsProduct items) :
    Covers db' holdsProduct' items := by
  intro item hitem hquantity hexists
  apply hproducts
  apply hcovers item hitem hquantity
  rwa [Ne, ← hagrees.missing]

theorem ReserveOk.stable (hagrees : Agrees holdsProduct holdsRow number db db')
    (hproducts : ∀ productId, holdsProduct productId →
      holdsProduct' productId) {call : ReserveCall}
    {done todo : List ReserveItem} {loop : ReserveLoop}
    (hok : ReserveOk db holdsProduct call done todo loop) :
    ReserveOk db' holdsProduct' call done todo loop where
  sorted := hok.sorted
  loop_eq := (reserveLoop_congr hagrees call .start hok.covers).trans
    hok.loop_eq
  covers := hok.covers.stable hagrees hproducts

theorem ReadOk.stable (hagrees : Agrees holdsProduct holdsRow number db db')
    (hproducts : ∀ productId, holdsProduct productId →
      holdsProduct' productId) {loop : ReserveLoop} {item : ReserveItem}
    {available : ℤ} (hok : ReadOk db holdsProduct loop item available) :
    ReadOk db' holdsProduct' loop item available where
  positive := hok.positive
  held := hproducts _ hok.held
  read := (Tx.available?_congr loop.tx
    (hagrees.available _ hok.held)).trans hok.read
  enough := hok.enough

theorem CoversRows.stable
    (hagrees : Agrees holdsProduct holdsRow number db db')
    (hproducts : ∀ productId, holdsProduct productId →
      holdsProduct' productId) {rows : List StockReservation}
    (hcovers : CoversRows db holdsProduct rows) :
    CoversRows db' holdsProduct' rows := by
  intro row hrow hexists
  apply hproducts
  apply hcovers row hrow
  rwa [Ne, ← hagrees.missing]

theorem ReleaseOk.stable (hagrees : Agrees holdsProduct holdsRow number db db')
    (hproducts : ∀ productId, holdsProduct productId →
      holdsProduct' productId)
    (hrows : ∀ id, holdsRow id → holdsRow' id) {orderRef : CharField128}
    {ids : List RowId} {done todo reservations : List StockReservation}
    (hok : ReleaseOk db holdsProduct holdsRow orderRef ids done todo
      reservations) :
    ReleaseOk db' holdsProduct' holdsRow' orderRef ids done todo
      reservations where
  known id hid := hagrees.ids id (hok.known id hid)
  rows := hok.rows.trans (currentRows_congr hagrees orderRef hok.known
    fun row hrow => hok.held row (hok.rows ▸ hrow)).symm
  held row hrow := hrows _ (hok.held row hrow)
  split := hok.split
  covers := hok.covers.stable hagrees hproducts

theorem ReservePhaseRelated.stable
    (hagrees : Agrees holdsProduct holdsRow number db db')
    (hproducts : ∀ productId, holdsProduct productId →
      holdsProduct' productId) {call : ReserveCall} {checked : Bool}
    {phase : ReservePhase}
    (hphase : ReservePhaseRelated db holdsProduct call checked phase) :
    ReservePhaseRelated db' holdsProduct' call checked phase := by
  cases phase with
  | replayCheck => exact hphase
  | loopHead todo loop =>
      obtain ⟨hchecked, done, hok⟩ := hphase
      exact ⟨hchecked, done, hok.stable hagrees hproducts⟩
  | saveProduct item available todo loop =>
      obtain ⟨hchecked, done, hok, hread⟩ := hphase
      exact ⟨hchecked, done, hok.stable hagrees hproducts,
        hread.stable hagrees hproducts⟩
  | createReservation item todo loop =>
      obtain ⟨hchecked, done, before, available, hok, hread, hloop⟩ := hphase
      exact ⟨hchecked, done, before, available,
        hok.stable hagrees hproducts, hread.stable hagrees hproducts, hloop⟩

theorem ReleasePhaseRelated.stable
    (hagrees : Agrees holdsProduct holdsRow number db db')
    (hproducts : ∀ productId, holdsProduct productId →
      holdsProduct' productId)
    (hrows : ∀ id, holdsRow id → holdsRow' id) {orderRef : CharField128}
    {snapshot : Option (List RowId)} {phase : ReleasePhase}
    (hphase : ReleasePhaseRelated db holdsProduct holdsRow orderRef snapshot
      phase) :
    ReleasePhaseRelated db' holdsProduct' holdsRow' orderRef snapshot
      phase := by
  cases phase with
  | select => exact hphase
  | lockRows todo locked =>
      obtain ⟨seen, hsnapshot, hknown, hlocked, hheld⟩ := hphase
      refine ⟨seen, hsnapshot, fun id hid => hagrees.ids id (hknown id hid),
        ?_, fun row hrow => hrows _ (hheld row hrow)⟩
      rw [currentRows_congr hagrees orderRef
        (fun id hid => hknown id (List.mem_append_left todo hid))
        (fun row hrow => hheld row (hlocked ▸ hrow))]
      exact hlocked
  | addBack todo reservations tx =>
      obtain ⟨ids, done, hsnapshot, hok, htx⟩ := hphase
      refine ⟨ids, done, hsnapshot, hok.stable hagrees hproducts hrows, ?_⟩
      rw [releaseLoop_congr hagrees .start hok.covers]
      exact htx
  | saveStatus row todo reservations tx =>
      obtain ⟨ids, done, hsnapshot, hok, hrow, htx⟩ := hphase
      refine ⟨ids, done, hsnapshot, hok.stable hagrees hproducts hrows,
        hrow.stable hagrees hproducts, ?_⟩
      rw [releaseLoop_congr hagrees .start hok.covers, addBack_congr
        (hrow.available hagrees (List.mem_singleton_self row))]
      exact htx

/-- What other sessions do leaves the relation of a session intact. -/
theorem SessionRelated.stable
    (hagrees : Agrees holdsProduct holdsRow number db db')
    (hproducts : ∀ productId, holdsProduct productId →
      holdsProduct' productId)
    (hrows : ∀ id, holdsRow id → holdsRow' id)
    {session : Interleaved.Session} {serial : Serial.Session}
    (hrelated : SessionRelated db holdsProduct holdsRow number session
      serial) :
    SessionRelated db' holdsProduct' holdsRow' number session serial := by
  cases hrelated with
  | idle => exact .idle
  | reserving hnumber hunused hphase =>
      exact .reserving hnumber (hagrees.unused hunused)
        (hphase.stable hagrees hproducts)
  | releasing hphase =>
      exact .releasing (hphase.stable hagrees hproducts hrows)
  | finished result => exact .finished result

end Stability

end OrderFlow.Inventory.Refinement
