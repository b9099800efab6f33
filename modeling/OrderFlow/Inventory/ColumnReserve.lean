import OrderFlow.Inventory.Columns

/-!
# What is reserved on the columns

`reserve_stock` with any texts: what it reserves, and how its answer compares
with the stock.  Where the columns store the texts as they are it is the
`reserveStock` of the other modules.
-/

namespace OrderFlow.Inventory

section Queries

variable (db : InventoryDb)

@[simp]
theorem activeForText_val (key : CharField128) :
    db.activeForText key.val = db.activeForKey key := by
  simp [InventoryDb.activeForText, InventoryDb.activeForKey, Subtype.ext_iff]

@[simp]
theorem priorRows_val (key : CharField128) :
    priorRows db key.val = priorReservations db key := by
  rw [priorRows, activeForText_val, priorReservations]

@[simp]
theorem reservedForText_val (orderRef : CharField128) :
    db.reservedForText orderRef.val = db.reservedForOrder orderRef := by
  simp [InventoryDb.reservedForText, InventoryDb.reservedForOrder,
    Subtype.ext_iff]

theorem CharField128.val_eq_empty_iff (text : CharField128) :
    text.val = "" ↔ text = .empty := by
  rw [Subtype.ext_iff]
  rfl

variable {db}

theorem replayOnColumns_none {key : String} (hnul : hasNul key = false)
    (hinactive : key ≠ "" → db.activeForText key = []) :
    replayOnColumns db key = .ok none := by
  rw [replayOnColumns]
  by_cases hempty : key = ""
  · rw [if_pos hempty]
  · rw [if_neg hempty, if_neg (by simp [hnul]), priorRows, hinactive hempty]
    rfl

theorem reserveStockOnColumns_eq_body {arguments : ReserveArguments}
    (hitems : arguments.items ≠ [])
    (hnul : hasNul arguments.idempotencyKey = false)
    (hinactive : arguments.idempotencyKey ≠ "" →
      db.activeForText arguments.idempotencyKey = []) :
    reserveStockOnColumns db arguments =
      reserveBodyOnColumns db arguments := by
  rw [reserveStockOnColumns, if_neg hitems,
    replayOnColumns_none hnul hinactive]

theorem ReserveArguments.Fit.keyless_iff {arguments : ReserveArguments}
    (hfit : arguments.Fit) (db : InventoryDb) :
    arguments.idempotencyKey = "" ↔
      (hfit.call db).idempotencyKey = .empty :=
  CharField128.val_eq_empty_iff (hfit.call db).idempotencyKey

/-- Where both texts are stored as they are. -/
theorem reserveStockOnColumns_of_fit {arguments : ReserveArguments}
    (hfit : arguments.Fit) :
    reserveStockOnColumns db arguments =
      ((reserveStock db (hfit.call db)).1,
        .ok (reserveStock db (hfit.call db)).2) := by
  have hreplay : replayOnColumns db arguments.idempotencyKey =
      .ok (replay? db (hfit.call db).idempotencyKey) := by
    have hprior : priorRows db arguments.idempotencyKey =
        priorReservations db (hfit.call db).idempotencyKey :=
      priorRows_val db (hfit.call db).idempotencyKey
    have hempty := hfit.keyless_iff db
    rw [replayOnColumns, replay?, hprior]
    by_cases hkeyless : arguments.idempotencyKey = ""
    · rw [if_pos hkeyless, if_pos (hempty.mp hkeyless)]
    · rw [if_neg hkeyless, if_neg (hkeyless ∘ hempty.mpr),
        if_neg (by simp [hfit.2.1])]
      cases priorReservations db (hfit.call db).idempotencyKey <;> rfl
  rw [reserveStockOnColumns, reserveStock, hreplay]
  have hsame : (hfit.call db).items = arguments.items := rfl
  rw [hsame]
  by_cases hitems : arguments.items = []
  · rw [if_pos hitems, if_pos hitems]
  rw [if_neg hitems, if_neg hitems]
  cases replay? db (hfit.call db).idempotencyKey with
  | some outcome => rfl
  | none => exact reserveBody_stored (hfit.stored? db)

end Queries

/-! ## Success and its effect -/

/-- `reserve_stock` returns, with `success=True`. -/
def Succeeds (db : InventoryDb) (arguments : ReserveArguments) : Prop :=
  ∃ results, (reserveStockOnColumns db arguments).2 = .ok ⟨true, results⟩

/-- What a row says. -/
structure RowText where
  productId : ℤ
  quantity : ℤ
  orderRef : String
  idempotencyKey : String
  status : Status
  deriving DecidableEq

def StockReservation.text (row : StockReservation) : RowText :=
  ⟨row.productId, row.quantity, row.orderRef.val, row.idempotencyKey.val,
    row.status⟩

/-- The RESERVED row that a line asks for. -/
def ReserveArguments.text (arguments : ReserveArguments) (item : ReserveItem) :
    RowText :=
  ⟨item.productId, item.quantity, arguments.orderRef,
    arguments.idempotencyKey, .reserved⟩

/-- Every balance has dropped by the sum requested for its product, one
RESERVED row per line with the given texts is added, and nothing else has
changed. -/
structure ReservedAs (db : InventoryDb) (arguments : ReserveArguments)
    (after : InventoryDb) : Prop where
  products : ∀ productId, after.product? productId =
    (db.product? productId).map fun product =>
      { product with
        availableQuantity := product.availableQuantity -
          requested arguments.items productId }
  catalog : after.products.map (fun product => (product.id, product.sku,
      product.name)) =
    db.products.map fun product => (product.id, product.sku, product.name)
  reservations : ∃ added, after.reservations = db.reservations ++ added ∧
    (added.map StockReservation.text).Perm
      (arguments.items.map arguments.text)

section Effect

variable {db after : InventoryDb} {arguments : ReserveArguments}
  {call : ReserveCall}

/-- The lines of rows, as texts. -/
def ReservedLine.text (line : ReservedLine) : RowText :=
  ⟨line.productId, line.quantity, line.orderRef.val, line.idempotencyKey.val,
    line.status⟩

/-- A call has the effect asked for when its texts are stored as they are. -/
theorem ReservedBy.reservedAs (hreserved : ReservedBy db call after)
    (hstored : arguments.stored? db = some call) (hfit : arguments.Fit) :
    ReservedAs db arguments after := by
  have hitems := stored?_items hstored
  obtain ⟨added, hadded, hlines⟩ := hreserved.reservations
  refine ⟨hitems ▸ hreserved.products, hreserved.catalog, added, hadded, ?_⟩
  have htexts := hlines.map ReservedLine.text
  rw [hfit.stored? db] at hstored
  obtain rfl := Option.some.inj hstored
  rw [List.map_map, List.map_map] at htexts
  exact htexts

/-- And only then. -/
theorem ReservedAs.fit (hreservedAs : ReservedAs db arguments after)
    (hreserved : ReservedBy db call after)
    (hstored : arguments.stored? db = some call)
    (hitems : arguments.items ≠ []) : arguments.Fit := by
  obtain ⟨added, hadded, hlines⟩ := hreserved.reservations
  obtain ⟨addedAs, haddedAs, htexts⟩ := hreservedAs.reservations
  obtain rfl := List.append_cancel_left (haddedAs.symm.trans hadded)
  obtain ⟨item, hitem⟩ := List.exists_mem_of_ne_nil _ hitems
  have htext : arguments.text item ∈ addedAs.map StockReservation.text :=
    htexts.symm.subset (List.mem_map_of_mem hitem)
  obtain ⟨row, hrow, hsame⟩ := List.mem_map.mp htext
  have hline : row.line ∈ call.items.map call.line :=
    hlines.subset (List.mem_map_of_mem hrow)
  obtain ⟨line, _, hstoredLine⟩ := List.mem_map.mp hline
  obtain ⟨horderRef, hkey⟩ := stored?_texts hstored
  constructor
  · refine fits_of_column? horderRef ?_
    calc call.orderRef.val = row.orderRef.val :=
          congrArg (fun line => line.orderRef.val) hstoredLine
      _ = arguments.orderRef := congrArg RowText.orderRef hsame
  · refine fits_of_column? hkey ?_
    calc call.idempotencyKey.val = row.idempotencyKey.val :=
          congrArg (fun line => line.idempotencyKey.val) hstoredLine
      _ = arguments.idempotencyKey := congrArg RowText.idempotencyKey hsame

/-- A call whose texts are refused reserves nothing. -/
theorem reserveBody_refusedTexts (hrefused : arguments.stored? db = none)
    (hitems : arguments.items ≠ []) :
    (reserveBodyOnColumns db arguments).1 = db ∧ ∀ results,
      (reserveBodyOnColumns db arguments).2 ≠ .ok ⟨true, results⟩ := by
  rw [reserveBodyOnColumns]
  split
  · exact ⟨rfl, fun results => by simp⟩
  · exact ⟨rfl, fun results => by simp⟩
  · next loop hrun =>
      have hallOk : loop.allOk = false := by
        by_contra hnot
        have hnothing := reserveLoop_refused hrefused hrun
          (Bool.eq_true_of_not_eq_false hnot)
        have hperm := perm_sortedItems arguments.items
        rw [hnothing] at hperm
        exact hitems hperm.symm.eq_nil
      simp [ReserveLoop.finish, hallOk]

/-- A call that is not answered by a replay and succeeds has stored its
texts. -/
theorem Succeeds.stored (hsuccess : Succeeds db arguments)
    (hitems : arguments.items ≠ [])
    (hinactive : arguments.idempotencyKey ≠ "" →
      db.activeForText arguments.idempotencyKey = []) :
    ∃ call, arguments.stored? db = some call ∧
      (reserveBody db call).2.success = true ∧
      (reserveStockOnColumns db arguments).1 = (reserveBody db call).1 := by
  obtain ⟨results, hanswer⟩ := hsuccess
  cases hnul : hasNul arguments.idempotencyKey with
  | true =>
      have hkeyed : arguments.idempotencyKey ≠ "" := by
        intro hempty
        rw [hempty] at hnul
        exact absurd hnul (by decide)
      rw [reserveStockOnColumns, if_neg hitems, replayOnColumns,
        if_neg hkeyed, if_pos hnul] at hanswer
      cases hanswer
  | false =>
      rw [reserveStockOnColumns_eq_body hitems hnul hinactive] at hanswer ⊢
      cases hstored : arguments.stored? db with
      | none =>
          exact absurd hanswer
            ((reserveBody_refusedTexts hstored hitems).2 results)
      | some call =>
          rw [reserveBody_stored hstored] at hanswer ⊢
          exact ⟨call, rfl, congrArg ReservationOutcome.success
            (Except.ok.inj hanswer), rfl⟩

/-- A call either changes nothing, or does what the body does for the texts
that are stored. -/
theorem reserveStockOnColumns_cases (db : InventoryDb)
    (arguments : ReserveArguments) :
    (reserveStockOnColumns db arguments).1 = db ∨
      ∃ call, arguments.stored? db = some call ∧
        (reserveStockOnColumns db arguments).1 = (reserveBody db call).1 := by
  rw [reserveStockOnColumns]
  by_cases hitems : arguments.items = []
  · rw [if_pos hitems]
    exact .inl rfl
  rw [if_neg hitems]
  split
  · exact .inl rfl
  · exact .inl rfl
  · cases hstored : arguments.stored? db with
    | none => exact .inl (reserveBody_refusedTexts hstored hitems).1
    | some call => exact .inr ⟨call, rfl, by rw [reserveBody_stored hstored]⟩

end Effect

/-! ## Success and feasibility -/

/-- Success means feasible, and a success has exactly the requested effect. -/
def ReservesFeasible (db : InventoryDb) (arguments : ReserveArguments) :
    Prop :=
  (Succeeds db arguments ↔ Feasible db arguments.items) ∧
    (Succeeds db arguments → ReservedAs db arguments
      (reserveStockOnColumns db arguments).1)

section Feasibility

variable {db : InventoryDb} {arguments : ReserveArguments}

/-- A call whose texts are stored as they are, and whose key is not active. -/
theorem succeeds_iff (hfit : arguments.Fit) (hitems : arguments.items ≠ [])
    (hinactive : arguments.idempotencyKey ≠ "" →
      db.activeForText arguments.idempotencyKey = []) :
    Succeeds db arguments ↔ Feasible db arguments.items ∧
      (arguments.idempotencyKey ≠ "" →
        (arguments.items.map ReserveItem.productId).Nodup) := by
  have hstored := hfit.stored? db
  constructor
  · intro hsuccess
    obtain ⟨call, hcall, hbody, _⟩ := hsuccess.stored hitems hinactive
    obtain rfl := Option.some.inj (hstored.symm.trans hcall)
    exact ⟨reserveBody_feasible hbody, fun hkeyed =>
      reserveBody_keyed_nodup hbody (hkeyed ∘ (hfit.keyless_iff db).mpr)⟩
  · rintro ⟨hfeasible, hnodup⟩
    have hindex : IndexFree db (hfit.call db).idempotencyKey
        (hfit.call db).items := by
      intro hkey
      have hkeyed : arguments.idempotencyKey ≠ "" :=
        hkey ∘ (hfit.keyless_iff db).mp
      have hnone := hinactive hkeyed
      refine ⟨hnodup hkeyed, fun item _ =>
        hasActive_eq_false_of_activeForKey ?_ item.productId⟩
      rwa [← activeForText_val]
    have hbody := @reserveBody_of_feasible db (hfit.call db) hfeasible hindex
    exact ⟨_, by
      rw [reserveStockOnColumns_eq_body hitems hfit.2.1 hinactive,
        reserveBody_stored hstored, ← hbody]⟩

theorem succeeds_of_fit_iff (hfit : arguments.Fit) :
    Succeeds db arguments ↔
      (reserveStock db (hfit.call db)).2.success = true := by
  rw [Succeeds, reserveStockOnColumns_of_fit hfit]
  constructor
  · rintro ⟨results, hsuccess⟩
    exact congrArg ReservationOutcome.success (Except.ok.inj hsuccess)
  · intro hsuccess
    exact ⟨(reserveStock db (hfit.call db)).2.results, by rw [← hsuccess]⟩

/-- A success has exactly the effect asked for where the texts fit. -/
theorem Succeeds.reservedAs_iff (hsuccess : Succeeds db arguments)
    (hitems : arguments.items ≠ [])
    (hinactive : arguments.idempotencyKey ≠ "" →
      db.activeForText arguments.idempotencyKey = []) :
    ReservedAs db arguments (reserveStockOnColumns db arguments).1 ↔
      arguments.Fit := by
  obtain ⟨call, hstored, hbody, hafter⟩ := hsuccess.stored hitems hinactive
  have hreserved := reserveBody_reservedBy hbody
  rw [hafter]
  exact ⟨fun hasked => hasked.fit hreserved hstored hitems,
    fun hfit => hreserved.reservedAs hstored hfit⟩

theorem Succeeds.feasible (hsuccess : Succeeds db arguments)
    (hitems : arguments.items ≠ [])
    (hinactive : arguments.idempotencyKey ≠ "" →
      db.activeForText arguments.idempotencyKey = []) :
    Feasible db arguments.items := by
  obtain ⟨call, hstored, hbody, _⟩ := hsuccess.stored hitems hinactive
  exact stored?_items hstored ▸ reserveBody_feasible hbody

end Feasibility

/-- What is feasible is reserved as asked, except in two cases: a column does
not store one of the texts as it is, or a keyed request names one product in
two lines, where the second INSERT meets the first one in the partial unique
index. -/
theorem reserves_feasible_iff (db : InventoryDb)
    (arguments : ReserveArguments) (hitems : arguments.items ≠ [])
    (hinactive : arguments.idempotencyKey ≠ "" →
      db.activeForText arguments.idempotencyKey = []) :
    ReservesFeasible db arguments ↔
      (¬ Feasible db arguments.items ∨ arguments.Fit ∧
        (arguments.idempotencyKey = "" ∨
          (arguments.items.map ReserveItem.productId).Nodup)) := by
  constructor
  · rintro ⟨hiff, heffect⟩
    by_cases hfeasible : Feasible db arguments.items
    · have hsuccess := hiff.mpr hfeasible
      have hfit := (hsuccess.reservedAs_iff hitems hinactive).mp
        (heffect hsuccess)
      have hnodup := ((succeeds_iff hfit hitems hinactive).mp hsuccess).2
      exact .inr ⟨hfit, or_iff_not_imp_left.mpr hnodup⟩
    · exact .inl hfeasible
  · rintro (hinfeasible | ⟨hfit, hcondition⟩)
    · have hfails : ¬ Succeeds db arguments := fun hsuccess =>
        hinfeasible (hsuccess.feasible hitems hinactive)
      exact ⟨iff_of_false hfails hinfeasible, fun hsuccess =>
        absurd hsuccess hfails⟩
    · refine ⟨?_, fun hsuccess =>
        (hsuccess.reservedAs_iff hitems hinactive).mpr hfit⟩
      rw [succeeds_iff hfit hitems hinactive]
      exact and_iff_left (or_iff_not_imp_left.mp hcondition)

/-- Two lines for the same gadget under an idempotency key, three of fifty in
stock. -/
def duplicateGadgets : ReserveArguments where
  orderRef := "order-123"
  items := [⟨2, 1⟩, ⟨2, 2⟩]
  idempotencyKey := "order-123"
  clock := id

theorem duplicateGadgets_refused :
    duplicateGadgets.items ≠ [] ∧
      seededDb.activeForText duplicateGadgets.idempotencyKey = [] ∧
      Feasible seededDb duplicateGadgets.items ∧
      (reserveStockOnColumns seededDb duplicateGadgets).2 =
        .ok ⟨false, [⟨2, false, "duplicate reservation in progress"⟩,
          ⟨2, false, "duplicate reservation in progress"⟩]⟩ ∧
      ¬ ReservesFeasible seededDb duplicateGadgets := by
  have hfeasible : Feasible seededDb duplicateGadgets.items := by decide
  have hrefused : (reserveStockOnColumns seededDb duplicateGadgets).2 =
      .ok ⟨false, [⟨2, false, "duplicate reservation in progress"⟩,
        ⟨2, false, "duplicate reservation in progress"⟩]⟩ := by decide
  refine ⟨by decide, by decide, hfeasible, hrefused, fun hreserves => ?_⟩
  obtain ⟨results, hsuccess⟩ := hreserves.1.mpr hfeasible
  rw [hrefused] at hsuccess
  exact absurd (congrArg ReservationOutcome.success
    (Except.ok.inj hsuccess)) Bool.false_ne_true

/-- The same two lines without a key are reserved. -/
theorem reserves_feasible_keyless :
    ReservesFeasible seededDb { duplicateGadgets with idempotencyKey := "" } :=
  (reserves_feasible_iff seededDb { duplicateGadgets with idempotencyKey := "" }
    (by decide) (by decide)).mpr (.inr ⟨by decide, .inl rfl⟩)

end OrderFlow.Inventory
