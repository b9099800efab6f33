import OrderFlow.Inventory.ColumnReserve
import OrderFlow.Inventory.ReleaseInverse
import OrderFlow.Inventory.SerialInvariants

/-!
# Release undoes reserve, on the columns

Whatever other orders do in between, the release of an order gives back what
its reservation took, as long as `available_quantity` has room for it.  Where
it has not, the release fails as a whole.
-/

namespace OrderFlow.Inventory

/-! ## The loop of `release_stock` -/

/-- Every product has room for what the rows give back to it. -/
def AddsBack (db : InventoryDb) (tx : Tx) (rows : List StockReservation) :
    Prop :=
  ∀ row ∈ rows, ∀ available, tx.available? db row.productId = some available →
    available + quantityOf rows row.productId ≤ integerMax

section Loop

variable {db : InventoryDb} {tx : Tx} {rows : List StockReservation}

/-- Where no add-back fails, the loop is the one of `releaseStock`. -/
theorem releaseLoopOnColumns_ok {final : Tx}
    (hrun : releaseLoopOnColumns db tx rows = .ok final) :
    final = releaseLoop db tx rows := by
  induction rows generalizing tx with
  | nil => exact (Except.ok.inj hrun).symm
  | cons row rows ih =>
      rw [releaseLoopOnColumns, addBackOnColumns] at hrun
      have hstep : releaseLoop db tx (row :: rows) =
          releaseLoop db ((addBack db tx row).release row.id) rows := rfl
      rw [hstep, addBack]
      cases hread : tx.available? db row.productId with
      | none =>
          simp only [hread] at hrun ⊢
          exact ih hrun
      | some available =>
          by_cases hfull : integerMax < available + row.quantity
          · simp only [hread, if_pos hfull] at hrun
            cases hrun
          · simp only [hread, if_neg hfull] at hrun ⊢
            exact ih hrun

theorem quantityOf_cons (row : StockReservation)
    (rows : List StockReservation) (productId : ℤ) :
    quantityOf (row :: rows) productId =
      (if row.productId = productId then row.quantity else 0) +
        quantityOf rows productId :=
  groupedSum.cons _ _ row rows productId

theorem available?_releaseLine (db : InventoryDb) (tx : Tx)
    (row : StockReservation) (productId : ℤ) :
    (releaseLine db tx row).available? db productId =
      if productId = row.productId then
        (tx.available? db productId).map fun available =>
          available + row.quantity
      else tx.available? db productId := by
  have hread : (releaseLine db tx row).available? db productId =
      (addBack db tx row).available? db productId := rfl
  rw [hread, addBack]
  by_cases hsame : productId = row.productId
  · subst hsame
    rw [if_pos rfl]
    cases havailable : tx.available? db row.productId with
    | none => exact havailable
    | some available =>
        have hknown : (db.available? row.productId).isSome :=
          Option.isSome_iff_ne_none.mpr fun hnone => by
            rw [(tx.available?_eq_none_iff db _).mpr hnone] at havailable
            exact absurd havailable.symm (Option.some_ne_none available)
        obtain ⟨committed, hcommitted⟩ := Option.isSome_iff_exists.mp hknown
        simp [hcommitted]
  · rw [if_neg hsame]
    cases tx.available? db row.productId with
    | none => rfl
    | some available => simp [hsame]

/-- Room for the first row and, after it, for the others. -/
theorem addsBack_cons_iff {row : StockReservation}
    (hquantities : ∀ other ∈ row :: rows, 0 ≤ other.quantity) :
    AddsBack db tx (row :: rows) ↔
      (∀ available, tx.available? db row.productId = some available →
        available + row.quantity ≤ integerMax) ∧
      AddsBack db (releaseLine db tx row) rows := by
  constructor
  · intro hroom
    constructor
    · intro available hread
      have hsum := hroom row List.mem_cons_self available hread
      have hrest : 0 ≤ quantityOf rows row.productId :=
        groupedSum.nonneg (fun other hother =>
          hquantities other (List.mem_cons_of_mem row hother)) _
      rw [quantityOf_cons, if_pos rfl] at hsum
      omega
    · intro other hother available hread
      have hsum := hroom other (List.mem_cons_of_mem row hother)
      rw [available?_releaseLine] at hread
      rw [quantityOf_cons] at hsum
      by_cases hsame : other.productId = row.productId
      · rw [if_pos hsame] at hread
        rw [if_pos hsame.symm] at hsum
        obtain ⟨before, hbefore, rfl⟩ := Option.map_eq_some_iff.mp hread
        have := hsum before hbefore
        omega
      · rw [if_neg hsame] at hread
        rw [if_neg (Ne.symm hsame), zero_add] at hsum
        exact hsum available hread
  · rintro ⟨hfirst, hrest⟩ other hother available hread
    rw [quantityOf_cons]
    by_cases hsame : other.productId = row.productId
    · rw [hsame] at hread ⊢
      rw [if_pos rfl]
      by_cases hmore : row.productId ∈ rows.map StockReservation.productId
      · obtain ⟨later, hlater, hproduct⟩ := List.mem_map.mp hmore
        have hsum := hrest later hlater (available + row.quantity)
        rw [available?_releaseLine, hproduct, if_pos rfl, hread] at hsum
        have := hsum rfl
        omega
      · rw [quantityOf_eq_zero hmore, add_zero]
        exact hfirst available hread
    · rw [if_neg (Ne.symm hsame), zero_add]
      refine hrest other ?_ available ?_
      · rcases List.mem_cons.mp hother with rfl | hlater
        · exact absurd rfl hsame
        · exact hlater
      · rw [available?_releaseLine, if_neg hsame]
        exact hread

/-- The loop runs through exactly when there is room. -/
theorem releaseLoopOnColumns_eq
    (hquantities : ∀ row ∈ rows, 0 ≤ row.quantity) :
    (AddsBack db tx rows →
      releaseLoopOnColumns db tx rows = .ok (releaseLoop db tx rows)) ∧
    (¬ AddsBack db tx rows →
      releaseLoopOnColumns db tx rows = .error .dataError) := by
  induction rows generalizing tx with
  | nil =>
      exact ⟨fun _ => rfl, fun hfull => absurd (fun row hrow =>
        absurd hrow List.not_mem_nil) hfull⟩
  | cons row rows ih =>
      have hrest := @ih (releaseLine db tx row) fun other hother =>
        hquantities other (List.mem_cons_of_mem row hother)
      rw [addsBack_cons_iff hquantities, releaseLoopOnColumns,
        addBackOnColumns]
      have hstep : releaseLoop db tx (row :: rows) =
          releaseLoop db (releaseLine db tx row) rows := rfl
      rw [hstep]
      cases hread : tx.available? db row.productId with
      | none =>
          have hline : releaseLine db tx row = tx.release row.id := by
            rw [releaseLine, addBack, hread]
          rw [hline] at hrest ⊢
          simpa using hrest
      | some available =>
          have hline : releaseLine db tx row = (tx.write row.productId
              (available + row.quantity)).release row.id := by
            rw [releaseLine, addBack, hread]
          rw [hline] at hrest ⊢
          by_cases hfull : integerMax < available + row.quantity
          · simp [hfull]
          · simpa [hfull, not_lt.mp hfull] using hrest

end Loop

/-! ## A release -/

section Release

variable {db : InventoryDb}

/-- No row holds a text that is too long. -/
theorem releaseStockOnColumns_tooLong {orderRef : String}
    (hnul : hasNul orderRef = false) (hlength : 128 < orderRef.length) :
    releaseStockOnColumns db orderRef = (db, .ok ⟨false, 0⟩) := by
  have hrows : db.reservedForText orderRef = [] := by
    refine List.filter_eq_nil_iff.mpr fun row _ hmatch => ?_
    have hrow := row.orderRef.property
    rw [(of_decide_eq_true hmatch).1] at hrow
    omega
  rw [releaseStockOnColumns, if_neg (by simp [hnul]), hrows]
  exact Prod.ext db.commit_start rfl

/-- A release either changes nothing, or is the `releaseStock` of the text. -/
theorem releaseStockOnColumns_cases (db : InventoryDb) (orderRef : String) :
    (releaseStockOnColumns db orderRef).1 = db ∨
      ∃ stored : CharField128, stored.val = orderRef ∧
        (releaseStockOnColumns db orderRef).1 = (releaseStock db stored).1 := by
  cases hnul : hasNul orderRef with
  | true => exact .inl (by rw [releaseStockOnColumns, if_pos hnul])
  | false =>
      by_cases hlength : orderRef.length ≤ 128
      · have hrows : db.reservedForText orderRef =
            db.reservedForOrder ⟨orderRef, hlength⟩ :=
          reservedForText_val db ⟨orderRef, hlength⟩
        rw [releaseStockOnColumns, if_neg (by simp [hnul])]
        simp only [hrows]
        split
        · exact .inl rfl
        · next final hrun =>
            rw [releaseLoopOnColumns_ok hrun]
            exact .inr ⟨⟨orderRef, hlength⟩, rfl, rfl⟩
      · rw [releaseStockOnColumns_tooLong hnul (not_le.mp hlength)]
        exact .inl rfl

/-- The release of a text that its column stores as it is. -/
theorem releaseStockOnColumns_of_fits {orderRef : String}
    (hfits : FitsColumn orderRef)
    (hquantities : ∀ row ∈ db.reservedForText orderRef, 0 ≤ row.quantity) :
    (AddsBack db .start (db.reservedForText orderRef) →
      releaseStockOnColumns db orderRef =
        ((releaseStock db ⟨orderRef, hfits.2⟩).1,
          .ok (releaseStock db ⟨orderRef, hfits.2⟩).2)) ∧
    (¬ AddsBack db .start (db.reservedForText orderRef) →
      releaseStockOnColumns db orderRef = (db, .error .dataError)) := by
  have hperm := perm_orderByProductId (db.reservedForText orderRef)
  have hloop := @releaseLoopOnColumns_eq db .start
    (orderByProductId (db.reservedForText orderRef)) fun row hrow =>
      hquantities row (hperm.subset hrow)
  have hroom : AddsBack db .start
      (orderByProductId (db.reservedForText orderRef)) ↔
        AddsBack db .start (db.reservedForText orderRef) := by
    simp only [AddsBack, hperm.mem_iff, quantityOf_perm hperm]
  rw [hroom] at hloop
  rw [releaseStockOnColumns, if_neg (by simp [hfits.1])]
  constructor
  · intro hfree
    simp only [hloop.1 hfree]
    have hrows : db.reservedForText orderRef =
        db.reservedForOrder ⟨orderRef, hfits.2⟩ :=
      reservedForText_val db ⟨orderRef, hfits.2⟩
    rw [hrows]
    rfl
  · intro hfull
    simp only [hloop.2 hfull]

end Release

/-! ## Calls in between -/

/-- One call of the service layer, with the texts it is given. -/
inductive ServiceArguments where
  | reserve (arguments : ReserveArguments)
  | release (orderRef : String)

namespace ServiceArguments

def apply (db : InventoryDb) : ServiceArguments → InventoryDb
  | .reserve arguments => (reserveStockOnColumns db arguments).1
  | .release orderRef => (releaseStockOnColumns db orderRef).1

def orderRef : ServiceArguments → String
  | .reserve arguments => arguments.orderRef
  | .release orderRef => orderRef

/-- A release has no key. -/
def idempotencyKey : ServiceArguments → String
  | .reserve arguments => arguments.idempotencyKey
  | .release _ => ""

/-- The call is for another order, also by what its rows will hold. -/
def ForOthers (orderRef : String) : ServiceArguments → Prop
  | .reserve arguments =>
      (CharField128.column? arguments.orderRef).map Subtype.val ≠ some orderRef
  | .release other => other ≠ orderRef

/-- The call does not use the key, nor do its rows. -/
def Avoids (key : String) : ServiceArguments → Prop
  | .reserve arguments =>
      (CharField128.column? arguments.idempotencyKey).map Subtype.val ≠
        some key
  | .release _ => True

end ServiceArguments

def runOnColumns (db : InventoryDb) (calls : List ServiceArguments) :
    InventoryDb :=
  calls.foldl ServiceArguments.apply db

/-- What the calls of others leave as it was. -/
structure Untouched (orderRef key : CharField128) (before after : InventoryDb) :
    Prop where
  ids_nodup : (after.reservations.map StockReservation.id).Nodup
  order : after.reservedForOrder orderRef = before.reservedForOrder orderRef
  key : key ≠ .empty → after.activeForKey key = before.activeForKey key

section Between

variable {db : InventoryDb} {orderRef key : CharField128}

theorem ServiceArguments.untouched
    (hids : (db.reservations.map StockReservation.id).Nodup)
    (hown : key ≠ .empty → ∀ row ∈ db.activeForKey key,
      row.orderRef = orderRef)
    {call : ServiceArguments} (hothers : call.ForOthers orderRef.val)
    (havoids : key ≠ .empty → call.Avoids key.val) :
    Untouched orderRef key db (call.apply db) := by
  cases call with
  | reserve arguments =>
      rcases reserveStockOnColumns_cases db arguments with
        hsame | ⟨stored, hstored, hbody⟩
      · rw [apply, hsame]
        exact ⟨hids, rfl, fun _ => rfl⟩
      obtain ⟨horderText, hkeyText⟩ := stored?_texts hstored
      have horder : stored.orderRef ≠ orderRef := by
        rintro rfl
        exact hothers (congrArg (Option.map Subtype.val) horderText)
      rw [apply, hbody]
      refine ⟨?_, reservedForOrder_reserveBody_other horder, fun hkeyed => ?_⟩
      · refine Serial.reserveBody_ids_nodup hids fun row hrow => ?_
        rw [stored?_number hstored]
        exact db.call_ne_nextCall row hrow
      · refine activeForKey_reserveBody_other ?_
        rintro rfl
        exact havoids hkeyed (congrArg (Option.map Subtype.val) hkeyText)
  | release other =>
      rcases releaseStockOnColumns_cases db other with
        hsame | ⟨stored, hstored, hrelease⟩
      · rw [apply, hsame]
        exact ⟨hids, rfl, fun _ => rfl⟩
      have horder : orderRef ≠ stored := by
        rintro rfl
        exact hothers hstored.symm
      rw [apply, hrelease]
      refine ⟨by rwa [releaseStock_ids],
        reservedForOrder_releaseStock_other hids horder, fun hkeyed => ?_⟩
      apply activeForKey_releaseStock_other hids
      intro row hrow
      rw [hown hkeyed row hrow]
      exact horder

theorem runOnColumns_untouched
    (hids : (db.reservations.map StockReservation.id).Nodup)
    (hown : key ≠ .empty → ∀ row ∈ db.activeForKey key,
      row.orderRef = orderRef)
    {calls : List ServiceArguments}
    (hothers : ∀ call ∈ calls, call.ForOthers orderRef.val)
    (havoids : key ≠ .empty → ∀ call ∈ calls, call.Avoids key.val) :
    Untouched orderRef key db (runOnColumns db calls) := by
  induction calls generalizing db with
  | nil => exact ⟨hids, rfl, fun _ => rfl⟩
  | cons call calls ih =>
      have hcall := ServiceArguments.untouched hids hown
        (hothers call List.mem_cons_self)
        fun hkeyed => havoids hkeyed call List.mem_cons_self
      have hrest := @ih (call.apply db) hcall.ids_nodup
        (fun hkeyed => hcall.key hkeyed ▸ hown hkeyed)
        (fun other hother => hothers other (List.mem_cons_of_mem call hother))
        fun hkeyed other hother =>
          havoids hkeyed other (List.mem_cons_of_mem call hother)
      exact ⟨hrest.ids_nodup, hrest.order.trans hcall.order,
        fun hkeyed => (hrest.key hkeyed).trans (hcall.key hkeyed)⟩

end Between

/-! ## The inverse -/

/-- The rule of a first call: it succeeds when the totals are covered and a
keyed request names no product twice, with exactly the requested effect, and
otherwise is answered and changes nothing. -/
structure AfreshOnColumns (db : InventoryDb) (arguments : ReserveArguments) :
    Prop where
  answered : ∃ outcome,
    (reserveStockOnColumns db arguments).2 = .ok outcome
  succeeds_iff : Succeeds db arguments ↔ Feasible db arguments.items ∧
    (arguments.idempotencyKey ≠ "" →
      (arguments.items.map ReserveItem.productId).Nodup)
  reserved : Succeeds db arguments →
    ReservedAs db arguments (reserveStockOnColumns db arguments).1
  refused : ¬ Succeeds db arguments →
    (reserveStockOnColumns db arguments).1 = db

/-- The column has room for what the lines give back to their products. -/
def RoomFor (db : InventoryDb) (items : List ReserveItem) : Prop :=
  ∀ item ∈ items, ∀ available,
    db.available? item.productId = some available →
      available + requested items item.productId ≤ integerMax

instance (db : InventoryDb) (items : List ReserveItem) :
    Decidable (RoomFor db items) :=
  inferInstanceAs (Decidable (∀ item ∈ items,
    ∀ available ∈ db.available? item.productId, _ ≤ integerMax))

/-- The release of an order that holds what `arguments` have reserved, on
tables that other orders may have changed since.  Repeated it is a no-op, and
the same reservation can be made afresh. -/
structure UndoesOnColumns (db : InventoryDb) (arguments : ReserveArguments) :
    Prop where
  answer : (releaseStockOnColumns db arguments.orderRef).2 =
    .ok ⟨true, arguments.items.length⟩
  products : ∀ productId,
    (releaseStockOnColumns db arguments.orderRef).1.product? productId =
      (db.product? productId).map fun product =>
        { product with
          availableQuantity := product.availableQuantity +
            requested arguments.items productId }
  catalog : (releaseStockOnColumns db arguments.orderRef).1.products.map
      (fun product => (product.id, product.sku, product.name)) =
    db.products.map fun product => (product.id, product.sku, product.name)
  reservations : (releaseStockOnColumns db arguments.orderRef).1.reservations =
    db.reservations.map fun row =>
      if row.orderRef.val = arguments.orderRef ∧ row.status = .reserved then
        { row with status := .released }
      else row
  again : releaseStockOnColumns
      (releaseStockOnColumns db arguments.orderRef).1 arguments.orderRef =
    ((releaseStockOnColumns db arguments.orderRef).1, .ok ⟨false, 0⟩)
  afresh : ∀ clock, AfreshOnColumns
    (releaseStockOnColumns db arguments.orderRef).1
    { arguments with clock := clock }

section Inverse

variable {db : InventoryDb} {arguments : ReserveArguments}

theorem afreshOnColumns (hfit : arguments.Fit) (hitems : arguments.items ≠ [])
    (hinactive : arguments.idempotencyKey ≠ "" →
      db.activeForText arguments.idempotencyKey = []) :
    AfreshOnColumns db arguments := by
  have hcall := @reserveStockOnColumns_of_fit db _ hfit
  refine ⟨⟨_, congrArg Prod.snd hcall⟩, succeeds_iff hfit hitems hinactive,
    fun hsuccess => (hsuccess.reservedAs_iff hitems hinactive).mpr hfit, ?_⟩
  intro hfails
  rw [succeeds_of_fit_iff hfit, Bool.not_eq_true] at hfails
  rw [hcall]
  exact reserveStock_failed hfails

/-- The rows of a call have room exactly when its lines have. -/
theorem addsBack_rows_iff (call : ReserveCall) (db : InventoryDb) :
    AddsBack db .start (call.rows (sortedItems call.items)) ↔
      RoomFor db call.items := by
  have hperm := perm_sortedItems call.items
  have hproducts := call.map_productId_rows (sortedItems call.items)
  have hsum : ∀ productId,
      quantityOf (call.rows (sortedItems call.items)) productId =
        requested call.items productId := fun productId => by
    rw [call.quantityOf_rows, requested_perm hperm]
  constructor
  · intro hroom item hitem available hread
    have hproduct : item.productId ∈ (call.rows (sortedItems call.items)).map
        StockReservation.productId := by
      rw [hproducts]
      exact List.mem_map_of_mem (hperm.symm.subset hitem)
    obtain ⟨row, hrow, hsame⟩ := List.mem_map.mp hproduct
    rw [← hsum, ← hsame]
    refine hroom row hrow available ?_
    rw [Tx.available?_start, hsame]
    exact hread
  · intro hroom row hrow available hread
    obtain ⟨item, hitem, line, rfl⟩ := ReserveCall.mem_rows hrow
    rw [hsum]
    rw [Tx.available?_start] at hread
    exact hroom item (hperm.subset hitem) available hread

/-- After a release that goes through, nothing is left to release and the key
is free. -/
theorem undoesOnColumns_of_released (hfit : arguments.Fit)
    (hitems : arguments.items ≠ []) {before : InventoryDb}
    (hundoes : Undoes db (hfit.call before))
    (hreleased : releaseStockOnColumns db arguments.orderRef =
      ((releaseStock db (hfit.call before).orderRef).1,
        .ok (releaseStock db (hfit.call before).orderRef).2))
    (hkey : arguments.idempotencyKey ≠ "" →
      (releaseStock db (hfit.call before).orderRef).1.activeForText
        arguments.idempotencyKey = []) :
    UndoesOnColumns db arguments := by
  have hnone : (releaseStock db (hfit.call before).orderRef).1.reservedForText
      arguments.orderRef = [] :=
    (reservedForText_val _ (hfit.call before).orderRef).trans
      (reservedForOrder_releaseStock db _)
  have hagain := @releaseStockOnColumns_of_fits
    (releaseStock db (hfit.call before).orderRef).1 _ hfit.1 (by simp [hnone])
  have hempty : AddsBack (releaseStock db (hfit.call before).orderRef).1 .start
      ((releaseStock db (hfit.call before).orderRef).1.reservedForText
        arguments.orderRef) := by
    rw [hnone]
    exact fun row hrow => absurd hrow List.not_mem_nil
  constructor
  · rw [hreleased]
    exact congrArg Except.ok hundoes.answer
  · rw [hreleased]
    exact hundoes.products
  · rw [hreleased]
    exact hundoes.catalog
  · rw [hreleased]
    refine hundoes.reservations.trans (List.map_congr_left fun row _ => ?_)
    simp only [Subtype.ext_iff]
    rfl
  · rw [hreleased]
    exact (hagain.1 hempty).trans (congrArg
      (fun result => (result.1, (Except.ok result.2 : Except PythonError _)))
      hundoes.again)
  · intro clock
    rw [hreleased]
    exact @afreshOnColumns _ { arguments with clock := clock } hfit hitems hkey

/-- The release of an order that holds the rows of its reservation. -/
theorem undoesOnColumns_of_reserved (hfit : arguments.Fit)
    (before : InventoryDb)
    (hids : (db.reservations.map StockReservation.id).Nodup)
    (hitems : arguments.items ≠ [])
    (hpositive : ∀ item ∈ arguments.items, 0 < item.quantity)
    (horder : db.reservedForOrder (hfit.call before).orderRef =
      (hfit.call before).rows (sortedItems arguments.items))
    (hkey : (hfit.call before).idempotencyKey ≠ .empty →
      db.activeForKey (hfit.call before).idempotencyKey =
        (hfit.call before).rows (sortedItems arguments.items)) :
    (RoomFor db arguments.items → UndoesOnColumns db arguments) ∧
      (¬ RoomFor db arguments.items →
        releaseStockOnColumns db arguments.orderRef =
          (db, .error .dataError)) := by
  have hrows : db.reservedForText arguments.orderRef =
      (hfit.call before).rows (sortedItems arguments.items) :=
    (reservedForText_val db (hfit.call before).orderRef).trans horder
  have hrelease := @releaseStockOnColumns_of_fits db _ hfit.1 (by
    rw [hrows]
    intro row hrow
    obtain ⟨item, hitem, line, rfl⟩ := ReserveCall.mem_rows hrow
    exact (hpositive item ((perm_sortedItems _).subset hitem)).le)
  have hroom : AddsBack db .start (db.reservedForText arguments.orderRef) ↔
      RoomFor db arguments.items := by
    rw [hrows]
    exact addsBack_rows_iff (hfit.call before) db
  rw [hroom] at hrelease
  refine ⟨fun hfree => ?_, hrelease.2⟩
  refine undoesOnColumns_of_released hfit hitems
    (undoes_of_reserved hids hitems horder hkey) (hrelease.1 hfree) ?_
  intro hkeyed
  refine (activeForText_val _ (hfit.call before).idempotencyKey).trans ?_
  apply activeForKey_releaseStock_own
  rw [hkey (hkeyed ∘ (hfit.keyless_iff before).mpr)]
  intro row hrow
  obtain ⟨item, _, line, rfl⟩ := ReserveCall.mem_rows hrow
  rfl

/-- Reserve, any calls of other orders, release: where there is room, the
release undoes exactly what the reservation did, and where there is none it
fails and changes nothing. -/
theorem release_inverts_reserve
    (hids : (db.reservations.map StockReservation.id).Nodup)
    (hfit : arguments.Fit)
    (horder : db.reservedForText arguments.orderRef = [])
    (hkey : arguments.idempotencyKey ≠ "" →
      db.activeForText arguments.idempotencyKey = [])
    (hsuccess : Succeeds db arguments)
    {between : List ServiceArguments}
    (hothers : ∀ call ∈ between, call.ForOthers arguments.orderRef)
    (havoids : arguments.idempotencyKey ≠ "" →
      ∀ call ∈ between, call.Avoids arguments.idempotencyKey) :
    AfreshOnColumns db arguments ∧
      ReservedAs db arguments (reserveStockOnColumns db arguments).1 ∧
      (RoomFor (runOnColumns (reserveStockOnColumns db arguments).1 between)
          arguments.items →
        UndoesOnColumns (runOnColumns (reserveStockOnColumns db arguments).1
          between) arguments) ∧
      (¬ RoomFor (runOnColumns (reserveStockOnColumns db arguments).1 between)
          arguments.items →
        releaseStockOnColumns (runOnColumns
            (reserveStockOnColumns db arguments).1 between)
            arguments.orderRef =
          (runOnColumns (reserveStockOnColumns db arguments).1 between,
            .error .dataError)) := by
  have hempty := hfit.keyless_iff db
  have hvacant : Vacant (hfit.call db).orderRef (hfit.call db).idempotencyKey
      db := by
    refine ⟨(reservedForText_val db _).symm.trans horder, fun hkeyed => ?_⟩
    exact (activeForText_val db _).symm.trans (hkey (hkeyed ∘ hempty.mp))
  obtain ⟨hrows, hactive, hitems⟩ :=
    hvacant.reserved ((succeeds_of_fit_iff hfit).mp hsuccess)
  have hafresh : AfreshOnColumns db arguments :=
    afreshOnColumns hfit hitems hkey
  refine ⟨hafresh, hafresh.reserved hsuccess, ?_⟩
  rw [reserveStockOnColumns_of_fit hfit]
  have hafterIds : ((reserveStock db (hfit.call db)).1.reservations.map
      StockReservation.id).Nodup :=
    reserveStock_ids_nodup hids db.call_ne_nextCall
  have huntouched := @runOnColumns_untouched _ (hfit.call db).orderRef
    (hfit.call db).idempotencyKey hafterIds (fun hkeyed row hrow => by
      rw [hactive hkeyed] at hrow
      obtain ⟨item, _, line, rfl⟩ := ReserveCall.mem_rows hrow
      rfl) between hothers fun hkeyed => havoids (hkeyed ∘ hempty.mp)
  exact undoesOnColumns_of_reserved hfit db huntouched.ids_nodup hitems
    (fun item hitem => ((hafresh.succeeds_iff.mp hsuccess).1 item hitem).1)
    (huntouched.order.trans hrows)
    fun hkeyed => (huntouched.key hkeyed).trans (hactive hkeyed)

end Inverse

/-- Two lines for the same widget, without a key. -/
def splitWidgets : ReserveArguments where
  orderRef := "order-1"
  items := [⟨1, 2⟩, ⟨1, 3⟩]
  idempotencyKey := ""
  clock := id

/-- A gadget is reserved for another order in between. -/
def gadgetBetween : List ServiceArguments :=
  [.reserve ⟨"order-2", [⟨2, 1⟩], "order-2", id⟩]

theorem release_inverts_splitWidgets :
    UndoesOnColumns (runOnColumns (reserveStockOnColumns seededDb splitWidgets).1
      gadgetBetween) splitWidgets := by
  have hsuccess : Succeeds seededDb splitWidgets :=
    ⟨[⟨1, true, ""⟩, ⟨1, true, ""⟩], by decide⟩
  have hothers : ∀ call ∈ gadgetBetween,
      call.ForOthers splitWidgets.orderRef := by
    intro call hcall
    rw [gadgetBetween, List.mem_singleton] at hcall
    subst hcall
    exact (by decide : (CharField128.column? "order-2").map Subtype.val ≠
      some "order-1")
  refine (release_inverts_reserve (by decide) (by decide) (by decide)
    (fun hkeyed => absurd rfl hkeyed) hsuccess hothers
    fun hkeyed => absurd rfl hkeyed).2.2.1 ?_
  decide

/-! ## Where a column stands in the way -/

/-- The release undoes the reservation after any calls with other texts. -/
def InvertsAfter (db : InventoryDb) (arguments : ReserveArguments)
    (between : List ServiceArguments) : Prop :=
  (db.reservations.map StockReservation.id).Nodup →
  db.reservedForText arguments.orderRef = [] →
  (arguments.idempotencyKey ≠ "" →
    db.activeForText arguments.idempotencyKey = []) →
  Succeeds db arguments →
  (∀ call ∈ between, call.orderRef ≠ arguments.orderRef) →
  (arguments.idempotencyKey ≠ "" →
    ∀ call ∈ between, call.idempotencyKey ≠ arguments.idempotencyKey) →
  UndoesOnColumns (runOnColumns (reserveStockOnColumns db arguments).1 between)
    arguments

/-- As many widgets as the column holds, and five more of them reserved for
another order. -/
def fullShelf : InventoryDb where
  products := [⟨1, "SKU-WIDGET", "Standard Widget", 2147483647⟩]
  reservations :=
    [⟨⟨0, 0⟩, 1, .ofText "order-2", .empty, 5, .reserved, 0⟩]

def fiveWidgets : ReserveArguments :=
  ⟨"order-1", [⟨1, 5⟩], "", id⟩

/-- A text as long as its column. -/
def longRef : String := String.ofList (List.replicate 128 'a')

def oneWidget (orderRef : String) : ReserveArguments :=
  ⟨orderRef, [⟨1, 1⟩], "", id⟩

/-- The release of another order takes the room that this one needs; the rows
of a text that is cut are not found under the text; and they are found under
the text that it is cut to. -/
theorem release_without_room :
    (releaseStockOnColumns (runOnColumns
        (reserveStockOnColumns fullShelf fiveWidgets).1 [.release "order-2"])
        fiveWidgets.orderRef).2 = .error .dataError ∧
      ¬ InvertsAfter fullShelf fiveWidgets [.release "order-2"] ∧
      ¬ InvertsAfter seededDb (oneWidget (longRef ++ " ")) [] ∧
      ¬ InvertsAfter seededDb (oneWidget longRef)
        [.reserve (oneWidget (longRef ++ " "))] := by
  have hfull : (releaseStockOnColumns (runOnColumns
        (reserveStockOnColumns fullShelf fiveWidgets).1 [.release "order-2"])
        fiveWidgets.orderRef).2 = .error .dataError := by decide
  have hcut : (releaseStockOnColumns (runOnColumns
      (reserveStockOnColumns seededDb (oneWidget (longRef ++ " "))).1 [])
      (oneWidget (longRef ++ " ")).orderRef).2 = .ok ⟨false, 0⟩ :=
    congrArg Prod.snd (releaseStockOnColumns_tooLong (by decide +kernel)
      (by decide +kernel))
  have hshared : (releaseStockOnColumns (runOnColumns
      (reserveStockOnColumns seededDb (oneWidget longRef)).1
      [.reserve (oneWidget (longRef ++ " "))])
      (oneWidget longRef).orderRef).2 = .ok ⟨true, 2⟩ := by decide +kernel
  refine ⟨hfull, fun hinverts => ?_, fun hinverts => ?_, fun hinverts => ?_⟩
  · have hundoes := hinverts (by decide) (by decide) (by decide)
      ⟨[⟨1, true, ""⟩], by decide⟩ (by decide) (by decide)
    exact absurd (hfull.symm.trans hundoes.answer) (by decide)
  · have hundoes := hinverts (by decide) (by decide) (by decide)
      ⟨[⟨1, true, ""⟩], by decide +kernel⟩ (by decide) (by decide)
    exact absurd (hcut.symm.trans hundoes.answer) (by decide)
  · have hundoes := hinverts (by decide) (by decide) (by decide)
      ⟨[⟨1, true, ""⟩], by decide +kernel⟩ (by decide +kernel) (by decide)
    exact absurd (hshared.symm.trans hundoes.answer) (by decide)

end OrderFlow.Inventory
