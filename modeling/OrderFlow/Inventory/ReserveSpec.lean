import OrderFlow.Inventory.Services
import Mathlib.Data.List.Induction
import Mathlib.Tactic.Linarith

/-!
# What the reserve loop computes

The loop decides line by line against a decreasing balance.  `Progress` says
what it has done after a prefix of the lines: the accepted lines have become
rows, and every balance has dropped by the total accepted for its product.
Success is then the same as feasibility of the per-product totals, as long as
the partial unique index does not interfere.
-/

namespace OrderFlow.Inventory

/-- Total quantity requested for one product. -/
def requested (items : List ReserveItem) (productId : ℤ) : ℤ :=
  groupedSum ReserveItem.productId ReserveItem.quantity items productId

/-- The rows inserted for a list of accepted lines. -/
def ReserveCall.rows (call : ReserveCall) (items : List ReserveItem) :
    List StockReservation :=
  items.mapIdx fun line item => call.row item line

/-- Every line is positive, and every product exists and covers the sum
requested for it. -/
def Feasible (db : InventoryDb) (items : List ReserveItem) : Prop :=
  ∀ item ∈ items, 0 < item.quantity ∧
    ∃ available, db.available? item.productId = some available ∧
      requested items item.productId ≤ available

instance (db : InventoryDb) (items : List ReserveItem) :
    Decidable (Feasible db items) :=
  decidable_of_iff
    (∀ item ∈ items, 0 < item.quantity ∧
      (db.available? item.productId).any
        (fun available => requested items item.productId ≤ available) = true)
    (by simp [Feasible, Option.any_eq_true])

theorem ReserveCall.rows_concat (call : ReserveCall)
    (items : List ReserveItem) (item : ReserveItem) :
    call.rows (items ++ [item]) =
      call.rows items ++ [call.row item items.length] := by
  simp [ReserveCall.rows, List.mapIdx_append]

@[simp]
theorem ReserveCall.length_rows (call : ReserveCall)
    (items : List ReserveItem) : (call.rows items).length = items.length := by
  simp [ReserveCall.rows]

theorem ReserveCall.mem_rows {call : ReserveCall} {items : List ReserveItem}
    {row : StockReservation} (hrow : row ∈ call.rows items) :
    ∃ item ∈ items, ∃ line, row = call.row item line := by
  obtain ⟨line, hline, rfl⟩ := List.mem_mapIdx.mp hrow
  exact ⟨items[line], List.getElem_mem hline, line, rfl⟩

/-- The inserted rows say again what was requested. -/
theorem ReserveCall.quantityOf_rows (call : ReserveCall)
    (items : List ReserveItem) (productId : ℤ) :
    quantityOf (call.rows items) productId = requested items productId := by
  induction items using List.reverseRecOn with
  | nil => rfl
  | append_singleton items item ih =>
      rw [quantityOf, requested] at ih
      rw [call.rows_concat, quantityOf, requested, groupedSum.append,
        groupedSum.append, ih, groupedSum.cons, groupedSum.cons]
      rfl

theorem ReserveCall.rows_ids_nodup (call : ReserveCall)
    (items : List ReserveItem) :
    ((call.rows items).map StockReservation.id).Nodup := by
  induction items using List.reverseRecOn with
  | nil => exact List.nodup_nil
  | append_singleton items item ih =>
      rw [call.rows_concat, List.map_append, List.nodup_append]
      refine ⟨ih, List.nodup_singleton _, ?_⟩
      intro id hid other hother
      obtain ⟨row, hrow, rfl⟩ := List.mem_map.mp hid
      obtain ⟨line, hline, rfl⟩ := List.mem_mapIdx.mp hrow
      simp only [List.map_cons, List.map_nil, List.mem_singleton] at hother
      subst hother
      simp only [ReserveCall.row, ne_eq, RowId.mk.injEq, true_and]
      exact hline.ne

/-! ## One line -/

/-- The five ways through one iteration of the loop. -/
inductive LineCase (db : InventoryDb) (call : ReserveCall)
    (loop : ReserveLoop) (item : ReserveItem) :
    Except DbError ReserveLoop → Prop
  | nonPositive (hquantity : item.quantity ≤ 0) :
      LineCase db call loop item
        (.ok (loop.reject item "quantity must be positive"))
  | notFound (hquantity : 0 < item.quantity)
      (hproduct : loop.tx.available? db item.productId = none) :
      LineCase db call loop item (.ok (loop.reject item "product not found"))
  | insufficient (available : ℤ) (hquantity : 0 < item.quantity)
      (hproduct : loop.tx.available? db item.productId = some available)
      (hshort : available < item.quantity) :
      LineCase db call loop item (.ok (loop.reject item
        (ReserveLoop.insufficientStock item.quantity available)))
  | reserved (available : ℤ) (hquantity : 0 < item.quantity)
      (hproduct : loop.tx.available? db item.productId = some available)
      (henough : item.quantity ≤ available)
      (hindex : loop.tx.violatesUniqueIndex db call.idempotencyKey
        item.productId = false) :
      LineCase db call loop item (.ok
        { tx := (loop.tx.write item.productId
            (available - item.quantity)).insert
              (call.row item loop.tx.inserted.length)
          outcomes := loop.outcomes ++ [⟨item.productId, true, ""⟩]
          allOk := loop.allOk })
  | duplicate (available : ℤ) (hquantity : 0 < item.quantity)
      (hproduct : loop.tx.available? db item.productId = some available)
      (henough : item.quantity ≤ available)
      (hindex : loop.tx.violatesUniqueIndex db call.idempotencyKey
        item.productId = true) :
      LineCase db call loop item (.error .integrityError)

theorem reserveLine_case (db : InventoryDb) (call : ReserveCall)
    (loop : ReserveLoop) (item : ReserveItem) :
    LineCase db call loop item (reserveLine db call loop item) := by
  rw [reserveLine]
  by_cases hquantity : item.quantity ≤ 0
  · rw [if_pos hquantity]
    exact .nonPositive hquantity
  rw [if_neg hquantity]
  rw [not_le] at hquantity
  cases hproduct : loop.tx.available? db item.productId with
  | none => exact .notFound hquantity hproduct
  | some available =>
      by_cases hshort : available < item.quantity
      · simp only [if_pos hshort]
        exact .insufficient available hquantity hproduct hshort
      simp only [if_neg hshort]
      rw [not_lt] at hshort
      cases hindex : loop.tx.violatesUniqueIndex db call.idempotencyKey
          item.productId with
      | true =>
          have herror : (loop.saveProduct item available).createReservation
              db call item = .error .integrityError := if_pos hindex
          rw [herror]
          exact .duplicate available hquantity hproduct hshort hindex
      | false =>
          have hok : (loop.saveProduct item available).createReservation
              db call item = .ok _ := if_neg (Bool.eq_false_iff.mp hindex)
          rw [hok]
          exact .reserved available hquantity hproduct hshort hindex

/-! ## The loop -/

/-- What the loop has done after the lines `done`, of which it accepted
`accepted`. -/
structure Progress (db : InventoryDb) (call : ReserveCall)
    (done accepted : List ReserveItem) (loop : ReserveLoop) : Prop where
  sublist : accepted.Sublist done
  positive : ∀ item ∈ accepted, 0 < item.quantity
  inserted : loop.tx.inserted = call.rows accepted
  released : loop.tx.released = []
  balance : ∀ productId, loop.tx.available? db productId =
    (db.available? productId).map fun available =>
      available - requested accepted productId
  covered : ∀ item ∈ accepted, ∃ available,
    db.available? item.productId = some available ∧
      requested accepted item.productId ≤ available
  written : ∀ productId, loop.tx.writes productId ≠ none →
    ∃ item ∈ accepted, item.productId = productId
  allOk : loop.allOk = true ↔ accepted = done
  index : call.idempotencyKey ≠ .empty →
    (accepted.map ReserveItem.productId).Nodup ∧
      ∀ item ∈ accepted,
        db.hasActive call.idempotencyKey item.productId = false

theorem Progress.start (db : InventoryDb) (call : ReserveCall) :
    Progress db call [] [] .start where
  sublist := List.Sublist.refl []
  positive := by simp
  inserted := rfl
  released := rfl
  balance productId := by
    simp [ReserveLoop.start, requested]
  covered := by simp
  written productId hwritten := absurd rfl hwritten
  allOk := by simp [ReserveLoop.start]
  index _ := by simp

/-- A rejected line changes no write. -/
theorem Progress.reject {db : InventoryDb} {call : ReserveCall}
    {done accepted : List ReserveItem} {loop : ReserveLoop}
    (hprogress : Progress db call done accepted loop) (item : ReserveItem)
    (reason : String) :
    Progress db call (done ++ [item]) accepted (loop.reject item reason) where
  sublist := hprogress.sublist.trans (List.sublist_append_left done [item])
  positive := hprogress.positive
  inserted := hprogress.inserted
  released := hprogress.released
  balance := hprogress.balance
  covered := hprogress.covered
  written := hprogress.written
  allOk := by
    have hlength := hprogress.sublist.length_le
    constructor
    · intro hallOk
      exact absurd hallOk Bool.false_ne_true
    · intro hall
      rw [hall, List.length_append, List.length_singleton] at hlength
      omega
  index := hprogress.index

theorem requested_concat (items : List ReserveItem) (item : ReserveItem)
    (productId : ℤ) :
    requested (items ++ [item]) productId =
      requested items productId +
        if item.productId = productId then item.quantity else 0 := by
  rw [requested, requested, groupedSum.append, groupedSum.cons,
    groupedSum.nil, add_zero]

/-- Without a violation no earlier line of the call has the product, and no
committed row blocks it. -/
theorem Progress.index_free {db : InventoryDb} {call : ReserveCall}
    {done accepted : List ReserveItem} {loop : ReserveLoop}
    (hprogress : Progress db call done accepted loop) (productId : ℤ) :
    loop.tx.violatesUniqueIndex db call.idempotencyKey productId = false ↔
      (call.idempotencyKey ≠ .empty →
        productId ∉ accepted.map ReserveItem.productId ∧
          db.hasActive call.idempotencyKey productId = false) := by
  have hown : (loop.tx.inserted.any fun row =>
      row.idempotencyKey = call.idempotencyKey ∧ row.productId = productId) =
        decide (productId ∈ accepted.map ReserveItem.productId) := by
    rw [hprogress.inserted, Bool.eq_iff_iff, List.any_eq_true,
      decide_eq_true_eq, List.mem_map]
    constructor
    · rintro ⟨row, hrow, hmatch⟩
      obtain ⟨item, hitem, line, rfl⟩ := ReserveCall.mem_rows hrow
      exact ⟨item, hitem, (of_decide_eq_true hmatch).2⟩
    · rintro ⟨item, hitem, rfl⟩
      obtain ⟨line, hline, rfl⟩ := List.mem_iff_getElem.mp hitem
      refine ⟨call.row accepted[line] line, ?_, by simp [ReserveCall.row]⟩
      exact List.mem_mapIdx.mpr ⟨line, hline, rfl⟩
  rw [Tx.violatesUniqueIndex, hown]
  by_cases hkey : call.idempotencyKey = .empty
  · simp [hkey]
  · simp [hkey, and_comm]

/-- An accepted line becomes a row and lowers its balance. -/
theorem Progress.accept {db : InventoryDb} {call : ReserveCall}
    {done accepted : List ReserveItem} {loop : ReserveLoop}
    (hprogress : Progress db call done accepted loop) {item : ReserveItem}
    {available : ℤ} (hquantity : 0 < item.quantity)
    (hproduct : loop.tx.available? db item.productId = some available)
    (henough : item.quantity ≤ available)
    (hindex : loop.tx.violatesUniqueIndex db call.idempotencyKey
      item.productId = false) :
    Progress db call (done ++ [item]) (accepted ++ [item])
      { tx := (loop.tx.write item.productId
          (available - item.quantity)).insert
            (call.row item loop.tx.inserted.length)
        outcomes := loop.outcomes ++ [⟨item.productId, true, ""⟩]
        allOk := loop.allOk } := by
  obtain ⟨committed, hcommitted, hbalance⟩ :
      ∃ committed, db.available? item.productId = some committed ∧
        committed - requested accepted item.productId = available := by
    simpa [hprogress.balance] using hproduct
  refine
    { sublist := hprogress.sublist.append (List.Sublist.refl [item])
      positive := ?_
      inserted := ?_
      released := hprogress.released
      balance := ?_
      covered := ?_
      written := ?_
      allOk := ?_
      index := ?_ }
  · simpa [or_imp, forall_and, hquantity] using hprogress.positive
  · simp [Tx.insert, Tx.write, hprogress.inserted, call.rows_concat]
  · intro productId
    rw [Tx.available?_insert, Tx.available?_write, requested_concat]
    by_cases hsame : productId = item.productId
    · subst hsame
      simp only [if_true, hcommitted, Option.map_some]
      rw [← hbalance, Int.sub_sub]
    · rw [if_neg hsame, if_neg (Ne.symm hsame), add_zero]
      exact hprogress.balance productId
  · intro other hother
    rw [requested_concat]
    by_cases hsame : item.productId = other.productId
    · rw [if_pos hsame, ← hsame]
      exact ⟨committed, hcommitted, by linarith⟩
    · rw [if_neg hsame, add_zero]
      rcases List.mem_append.mp hother with hearlier | hnow
      · exact hprogress.covered other hearlier
      · rw [List.mem_singleton] at hnow
        exact absurd (congrArg ReserveItem.productId hnow).symm hsame
  · intro productId hwritten
    by_cases hsame : productId = item.productId
    · exact ⟨item, by simp, hsame.symm⟩
    · have hearlier : loop.tx.writes productId ≠ none := by
        simpa [Tx.insert, Tx.write, hsame] using hwritten
      obtain ⟨other, hother, hproductId⟩ :=
        hprogress.written productId hearlier
      exact ⟨other, List.mem_append_left _ hother, hproductId⟩
  · rw [hprogress.allOk]
    exact ⟨fun hall => hall ▸ rfl, fun hall => List.append_cancel_right hall⟩
  · intro hkey
    obtain ⟨hnodup, hactive⟩ := hprogress.index hkey
    obtain ⟨hfresh, hfree⟩ :=
      (hprogress.index_free item.productId).mp hindex hkey
    constructor
    · rw [List.map_append, List.nodup_append]
      refine ⟨hnodup, List.nodup_singleton _, ?_⟩
      intro productId hproductId other hother
      rw [List.map_singleton, List.mem_singleton] at hother
      rintro rfl
      exact hfresh (hother ▸ hproductId)
    · intro other hother
      rcases List.mem_append.mp hother with hearlier | hnow
      · exact hactive other hearlier
      · rw [List.mem_singleton] at hnow
        exact hnow ▸ hfree

/-- One iteration keeps `Progress`. -/
theorem Progress.line {db : InventoryDb} {call : ReserveCall}
    {done accepted : List ReserveItem} {loop next : ReserveLoop}
    (hprogress : Progress db call done accepted loop) {item : ReserveItem}
    (hline : reserveLine db call loop item = .ok next) :
    ∃ accepted', Progress db call (done ++ [item]) accepted' next := by
  have hcase := reserveLine_case db call loop item
  rw [hline] at hcase
  cases hcase with
  | nonPositive hquantity => exact ⟨accepted, hprogress.reject item _⟩
  | notFound hquantity hproduct => exact ⟨accepted, hprogress.reject item _⟩
  | insufficient available hquantity hproduct hshort =>
      exact ⟨accepted, hprogress.reject item _⟩
  | reserved available hquantity hproduct henough hindex =>
      exact ⟨accepted ++ [item],
        hprogress.accept hquantity hproduct henough hindex⟩

/-- The whole loop keeps `Progress`. -/
theorem Progress.run {db : InventoryDb} {call : ReserveCall}
    {done accepted items : List ReserveItem} {loop final : ReserveLoop}
    (hprogress : Progress db call done accepted loop)
    (hrun : reserveLoop db call loop items = .ok final) :
    ∃ accepted', Progress db call (done ++ items) accepted' final := by
  induction items generalizing done accepted loop with
  | nil =>
      rw [reserveLoop_nil, Except.ok.injEq] at hrun
      subst hrun
      exact ⟨accepted, by simpa using hprogress⟩
  | cons item items ih =>
      rw [reserveLoop_cons] at hrun
      cases hline : reserveLine db call loop item with
      | error error =>
          rw [hline] at hrun
          exact absurd hrun (by simp [Except.bind])
      | ok next =>
          rw [hline] at hrun
          obtain ⟨accepted', hnext⟩ := hprogress.line hline
          simpa using ih hnext hrun

theorem reserveLoop_progress {db : InventoryDb} {call : ReserveCall}
    {items : List ReserveItem} {loop : ReserveLoop}
    (hrun : reserveLoop db call .start items = .ok loop) :
    ∃ accepted, Progress db call items accepted loop :=
  (Progress.start db call).run hrun

/-! ## Feasibility -/

theorem requested_perm {first second : List ReserveItem}
    (hperm : first.Perm second) (productId : ℤ) :
    requested first productId = requested second productId :=
  groupedSum.perm hperm productId

theorem Feasible.perm {db : InventoryDb} {first second : List ReserveItem}
    (hperm : first.Perm second) (hfeasible : Feasible db first) :
    Feasible db second := by
  intro item hitem
  obtain ⟨hquantity, available, havailable, hcovered⟩ :=
    hfeasible item (hperm.mem_iff.mpr hitem)
  exact ⟨hquantity, available, havailable,
    requested_perm hperm item.productId ▸ hcovered⟩

theorem feasible_sortedItems_iff (db : InventoryDb)
    (items : List ReserveItem) :
    Feasible db (sortedItems items) ↔ Feasible db items :=
  ⟨Feasible.perm (perm_sortedItems items),
    Feasible.perm (perm_sortedItems items).symm⟩

/-- When every line went through, the request was feasible. -/
theorem Progress.feasible {db : InventoryDb} {call : ReserveCall}
    {done accepted : List ReserveItem} {loop : ReserveLoop}
    (hprogress : Progress db call done accepted loop)
    (hallOk : loop.allOk = true) : Feasible db done := by
  have hall : accepted = done := hprogress.allOk.mp hallOk
  subst hall
  intro item hitem
  exact ⟨hprogress.positive item hitem, hprogress.covered item hitem⟩

/-- The index cannot reject a line of these items. -/
def IndexFree (db : InventoryDb) (key : CharField128)
    (items : List ReserveItem) : Prop :=
  key ≠ .empty → (items.map ReserveItem.productId).Nodup ∧
    ∀ item ∈ items, db.hasActive key item.productId = false

/-- The next line of a feasible request that the index does not reject is
accepted. -/
theorem Progress.line_of_feasible {db : InventoryDb} {call : ReserveCall}
    {done items : List ReserveItem} {item : ReserveItem} {loop : ReserveLoop}
    (hprogress : Progress db call done done loop)
    (hfeasible : Feasible db (done ++ item :: items))
    (hindex : IndexFree db call.idempotencyKey (done ++ item :: items)) :
    ∃ next, reserveLine db call loop item = .ok next ∧
      Progress db call (done ++ [item]) (done ++ [item]) next := by
  obtain ⟨hpositive, committed, hcommitted, hcovered⟩ :=
    hfeasible item (by simp)
  have hread : loop.tx.available? db item.productId =
      some (committed - requested done item.productId) := by
    rw [hprogress.balance, hcommitted, Option.map_some]
  have henough :
      item.quantity ≤ committed - requested done item.productId := by
    have hrest : 0 ≤ requested items item.productId :=
      groupedSum.nonneg (fun other hother =>
        (hfeasible other (by simp [hother])).1.le) _
    rw [requested, groupedSum.append, groupedSum.cons, if_pos rfl]
      at hcovered
    rw [requested] at hrest ⊢
    linarith
  have hfree : loop.tx.violatesUniqueIndex db call.idempotencyKey
      item.productId = false := by
    rw [hprogress.index_free]
    intro hkey
    obtain ⟨hnodup, hactive⟩ := hindex hkey
    refine ⟨?_, hactive item (by simp)⟩
    rw [List.map_append, List.nodup_append] at hnodup
    intro hearlier
    exact hnodup.2.2 _ hearlier item.productId (by simp) rfl
  have hcase := reserveLine_case db call loop item
  revert hcase
  cases reserveLine db call loop item with
  | ok next =>
      intro hcase
      refine ⟨next, rfl, ?_⟩
      cases hcase with
      | nonPositive hquantity => omega
      | notFound hquantity hproduct =>
          exact absurd (hread.symm.trans hproduct) (by simp)
      | insufficient available hquantity hproduct hshort =>
          have hsame := Option.some.inj (hread.symm.trans hproduct)
          omega
      | reserved available hquantity hproduct hcover hline =>
          exact hprogress.accept hquantity hproduct hcover hline
  | error error =>
      intro hcase
      cases hcase with
      | duplicate available hquantity hproduct hcover hline =>
          exact absurd (hfree.symm.trans hline) Bool.false_ne_true

/-- A feasible request that the index does not reject goes through. -/
theorem Progress.run_of_feasible {db : InventoryDb} {call : ReserveCall}
    {done items : List ReserveItem} {loop : ReserveLoop}
    (hprogress : Progress db call done done loop)
    (hfeasible : Feasible db (done ++ items))
    (hindex : IndexFree db call.idempotencyKey (done ++ items)) :
    ∃ final, reserveLoop db call loop items = .ok final ∧
      final.allOk = true := by
  induction items generalizing done loop with
  | nil => exact ⟨loop, rfl, hprogress.allOk.mpr rfl⟩
  | cons item items ih =>
      obtain ⟨next, hline, hnext⟩ :=
        hprogress.line_of_feasible hfeasible hindex
      rw [reserveLoop_cons, hline]
      exact ih hnext (by simpa using hfeasible) (by simpa using hindex)

end OrderFlow.Inventory
