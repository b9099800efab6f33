import OrderFlow.Inventory.Feasibility

/-!
# What each line is answered

Every iteration of the reserve loop appends one outcome, decided by the
quantity of the line and the stock the transaction reads for its product.  A
call that succeeds has granted every line, in product order.
-/

namespace OrderFlow.Inventory

/-- The outcome of a line that finds `available?` in stock. -/
def verdict (available? : Option ℤ) (item : ReserveItem) : ItemOutcome :=
  if item.quantity ≤ 0 then
    ⟨item.productId, false, "quantity must be positive"⟩
  else match available? with
    | none => ⟨item.productId, false, "product not found"⟩
    | some available =>
        if available < item.quantity then
          ⟨item.productId, false,
            ReserveLoop.insufficientStock item.quantity available⟩
        else ⟨item.productId, true, ""⟩

theorem head?_toList_append (first second third fourth : String)
    (hfirst : first.toList ≠ []) :
    (first ++ second ++ third ++ fourth).toList.head? =
      first.toList.head? := by
  have hsplit : (first ++ second ++ third ++ fourth).toList =
      first.toList ++ (second ++ third ++ fourth).toList := by
    simp only [String.toList_append, List.append_assoc]
  rw [hsplit, List.head?_append_of_ne_nil _ hfirst]

/-- A reason of shortage is told from any other text by its first letter. -/
theorem insufficientStock_ne {text : String}
    (htext : text.toList.head? ≠ some 'i') (quantity available : ℤ) :
    ReserveLoop.insufficientStock quantity available ≠ text := by
  rintro rfl
  have hhead := head?_toList_append "insufficient stock: requested "
    (toString quantity) ", available " (toString available) (by decide)
  exact htext (hhead.trans (by decide))

/-- The outcome of a line that was reserved. -/
def ReserveItem.granted (item : ReserveItem) : ItemOutcome :=
  ⟨item.productId, true, ""⟩

@[simp]
theorem verdict_productId (available? : Option ℤ) (item : ReserveItem) :
    (verdict available? item).productId = item.productId := by
  unfold verdict
  split_ifs
  · rfl
  split <;> try split_ifs
  all_goals rfl

theorem verdict_reserved_iff (available? : Option ℤ) (item : ReserveItem) :
    (verdict available? item).reserved = true ↔
      0 < item.quantity ∧
        ∃ available, available? = some available ∧
          item.quantity ≤ available := by
  unfold verdict
  split_ifs with hquantity
  · simpa using fun hpositive => absurd hpositive (not_lt.mpr hquantity)
  cases available? with
  | none => simp
  | some available =>
      rw [not_le] at hquantity
      by_cases hshort : available < item.quantity
      · simp [hshort]
      · simp [hshort, hquantity, not_lt.mp hshort]

/-- One iteration appends its verdict. -/
theorem reserveLine_verdict {db : InventoryDb} {call : ReserveCall}
    {loop next : ReserveLoop} {item : ReserveItem}
    (hline : reserveLine db call loop item = .ok next) :
    next.outcomes = loop.outcomes ++
        [verdict (loop.tx.available? db item.productId) item] ∧
      next.allOk = (loop.allOk &&
        (verdict (loop.tx.available? db item.productId) item).reserved) := by
  have hcase := reserveLine_case db call loop item
  rw [hline] at hcase
  cases hcase with
  | nonPositive hquantity =>
      simp [verdict, hquantity, ReserveLoop.reject]
  | notFound hquantity hproduct =>
      simp [verdict, not_le.mpr hquantity, hproduct, ReserveLoop.reject]
  | insufficient available hquantity hproduct hshort =>
      simp [verdict, not_le.mpr hquantity, hproduct, hshort,
        ReserveLoop.reject]
  | reserved available hquantity hproduct henough hindex =>
      simp [verdict, not_le.mpr hquantity, hproduct, not_lt.mpr henough]

end OrderFlow.Inventory
