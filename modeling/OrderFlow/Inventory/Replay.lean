import OrderFlow.Inventory.IdempotencyKey

/-!
# What a success answer is worth

`reserve_stock` answers success either because it has just reserved the
request, or because the key has active rows, whatever these are rows of.  The
two are the same only when the request repeats what is active under its key.
-/

namespace OrderFlow.Inventory

open OrderFlow.TransitionSystem
open OrderFlow.Inventory.Refinement

/-! ## Reachable tables -/

/-- Active rows of a key never share a product, and no row is empty. -/
structure ActiveRows (db : InventoryDb) : Prop where
  products_nodup : ∀ key, key ≠ .empty →
    ((db.activeForKey key).map StockReservation.productId).Nodup
  positive : ∀ row ∈ db.reservations, 0 < row.quantity

theorem ActiveRows.reserve {db : InventoryDb} {call : ReserveCall}
    {loop : ReserveLoop} (hrows : ActiveRows db)
    (hprogress : Progress db call (sortedItems call.items)
      (sortedItems call.items) loop) : ActiveRows (db.commit loop.tx) where
  products_nodup key hkey := by
    by_cases hsame : call.idempotencyKey = key
    · subst hsame
      obtain ⟨hnodup, hfree⟩ := hprogress.index hkey
      rw [hprogress.activeForKey, List.map_append, call.map_productId_rows,
        List.nodup_append]
      refine ⟨hrows.products_nodup _ hkey, hnodup, ?_⟩
      rintro productId hold _ hnew rfl
      obtain ⟨row, hrow, hproduct⟩ := List.mem_map.mp hold
      obtain ⟨item, hitem, rfl⟩ := List.mem_map.mp hnew
      have hactive := hasActive_of_mem hrow
      rw [hproduct, hfree item hitem] at hactive
      exact Bool.false_ne_true hactive
    · rw [hprogress.activeForKey_other hsame]
      exact hrows.products_nodup key hkey
  positive row hrow := by
    rw [hprogress.reservations_commit, List.mem_append] at hrow
    rcases hrow with hold | hnew
    · exact hrows.positive row hold
    · obtain ⟨item, hitem, line, rfl⟩ := ReserveCall.mem_rows hnew
      exact hprogress.positive item hitem

theorem ActiveRows.release {db : InventoryDb} (hrows : ActiveRows db)
    (rows : List StockReservation) : ActiveRows (releaseBody db rows).1 where
  products_nodup key hkey := by
    rw [activeForKey_releaseBody]
    exact (hrows.products_nodup key hkey).sublist
      (List.filter_sublist.map _)
  positive row hrow := by
    rw [reservations_releaseBody] at hrow
    obtain ⟨before, hbefore, rfl⟩ := List.mem_map.mp hrow
    rw [Tx.applyToRow_quantity]
    exact hrows.positive before hbefore

theorem ActiveRows.step {serial next : Serial.State} {action : Serial.Action}
    (hrows : ActiveRows serial.db)
    (hstep : Serial.step serial action = some next) :
    ActiveRows next.db := by
  rcases Serial.step_db hstep with
    hsame | ⟨call, loop, hprogress, hcommit⟩ | ⟨rows, hreleased⟩
  · exact hsame ▸ hrows
  · exact hcommit ▸ hrows.reserve hprogress
  · exact hreleased ▸ hrows.release rows

end OrderFlow.Inventory
