import Mathlib.Data.List.Basic
import Mathlib.Algebra.BigOperators.Group.List.Basic
import Mathlib.Algebra.Order.BigOperators.Group.List
import Mathlib.Algebra.Order.Monoid.Defs

/-!
# Sums over a list grouped by a key

`groupedSum key weight items k` is `SELECT sum(weight) ... WHERE key = k`: the
total weight of the items whose key is `k`.
-/

namespace OrderFlow

variable {Item Key Weight : Type*} [DecidableEq Key] [AddCommMonoid Weight]

/-- Total weight of the items with the given key. -/
def groupedSum (key : Item → Key) (weight : Item → Weight)
    (items : List Item) (selected : Key) : Weight :=
  ((items.filter fun item => key item = selected).map weight).sum

namespace groupedSum

variable (key : Item → Key) (weight : Item → Weight)

@[simp]
theorem nil (selected : Key) : groupedSum key weight [] selected = 0 := rfl

theorem cons (item : Item) (items : List Item) (selected : Key) :
    groupedSum key weight (item :: items) selected =
      (if key item = selected then weight item else 0) +
        groupedSum key weight items selected := by
  by_cases hkey : key item = selected <;> simp [groupedSum, hkey]

@[simp]
theorem append (first second : List Item) (selected : Key) :
    groupedSum key weight (first ++ second) selected =
      groupedSum key weight first selected +
        groupedSum key weight second selected := by
  simp [groupedSum]

variable {key weight}

theorem perm {first second : List Item} (hperm : first.Perm second)
    (selected : Key) :
    groupedSum key weight first selected =
      groupedSum key weight second selected :=
  ((hperm.filter _).map _).sum_eq

/-- A sum over images is a sum over the items they are of. -/
theorem map {Source : Type*} (image : Source → Item) (sources : List Source)
    (selected : Key) :
    groupedSum key weight (sources.map image) selected =
      groupedSum (key ∘ image) (weight ∘ image) sources selected := by
  rw [groupedSum, groupedSum, List.filter_map, List.map_map]
  rfl

/-- No item has the key. -/
theorem eq_zero_of_forall_ne {items : List Item} {selected : Key}
    (hne : ∀ item ∈ items, key item ≠ selected) :
    groupedSum key weight items selected = 0 := by
  have hempty : (items.filter fun item => key item = selected) = [] := by
    simpa using hne
  simp [groupedSum, hempty]

/-- When keys do not repeat, a sum is the weight of its one item. -/
theorem eq_of_nodup_keys {items : List Item} (hkeys : (items.map key).Nodup)
    {item : Item} (hitem : item ∈ items) :
    groupedSum key weight items (key item) = weight item := by
  induction items with
  | nil => exact absurd hitem List.not_mem_nil
  | cons head tail ih =>
      rw [List.map_cons, List.nodup_cons] at hkeys
      rw [cons]
      rcases List.mem_cons.mp hitem with hhead | htail
      · subst hhead
        have hrest : groupedSum key weight tail (key item) = 0 :=
          eq_zero_of_forall_ne fun other hother hsame =>
            hkeys.1 (List.mem_map.mpr ⟨other, hother, hsame⟩)
        rw [if_pos rfl, hrest, add_zero]
      · have hne : key head ≠ key item := fun hsame =>
          hkeys.1 (hsame ▸ List.mem_map_of_mem htail)
        rw [if_neg hne, ih hkeys.2 htail, zero_add]

/-- Splitting a list by a predicate splits every grouped sum. -/
theorem filter_add_filter_not (keep : Item → Bool) (items : List Item)
    (selected : Key) :
    groupedSum key weight (items.filter keep) selected +
        groupedSum key weight (items.filter fun item => !keep item) selected =
      groupedSum key weight items selected := by
  rw [← append]
  exact perm (List.filter_append_perm keep items) selected

section Ordered

variable [PartialOrder Weight] [IsOrderedAddMonoid Weight]

theorem nonneg {items : List Item} (hitems : ∀ item ∈ items, 0 ≤ weight item)
    (selected : Key) : 0 ≤ groupedSum key weight items selected := by
  apply List.sum_nonneg
  intro value hvalue
  obtain ⟨item, hitem, rfl⟩ := List.mem_map.mp hvalue
  exact hitems item (List.mem_of_mem_filter hitem)

/-- Dropping items of nonnegative weight raises no total. -/
theorem le_of_sublist {first second : List Item}
    (hsublist : first.Sublist second)
    (hitems : ∀ item ∈ second, 0 ≤ weight item) (selected : Key) :
    groupedSum key weight first selected ≤
      groupedSum key weight second selected := by
  apply ((hsublist.filter _).map _).sum_le_sum
  intro value hvalue
  obtain ⟨item, hitem, rfl⟩ := List.mem_map.mp hvalue
  exact hitems item (List.mem_of_mem_filter hitem)

end Ordered

end groupedSum

end OrderFlow
