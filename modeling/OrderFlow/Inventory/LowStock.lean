import OrderFlow.Core.ServerStream
import OrderFlow.Inventory.Watch

/-!
# `WatchLowStock`

The query of the service layer and the handler that streams its rows.
-/

namespace OrderFlow.Inventory

open OrderFlow.Grpc

/-- The committed rows of the product table.  PostgreSQL keeps the columns in
their ranges and the SKUs unique. -/
structure ProductTable where
  products : List Product
  id_range : ∀ product ∈ products, -2 ^ 63 ≤ product.id ∧ product.id < 2 ^ 63
  quantity_range : ∀ product ∈ products,
    0 ≤ product.availableQuantity ∧ product.availableQuantity < 2 ^ 31
  skus_nodup : (products.map Product.sku).Nodup

structure ProductStock where
  productId : ℤ
  sku : String
  name : String
  availableQuantity : ℤ
  deriving DecidableEq

/-- `sku__startswith`. -/
def Product.hasPrefix (product : Product) (skuPrefix : String) : Bool :=
  skuPrefix.toList.isPrefixOf product.sku.toList

/-- The filters of `stream_low_stock`. -/
def lowStockProducts (table : ProductTable) (threshold : ℤ)
    (skuPrefix : String) : List Product :=
  let products := table.products.filter fun product =>
    product.availableQuantity ≤ threshold
  if skuPrefix = "" then products
  else products.filter fun product => product.hasPrefix skuPrefix

/-- `stream_low_stock` of the service layer. -/
def streamLowStock (table : ProductTable) (threshold : ℤ)
    (skuPrefix : String) : List ProductStockRow :=
  ((lowStockProducts table threshold skuPrefix).insertionSort
    fun first second => first.sku ≤ second.sku).map Product.toRow

/-- The row fits the message. -/
def ProductStockRow.Encodable (row : ProductStockRow) : Prop :=
  (-2 ^ 63 ≤ row.productId ∧ row.productId < 2 ^ 63) ∧
    -2 ^ 31 ≤ row.availableQuantity ∧ row.availableQuantity < 2 ^ 31

instance (row : ProductStockRow) : Decidable row.Encodable :=
  inferInstanceAs (Decidable ((_ ∧ _) ∧ _ ∧ _))

def ProductStockRow.message (row : ProductStockRow) : ProductStock :=
  ⟨row.productId, row.sku, row.name, row.availableQuantity⟩

/-- The loop of the handler; an exception in it is answered `UNKNOWN`. -/
def yieldRows : List ProductStockRow → Messages ProductStock
  | [] => .done
  | row :: rows =>
      if row.Encodable then .next row.message (yieldRows rows)
      else .failed ⟨.unknown, "Exception iterating responses"⟩

/-- `InventoryServicer.WatchLowStock`. -/
def InventoryServicer.watchLowStock (table : ProductTable) (threshold : ℤ)
    (skuPrefix : String) : Messages ProductStock :=
  if threshold < 0 then
    .failed ⟨.invalidArgument, "threshold must be >= 0"⟩
  else yieldRows (streamLowStock table threshold skuPrefix)

/-! ## What it streams -/

/-- The products at or below the threshold whose SKU has the prefix, in SKU
order and each of them once. -/
structure LowStock (table : ProductTable) (threshold : ℤ) (skuPrefix : String)
    (rows : List ProductStock) : Prop where
  sorted : rows.Pairwise fun first second => first.sku < second.sku
  exact : ∀ row, row ∈ rows ↔
    ∃ product ∈ table.products, product.availableQuantity ≤ threshold ∧
      skuPrefix.toList <+: product.sku.toList ∧
      row = product.toRow.message

section Rows

variable {table : ProductTable} {threshold : ℤ} {skuPrefix : String}

theorem mem_lowStockProducts {product : Product} :
    product ∈ lowStockProducts table threshold skuPrefix ↔
      product ∈ table.products ∧ product.availableQuantity ≤ threshold ∧
        skuPrefix.toList <+: product.sku.toList := by
  rw [lowStockProducts]
  split_ifs with hempty
  · simp [hempty]
  · simp [Product.hasPrefix, and_comm]

theorem lowStockProducts_sublist :
    (lowStockProducts table threshold skuPrefix).Sublist table.products := by
  rw [lowStockProducts]
  split_ifs
  · exact List.filter_sublist
  · exact List.filter_sublist.trans List.filter_sublist

theorem mem_streamLowStock {row : ProductStockRow} :
    row ∈ streamLowStock table threshold skuPrefix ↔
      ∃ product ∈ table.products, product.availableQuantity ≤ threshold ∧
        skuPrefix.toList <+: product.sku.toList ∧ product.toRow = row := by
  simp [streamLowStock, mem_lowStockProducts, and_assoc]

/-- No two products have one SKU. -/
theorem streamLowStock_sorted :
    (streamLowStock table threshold skuPrefix).Pairwise
      fun first second => first.sku < second.sku := by
  have hsorted := List.pairwise_insertionSort
    (fun first second : Product => first.sku ≤ second.sku)
    (lowStockProducts table threshold skuPrefix)
  have hnodup : ((lowStockProducts table threshold skuPrefix).map
      Product.sku).Nodup :=
    (lowStockProducts_sublist.map Product.sku).nodup table.skus_nodup
  have hdistinct := List.pairwise_map.mp (((List.perm_insertionSort
    (fun first second : Product => first.sku ≤ second.sku) _).map
      Product.sku).nodup_iff.mpr hnodup)
  refine List.pairwise_map.mpr ?_
  exact (hsorted.and hdistinct).imp fun hboth => hboth.1.lt_of_ne hboth.2

theorem lowStock_stream (table : ProductTable) (threshold : ℤ)
    (skuPrefix : String) :
    LowStock table threshold skuPrefix
      ((streamLowStock table threshold skuPrefix).map
        ProductStockRow.message) where
  sorted := List.pairwise_map.mpr streamLowStock_sorted
  exact row := by
    rw [List.mem_map]
    constructor
    · rintro ⟨_, hrow, rfl⟩
      obtain ⟨product, hproduct, hlow, hprefix, rfl⟩ :=
        mem_streamLowStock.mp hrow
      exact ⟨product, hproduct, hlow, hprefix, rfl⟩
    · rintro ⟨product, hproduct, hlow, hprefix, rfl⟩
      exact ⟨product.toRow, mem_streamLowStock.mpr
        ⟨product, hproduct, hlow, hprefix, rfl⟩, rfl⟩

/-- Every row of the table fits its message. -/
theorem ProductTable.encodable (table : ProductTable) {product : Product}
    (hproduct : product ∈ table.products) : product.toRow.Encodable := by
  have hquantity := table.quantity_range product hproduct
  have hlow : -2 ^ 31 ≤ product.availableQuantity := by omega
  exact ⟨table.id_range product hproduct, hlow, hquantity.2⟩

theorem yieldRows_eq {rows : List ProductStockRow}
    (hrows : ∀ row ∈ rows, row.Encodable) :
    yieldRows rows = .ofList (rows.map ProductStockRow.message) := by
  induction rows with
  | nil => rfl
  | cons row rows ih =>
      rw [List.forall_mem_cons] at hrows
      rw [yieldRows, if_pos hrows.1, ih hrows.2]
      rfl

theorem InventoryServicer.watchLowStock_eq (hthreshold : 0 ≤ threshold) :
    watchLowStock table threshold skuPrefix =
      .ofList ((streamLowStock table threshold skuPrefix).map
        ProductStockRow.message) := by
  rw [watchLowStock, if_neg (not_lt.mpr hthreshold)]
  refine yieldRows_eq fun row hrow => ?_
  obtain ⟨product, hproduct, _, _, rfl⟩ := mem_streamLowStock.mp hrow
  exact table.encodable hproduct

end Rows

end OrderFlow.Inventory
