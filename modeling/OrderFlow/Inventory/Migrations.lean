import Mathlib.Data.List.Find
import OrderFlow.Inventory.LiveWatch

/-!
# The seed migration

`0002_seed_products.py`: `seed_products` inserts the sample products that are
not there yet, and `unseed_products` deletes them again.  A reservation
protects its product, so that the deletion fails once one of them has been
reserved, and a release does not change that.
-/

namespace OrderFlow.Inventory

/-! ## The migration -/

/-- inventory-db with the sequence that product ids are drawn from. -/
structure Catalog where
  db : InventoryDb
  nextId : ℤ

/-- An entry of `SEED_PRODUCTS`. -/
structure SeedRow where
  sku : String
  name : String
  quantity : ℤ
  deriving DecidableEq

def seedRows : List SeedRow :=
  [⟨"SKU-WIDGET", "Standard Widget", 100⟩,
    ⟨"SKU-GADGET", "Premium Gadget", 50⟩, ⟨"SKU-GIZMO", "Limited Gizmo", 10⟩]

def SeedRow.product (row : SeedRow) (id : ℤ) : Product :=
  ⟨id, row.sku, row.name, row.quantity⟩

def Catalog.Has (catalog : Catalog) (sku : String) : Prop :=
  ∃ product ∈ catalog.db.products, product.sku = sku

instance (catalog : Catalog) (sku : String) : Decidable (catalog.Has sku) :=
  inferInstanceAs (Decidable (∃ product ∈ catalog.db.products, _))

/-- `Product.objects.get_or_create(sku=..., defaults=...)`. -/
def Catalog.getOrCreate (catalog : Catalog) (row : SeedRow) : Catalog :=
  if catalog.Has row.sku then catalog
  else
    { db :=
        { catalog.db with
          products := catalog.db.products ++ [row.product catalog.nextId] }
      nextId := catalog.nextId + 1 }

def seedProducts (catalog : Catalog) : Catalog :=
  seedRows.foldl Catalog.getOrCreate catalog

inductive DeletionError where
  | protectedError
  deriving DecidableEq

/-- A seeded product has a reservation, of whatever status. -/
def Catalog.Referenced (catalog : Catalog) : Prop :=
  ∃ row ∈ catalog.db.reservations, ∃ product ∈ catalog.db.products,
    product.id = row.productId ∧ product.sku ∈ seedRows.map SeedRow.sku

instance (catalog : Catalog) : Decidable catalog.Referenced :=
  inferInstanceAs (Decidable (∃ row ∈ catalog.db.reservations,
    ∃ product ∈ catalog.db.products, _))

/-- `Product.objects.filter(sku__in=[...]).delete()`. -/
def unseedProducts (catalog : Catalog) : Except DeletionError Catalog :=
  if catalog.Referenced then .error .protectedError
  else .ok { catalog with
    db :=
      { catalog.db with
        products := catalog.db.products.filter fun product =>
          product.sku ∉ seedRows.map SeedRow.sku } }

/-! ## Seeding -/

/-- What the tables promise the service layer, with the uniqueness of SKUs and
the foreign key. -/
structure Catalog.Sound (catalog : Catalog) : Prop where
  wellFormed : catalog.db.WellFormed
  ids : (catalog.db.products.map Product.id).Nodup
  /-- the sequence is ahead of the table -/
  drawn : ∀ product ∈ catalog.db.products, product.id < catalog.nextId
  skus : (catalog.db.products.map Product.sku).Nodup
  references : ∀ row ∈ catalog.db.reservations,
    row.productId ∈ catalog.db.products.map Product.id

/-- What seeding does to a catalog: it appends some of the rows. -/
structure Catalog.Extended (rows : List SeedRow) (before after : Catalog) :
    Prop where
  products : ∃ added, after.db.products = before.db.products ++ added ∧
    ∀ product ∈ added, ¬ before.Has product.sku ∧
      ∃ row ∈ rows, product = row.product product.id
  reservations : after.db.reservations = before.db.reservations

section Seeding

variable {catalog : Catalog} {row : SeedRow} {rows : List SeedRow}

theorem Catalog.getOrCreate_of_has (hhas : catalog.Has row.sku) :
    catalog.getOrCreate row = catalog := if_pos hhas

theorem Catalog.getOrCreate_has (catalog : Catalog) (row : SeedRow) :
    (catalog.getOrCreate row).Has row.sku := by
  rw [getOrCreate]
  split_ifs with hhas
  · exact hhas
  · exact ⟨row.product catalog.nextId, List.mem_append_right _ (by simp), rfl⟩

theorem Catalog.getOrCreate_mono {sku : String} (hhas : catalog.Has sku) :
    (catalog.getOrCreate row).Has sku := by
  obtain ⟨product, hproduct, hsku⟩ := hhas
  rw [getOrCreate]
  split_ifs
  · exact ⟨product, hproduct, hsku⟩
  · exact ⟨product, List.mem_append_left _ hproduct, hsku⟩

theorem Catalog.Sound.getOrCreate (hsound : catalog.Sound)
    (hquantity : 0 ≤ row.quantity) : (catalog.getOrCreate row).Sound := by
  rw [Catalog.getOrCreate]
  split_ifs with hhas
  · exact hsound
  have hfresh : ∀ product ∈ catalog.db.products,
      product.id ≠ catalog.nextId := fun product hproduct =>
    (hsound.drawn product hproduct).ne
  refine ⟨⟨hsound.wellFormed.ids_nodup, ?_, hsound.wellFormed.quantity_nonneg⟩,
    ?_, ?_, ?_, ?_⟩
  · intro productId available havailable
    obtain ⟨product, hproduct, rfl⟩ :=
      InventoryDb.exists_product_of_available? havailable
    rcases List.mem_append.mp hproduct with hold | hnew
    · exact hsound.wellFormed.available_nonneg product.id _
        (InventoryDb.available?_of_mem hsound.ids hold)
    · rw [List.mem_singleton.mp hnew]
      exact hquantity
  · rw [List.map_append, List.nodup_append]
    refine ⟨hsound.ids, List.nodup_singleton _, ?_⟩
    rintro id hid other hother rfl
    obtain ⟨product, hproduct, rfl⟩ := List.mem_map.mp hid
    exact hfresh product hproduct (List.mem_singleton.mp hother)
  · intro product hproduct
    rcases List.mem_append.mp hproduct with hold | hnew
    · exact (hsound.drawn product hold).trans (lt_add_one _)
    · rw [List.mem_singleton.mp hnew]
      exact lt_add_one _
  · rw [List.map_append, List.nodup_append]
    refine ⟨hsound.skus, List.nodup_singleton _, ?_⟩
    rintro sku hsku other hother rfl
    obtain ⟨product, hproduct, rfl⟩ := List.mem_map.mp hsku
    exact hhas ⟨product, hproduct, List.mem_singleton.mp hother⟩
  · intro reservation hreservation
    rw [List.map_append]
    exact List.mem_append_left _ (hsound.references reservation hreservation)

theorem Catalog.Sound.foldl (hsound : catalog.Sound)
    (hquantities : ∀ row ∈ rows, 0 ≤ row.quantity) :
    (rows.foldl Catalog.getOrCreate catalog).Sound := by
  induction rows generalizing catalog with
  | nil => exact hsound
  | cons row rows ih =>
      rw [List.forall_mem_cons] at hquantities
      exact ih (hsound.getOrCreate hquantities.1) hquantities.2

theorem foldl_mono {sku : String} (hhas : catalog.Has sku) :
    (rows.foldl Catalog.getOrCreate catalog).Has sku := by
  induction rows generalizing catalog with
  | nil => exact hhas
  | cons row rows ih => exact ih (Catalog.getOrCreate_mono hhas)

theorem foldl_has (hrow : row ∈ rows) :
    (rows.foldl Catalog.getOrCreate catalog).Has row.sku := by
  induction rows generalizing catalog with
  | nil => exact absurd hrow List.not_mem_nil
  | cons first rows ih =>
      rcases List.mem_cons.mp hrow with rfl | hlater
      · exact @foldl_mono (catalog.getOrCreate row) rows _
          (catalog.getOrCreate_has row)
      · exact ih hlater

/-- Where all rows are, nothing is inserted. -/
theorem foldl_of_has (hhas : ∀ row ∈ rows, catalog.Has row.sku) :
    rows.foldl Catalog.getOrCreate catalog = catalog := by
  induction rows with
  | nil => rfl
  | cons row rows ih =>
      rw [List.forall_mem_cons] at hhas
      rw [List.foldl_cons, Catalog.getOrCreate_of_has hhas.1]
      exact ih hhas.2

theorem foldl_extended (catalog : Catalog) (rows : List SeedRow) :
    Catalog.Extended rows catalog
      (rows.foldl Catalog.getOrCreate catalog) := by
  induction rows generalizing catalog with
  | nil =>
      exact ⟨⟨[], (List.append_nil _).symm, fun _ hadded =>
        absurd hadded List.not_mem_nil⟩, rfl⟩
  | cons row rows ih =>
      obtain ⟨⟨added, hproducts, hadded⟩, hreservations⟩ :=
        ih (catalog.getOrCreate row)
      by_cases hhas : catalog.Has row.sku
      · rw [Catalog.getOrCreate_of_has hhas] at hproducts hadded hreservations
        rw [List.foldl_cons, Catalog.getOrCreate_of_has hhas]
        refine ⟨⟨added, hproducts, fun product hproduct => ?_⟩, hreservations⟩
        obtain ⟨hfresh, other, hother, hsame⟩ := hadded product hproduct
        exact ⟨hfresh, other, List.mem_cons_of_mem row hother, hsame⟩
      · have hinserted : (catalog.getOrCreate row).db.products =
            catalog.db.products ++ [row.product catalog.nextId] := by
          rw [Catalog.getOrCreate, if_neg hhas]
        have hkept : (catalog.getOrCreate row).db.reservations =
            catalog.db.reservations := by
          rw [Catalog.getOrCreate, if_neg hhas]
        refine ⟨⟨row.product catalog.nextId :: added, ?_, ?_⟩,
          hreservations.trans hkept⟩
        · rw [List.foldl_cons, hproducts, hinserted, List.append_assoc]
          rfl
        · rw [List.forall_mem_cons]
          refine ⟨⟨hhas, row, List.mem_cons_self, rfl⟩,
            fun product hproduct => ?_⟩
          obtain ⟨hfresh, other, hother, hsame⟩ := hadded product hproduct
          exact ⟨fun hbefore => hfresh (Catalog.getOrCreate_mono hbefore),
            other, List.mem_cons_of_mem row hother, hsame⟩

end Seeding

/-- Seeding a catalog, whatever is in it: what is there stays as it is, the
samples that are missing are added, and seeding again does nothing. -/
theorem seed_products_safe {catalog : Catalog} (hsound : catalog.Sound) :
    (seedProducts catalog).Sound ∧
      seedProducts (seedProducts catalog) = seedProducts catalog ∧
      catalog.Extended seedRows (seedProducts catalog) ∧
        ∀ row ∈ seedRows, (seedProducts catalog).Has row.sku :=
  ⟨hsound.foldl (by decide), foldl_of_has fun _ hrow => foldl_has hrow,
    foldl_extended catalog seedRows, fun _ hrow => foldl_has hrow⟩

/-- A catalog with a widget of its own, one of which is reserved. -/
def stockedCatalog : Catalog where
  db :=
    { products := [⟨7, "SKU-WIDGET", "Blue Widget", 4⟩]
      reservations := [⟨⟨0, 0⟩, 7, .ofText "order-1", .empty, 1, .reserved, 0⟩] }
  nextId := 8

theorem seed_products_safe_stocked :
    seedProducts (seedProducts stockedCatalog) = seedProducts stockedCatalog ∧
      (seedProducts stockedCatalog).db.products =
        [⟨7, "SKU-WIDGET", "Blue Widget", 4⟩,
          ⟨8, "SKU-GADGET", "Premium Gadget", 50⟩,
          ⟨9, "SKU-GIZMO", "Limited Gizmo", 10⟩] := by
  have hsound : stockedCatalog.Sound := by
    refine ⟨⟨by decide, fun productId available havailable => ?_, by decide⟩,
      by decide, by decide, by decide, by decide⟩
    obtain ⟨product, hproduct, rfl⟩ :=
      InventoryDb.exists_product_of_available? havailable
    rw [List.mem_singleton.mp hproduct]
    decide
  exact ⟨(seed_products_safe hsound).2.1, by decide⟩

/-! ## Unseeding -/

section Unseeding

variable {catalog : Catalog} {db : InventoryDb}

/-- The catalog after some calls. -/
def Catalog.afterCalls (catalog : Catalog) (calls : List ServiceCall) :
    Catalog :=
  { catalog with db := runCalls catalog.db calls }

/-- What no call changes of a product. -/
def Product.label (product : Product) : ℤ × String × String :=
  (product.id, product.sku, product.name)

/-- Calls change quantities and statuses, and delete no row. -/
structure Grown (before after : InventoryDb) : Prop where
  products : after.products.map Product.label =
    before.products.map Product.label
  reservations : before.reservations.map StockReservation.productId <+:
    after.reservations.map StockReservation.productId

theorem Grown.trans {first second third : InventoryDb}
    (hfirst : Grown first second) (hsecond : Grown second third) :
    Grown first third :=
  ⟨hsecond.products.trans hfirst.products,
    hfirst.reservations.trans hsecond.reservations⟩

theorem grown_commit (db : InventoryDb) (tx : Tx) : Grown db (db.commit tx) where
  products := by
    rw [InventoryDb.commit, List.map_map]
    rfl
  reservations := by
    rw [InventoryDb.commit, List.map_append, List.map_map]
    have hsame : StockReservation.productId ∘ tx.applyToRow =
        StockReservation.productId := funext tx.applyToRow_productId
    rw [hsame]
    exact List.prefix_append _ _

theorem ServiceCall.grown (db : InventoryDb) (call : ServiceCall) :
    Grown db (call.apply db) := by
  cases call with
  | release orderRef => exact grown_commit db _
  | reserve request clock =>
      rcases reserveStock_cases db (request.toCall db clock) with
        hsame | ⟨_, _, loop, _, hcommit⟩
      · have hdb : (ServiceCall.reserve request clock).apply db = db := hsame
        rw [hdb]
        exact ⟨rfl, List.prefix_refl _⟩
      · have hdb : (ServiceCall.reserve request clock).apply db =
            db.commit loop.tx := hcommit
        rw [hdb]
        exact grown_commit db loop.tx

theorem runCalls_grown (db : InventoryDb) (calls : List ServiceCall) :
    Grown db (runCalls db calls) := by
  induction calls generalizing db with
  | nil => exact ⟨rfl, List.prefix_refl _⟩
  | cons call calls ih => exact (call.grown db).trans (ih _)

/-- A reservation is there for good. -/
theorem Catalog.Referenced.mono {after : Catalog}
    (hreferenced : catalog.Referenced) (hgrown : Grown catalog.db after.db) :
    after.Referenced := by
  obtain ⟨row, hrow, product, hproduct, hid, hsku⟩ := hreferenced
  have hrowId : row.productId ∈
      after.db.reservations.map StockReservation.productId :=
    hgrown.reservations.subset (List.mem_map_of_mem hrow)
  have hlabel : product.label ∈ after.db.products.map Product.label :=
    hgrown.products ▸ List.mem_map_of_mem hproduct
  obtain ⟨laterRow, hlaterRow, hsameId⟩ := List.mem_map.mp hrowId
  obtain ⟨later, hlater, hsame⟩ := List.mem_map.mp hlabel
  simp only [Product.label, Prod.mk.injEq] at hsame
  refine ⟨laterRow, hlaterRow, later, hlater, ?_, hsame.2.1 ▸ hsku⟩
  rw [hsame.1, hid, hsameId]

end Unseeding

/-! ## The tables without the samples -/

/-- The product is one of the samples. -/
def Product.Sample (product : Product) : Prop :=
  product.sku ∈ seedRows.map SeedRow.sku

def InventoryDb.withoutSamples (db : InventoryDb) : InventoryDb :=
  { db with
    products := db.products.filter fun product =>
      product.sku ∉ seedRows.map SeedRow.sku }

section WithoutSamples

variable {catalog : Catalog} {db : InventoryDb} {productId : ℤ}

theorem available?_withoutSamples_of_other
    (hother : ∀ product ∈ db.products, product.id = productId →
      ¬ product.Sample) :
    db.withoutSamples.available? productId = db.available? productId := by
  have hfind : db.withoutSamples.product? productId =
      db.product? productId := by
    rw [InventoryDb.product?, InventoryDb.withoutSamples, List.find?_filter,
      InventoryDb.product?]
    refine List.find?_congr fun product hproduct => ?_
    rw [Bool.eq_iff_iff]
    simpa [Product.Sample] using hother product hproduct
  rw [InventoryDb.available?, hfind, InventoryDb.available?]

/-- A sample is not found there. -/
theorem available?_withoutSamples_of_sample
    (hids : (db.products.map Product.id).Nodup) {product : Product}
    (hproduct : product ∈ db.products) (hsample : product.Sample) :
    db.withoutSamples.available? product.id = none := by
  have hfind : db.withoutSamples.product? product.id = none := by
    refine List.find?_eq_none.mpr fun other hother hid => ?_
    obtain ⟨hmem, hkept⟩ := List.mem_filter.mp hother
    have hsame : other = product :=
      List.inj_on_of_nodup_map hids hmem hproduct (of_decide_eq_true hid)
    exact of_decide_eq_true hkept (hsame ▸ hsample)
  rw [InventoryDb.available?, hfind]
  rfl

theorem withoutSamples_commit (db : InventoryDb) (tx : Tx) :
    (db.commit tx).withoutSamples = db.withoutSamples.commit tx := by
  have hproducts : (db.products.map tx.applyToProduct).filter (fun product =>
      product.sku ∉ seedRows.map SeedRow.sku) =
      (db.products.filter fun product =>
        product.sku ∉ seedRows.map SeedRow.sku).map tx.applyToProduct := by
    rw [List.filter_map]
    rfl
  exact congrArg (fun products => InventoryDb.mk products _) hproducts

/-- The loop of a request that names no sample. -/
theorem reserveLoop_withoutSamples {call : ReserveCall}
    {items : List ReserveItem}
    (hothers : ∀ item ∈ items, ∀ product ∈ db.products,
      product.id = item.productId → ¬ product.Sample) (loop : ReserveLoop) :
    reserveLoop db.withoutSamples call loop items =
      reserveLoop db call loop items := by
  induction items generalizing loop with
  | nil => rfl
  | cons item items ih =>
      rw [List.forall_mem_cons] at hothers
      rw [reserveLoop_cons, reserveLoop_cons, Refinement.reserveLine_congr
        (fun _ => available?_withoutSamples_of_other hothers.1) fun _ _ => rfl]
      congr 1
      funext next
      exact ih hothers.2 next

theorem releaseLoop_withoutSamples {rows : List StockReservation}
    (hothers : ∀ row ∈ rows, ∀ product ∈ db.products,
      product.id = row.productId → ¬ product.Sample) (tx : Tx) :
    releaseLoop db.withoutSamples tx rows = releaseLoop db tx rows := by
  induction rows generalizing tx with
  | nil => rfl
  | cons row rows ih =>
      rw [List.forall_mem_cons] at hothers
      have hline : releaseLine db.withoutSamples tx row =
          releaseLine db tx row := by
        rw [releaseLine, releaseLine, Refinement.addBack_congr
          (available?_withoutSamples_of_other hothers.1)]
      exact (congrArg (fun next => releaseLoop db.withoutSamples next rows)
        hline).trans (ih hothers.2 _)

theorem reserveBody_withoutSamples {call : ReserveCall}
    (hothers : ∀ item ∈ call.items, ∀ product ∈ db.products,
      product.id = item.productId → ¬ product.Sample) :
    (reserveBody db.withoutSamples call).1 =
      (reserveBody db call).1.withoutSamples := by
  rw [reserveBody, reserveBody, reserveLoop_withoutSamples fun item hitem =>
    hothers item ((perm_sortedItems _).subset hitem)]
  cases reserveLoop db call .start (sortedItems call.items) with
  | error error => rfl
  | ok loop =>
      cases hallOk : loop.allOk with
      | false => simp [ReserveLoop.finish, hallOk]
      | true =>
          simp only [ReserveLoop.finish, hallOk, if_true]
          exact (withoutSamples_commit db loop.tx).symm

/-- A request that names a sample changes nothing, with it or without it. -/
theorem reserveStock_withoutSamples (hids : (db.products.map Product.id).Nodup)
    {call : ReserveCall}
    (hfree : ∀ row ∈ (reserveStock db call).1.reservations,
      ∀ product ∈ db.products, product.id = row.productId →
        ¬ product.Sample) :
    (reserveStock db.withoutSamples call).1 =
      (reserveStock db call).1.withoutSamples := by
  by_cases hothers : ∀ item ∈ call.items, ∀ product ∈ db.products,
      product.id = item.productId → ¬ product.Sample
  · rw [reserveStock, reserveStock]
    by_cases hitems : call.items = []
    · rw [if_pos hitems, if_pos hitems]
    rw [if_neg hitems, if_neg hitems]
    have hreplay : replay? db.withoutSamples call.idempotencyKey =
        replay? db call.idempotencyKey := rfl
    rw [hreplay]
    cases replay? db call.idempotencyKey with
    | some outcome => rfl
    | none => exact reserveBody_withoutSamples hothers
  push Not at hothers
  obtain ⟨item, hitem, product, hproduct, hid, hsample⟩ := hothers
  have hsorted : item ∈ sortedItems call.items :=
    (perm_sortedItems _).symm.subset hitem
  have hkept : (reserveStock db call).1 = db := by
    rcases reserveStock_cases db call with
      hsame | ⟨_, _, loop, hprogress, hcommit⟩
    · exact hsame
    · -- the row inserted for the line would refer to the sample
      rw [hcommit, hprogress.reservations_commit] at hfree
      have hline : item.productId ∈ (call.rows (sortedItems call.items)).map
          StockReservation.productId := by
        rw [call.map_productId_rows]
        exact List.mem_map_of_mem hsorted
      obtain ⟨row, hrow, hrowProduct⟩ := List.mem_map.mp hline
      exact absurd hsample (hfree row (List.mem_append_right _ hrow) product
        hproduct (hid.trans hrowProduct.symm))
  rw [hkept]
  rcases reserveStock_cases db.withoutSamples call with
    hsame | ⟨_, _, loop, hprogress, _⟩
  · exact hsame
  · obtain ⟨available, havailable, _⟩ := hprogress.covered item hsorted
    rw [← hid, available?_withoutSamples_of_sample hids hproduct hsample]
      at havailable
    exact absurd havailable (Option.some_ne_none available).symm

theorem releaseStock_withoutSamples {orderRef : CharField128}
    (hfree : ∀ row ∈ db.reservations, ∀ product ∈ db.products,
      product.id = row.productId → ¬ product.Sample) :
    (releaseStock db.withoutSamples orderRef).1 =
      (releaseStock db orderRef).1.withoutSamples := by
  have hloop := @releaseLoop_withoutSamples db
    (orderByProductId (db.reservedForOrder orderRef))
    (fun row hrow => hfree row (List.mem_of_mem_filter
      ((perm_orderByProductId _).subset hrow))) .start
  refine Eq.trans ?_ (withoutSamples_commit db _).symm
  exact congrArg db.withoutSamples.commit hloop

theorem Catalog.not_referenced_iff : ¬ catalog.Referenced ↔
    ∀ row ∈ catalog.db.reservations, ∀ product ∈ catalog.db.products,
      product.id = row.productId → ¬ product.Sample := by
  simp [Referenced, Product.Sample]

/-- A call that leaves the samples unreserved does the same without them. -/
theorem ServiceCall.apply_withoutSamples
    (hids : (db.products.map Product.id).Nodup) (call : ServiceCall)
    {nextId : ℤ} (hfree : ¬ Catalog.Referenced ⟨call.apply db, nextId⟩) :
    call.apply db.withoutSamples = (call.apply db).withoutSamples := by
  have hbefore : ¬ Catalog.Referenced ⟨db, nextId⟩ := fun hreferenced =>
    hfree (hreferenced.mono (call.grown db))
  rw [Catalog.not_referenced_iff] at hbefore
  cases call with
  | release orderRef => exact releaseStock_withoutSamples hbefore
  | reserve request clock =>
      refine reserveStock_withoutSamples hids fun row hrow product hproduct hid
        hsample => hfree ?_
      -- the product is still there, under its id and sku
      have hlabel : product.label ∈ ((ServiceCall.reserve request clock).apply
          db).products.map Product.label :=
        ((ServiceCall.reserve request clock).grown db).products ▸
          List.mem_map_of_mem hproduct
      obtain ⟨later, hlater, hsame⟩ := List.mem_map.mp hlabel
      simp only [Product.label, Prod.mk.injEq] at hsame
      exact ⟨row, hrow, later, hlater, hsame.1.trans hid,
        hsame.2.1 ▸ hsample⟩

theorem runCalls_withoutSamples (hids : (db.products.map Product.id).Nodup)
    {calls : List ServiceCall} {nextId : ℤ}
    (hfree : ¬ Catalog.Referenced ⟨runCalls db calls, nextId⟩) :
    runCalls db.withoutSamples calls = (runCalls db calls).withoutSamples := by
  induction calls generalizing db with
  | nil => rfl
  | cons call calls ih =>
      have hcall : ¬ Catalog.Referenced ⟨call.apply db, nextId⟩ :=
        fun hreferenced => hfree (hreferenced.mono
          (runCalls_grown (call.apply db) calls))
      have hsame : (call.apply db).products.map Product.id =
          db.products.map Product.id := by
        simpa [List.map_map, Function.comp_def, Product.label] using
          congrArg (List.map Prod.fst) (call.grown db).products
      have hrest := @ih (call.apply db) (hsame ▸ hids) hfree
      rw [← call.apply_withoutSamples hids hcall] at hrest
      exact hrest

/-- What seeding adds are samples. -/
theorem seedProducts_withoutSamples (catalog : Catalog) :
    (seedProducts catalog).db.withoutSamples = catalog.db.withoutSamples := by
  obtain ⟨⟨added, hproducts, hadded⟩, hreservations⟩ :=
    foldl_extended catalog seedRows
  have hnone : (added.filter fun product =>
      product.sku ∉ seedRows.map SeedRow.sku) = [] := by
    refine List.filter_eq_nil_iff.mpr fun product hproduct => ?_
    obtain ⟨_, row, hrow, hsame⟩ := hadded product hproduct
    have hsku : product.sku ∈ seedRows.map SeedRow.sku := by
      rw [hsame]
      exact List.mem_map_of_mem hrow
    simpa using hsku
  rw [seedProducts, InventoryDb.withoutSamples, InventoryDb.withoutSamples,
    hproducts, hreservations, List.filter_append, hnone, List.append_nil]

end WithoutSamples

/-- A catalog is seeded and serves some calls.  Once a sample is reserved,
unseeding fails, then and for good, releases or not; until then it leaves the
tables as the same calls would have left them without any sample. -/
theorem unseed_after_calls {catalog : Catalog} (hsound : catalog.Sound)
    (calls : List ServiceCall) :
    (((seedProducts catalog).afterCalls calls).Referenced → ∀ later,
      unseedProducts ((seedProducts catalog).afterCalls (calls ++ later)) =
        .error .protectedError) ∧
    (¬ ((seedProducts catalog).afterCalls calls).Referenced →
      unseedProducts ((seedProducts catalog).afterCalls calls) =
        .ok ⟨runCalls catalog.db.withoutSamples calls,
          (seedProducts catalog).nextId⟩) := by
  constructor
  · intro hreferenced later
    have hlater : ((seedProducts catalog).afterCalls (calls ++ later)).db =
        runCalls ((seedProducts catalog).afterCalls calls).db later :=
      List.foldl_append ..
    have hgrown := runCalls_grown
      ((seedProducts catalog).afterCalls calls).db later
    rw [← hlater] at hgrown
    exact if_pos (hreferenced.mono hgrown)
  · intro hfree
    have hids : ((seedProducts catalog).db.products.map Product.id).Nodup :=
      (@Catalog.Sound.foldl _ seedRows hsound (by decide)).ids
    have hrun := runCalls_withoutSamples hids hfree
    rw [seedProducts_withoutSamples] at hrun
    rw [hrun]
    exact if_neg hfree

/-- A catalog with a product of its own. -/
def toolCatalog : Catalog where
  db := { products := [⟨7, "SKU-TOOL", "Blue Tool", 4⟩], reservations := [] }
  nextId := 8

def toolCalls : List ServiceCall :=
  [.reserve ⟨.ofText "order-1", [⟨7, 3⟩], .empty⟩ id,
    .reserve ⟨.ofText "order-2", [⟨8, 1⟩, ⟨7, 2⟩], .empty⟩ id]

/-- A sample is reserved and released again, and can no longer be deleted; a
request for a sample and too many tools reserves neither. -/
theorem unseed_after_calls_tools :
    unseedProducts ((seedProducts toolCatalog).afterCalls
        ([.reserve ⟨.ofText "order-1", [⟨8, 2⟩], .empty⟩ id] ++
          [.release (.ofText "order-1")])) = .error .protectedError ∧
      unseedProducts ((seedProducts toolCatalog).afterCalls toolCalls) =
        .ok ⟨{ products := [⟨7, "SKU-TOOL", "Blue Tool", 1⟩]
               reservations := [⟨⟨1, 0⟩, 7, .ofText "order-1", .empty, 3,
                 .reserved, 0⟩] }, 11⟩ := by
  have hsound : toolCatalog.Sound := by
    refine ⟨⟨by decide, fun productId available havailable => ?_, by decide⟩,
      by decide, by decide, by decide, by decide⟩
    obtain ⟨product, hproduct, rfl⟩ :=
      InventoryDb.exists_product_of_available? havailable
    rw [List.mem_singleton.mp hproduct]
    decide
  refine ⟨(unseed_after_calls hsound _).1 (by decide) _, ?_⟩
  rw [(unseed_after_calls hsound toolCalls).2 (by decide)]
  rfl

end OrderFlow.Inventory
