import OrderFlow.Core.JsonRecord
import OrderFlow.Core.Lines
import OrderFlow.Inventory.LowStock
import OrderFlow.Orders.Service

/-!
# `GET /low-stock`

The rows of `WatchLowStock` go through the client and the edge one at a time
and leave as lines of JSON.  What reads them back is written down here too.
-/

namespace OrderFlow.Orders

open OrderFlow.Grpc
open OrderFlow.Inventory
open OrderFlow.Json

/-! ## The client and the edge -/

/-- `model_dump_json` leaves no space. -/
def compactStyle : Style where
  beforeColon := []
  afterColon := []
  afterComma := []
  beforeColon_space := rfl
  afterColon_space := rfl
  afterComma_space := rfl

/-- `ProductStockOut`. -/
def productStockOut (product : ProductStock) : List (String × Scalar) :=
  [("product_id", .int product.productId), ("sku", .string product.sku),
    ("name", .string product.name),
    ("available_quantity", .int product.availableQuantity)]

/-- The text of one product, without the newline. -/
def productText (product : ProductStock) : List Char :=
  renderRecord compactStyle (productStockOut product)

/-- `_to_line`. -/
def toLine (product : ProductStock) : ByteArray :=
  lineBytes (productText product)

/-- `InventoryClient.watch_low_stock`, when `stream` is what the stub makes of
the request. -/
def watchLowStock (threshold : ℤ) (stream : Messages ProductStock) :
    Except PyError (Messages ProductStock) :=
  if InInt32 threshold then .ok stream.reyield else .error .valueError

/-- `_ndjson` after the first message; an error only ends it. -/
def ndjsonRest : Messages ProductStock → List ByteArray
  | .done => []
  | .failed _ => []
  | .next product rest => toLine product :: ndjsonRest rest

/-- How `stream_low_stock` ends: its body is given by the chunks it yields. -/
inductive StreamExit where
  | body (chunks : List ByteArray)
  | http (exception : HttpException)
  | raised (error : PyError)

/-- `InventoryService.stream_low_stock`, which takes the first message off
before the response starts. -/
def streamLowStock (threshold : ℤ) (stream : Messages ProductStock) :
    StreamExit :=
  match watchLowStock threshold stream with
  | .error error => .raised error
  | .ok .done => .body []
  | .ok (.failed error) =>
      .http ⟨grpcToHttpStatus error.code,
        .text ("inventory unavailable: " ++ error.code.name)⟩
  | .ok (.next first rest) => .body (toLine first :: ndjsonRest rest)

/-- The request goes to the handler, and its stream comes back whole or cut
off. -/
def lowStock (table : ProductTable) (threshold : ℤ) (skuPrefix : String)
    (failure : Option (ℕ × RpcError)) : StreamExit :=
  streamLowStock threshold
    ((InventoryServicer.watchLowStock table threshold skuPrefix).deliver
      failure)

/-! ## A reader of the body -/

def char? (code : ℕ) : Option Char :=
  if Nat.isValidChar code then some (Char.ofNat code) else none

/-- A text without surrogates as a string. -/
def string? (text : Text) : Option String :=
  (text.mapM char?).map String.ofList

def productStock? : Value → Option ProductStock
  | .object members =>
      match lookup? members (.ofString "product_id"),
          lookup? members (.ofString "sku"),
          lookup? members (.ofString "name"),
          lookup? members (.ofString "available_quantity") with
      | some (.int productId), some (.string sku), some (.string name),
          some (.int availableQuantity) => do
          return ⟨productId, ← string? sku, ← string? name, availableQuantity⟩
      | _, _, _, _ => none
  | _ => none

/-- One line, read with room for `limit` levels of brackets. -/
def readLine? (limit : ℕ) (line : List Char) : Option ProductStock :=
  match loads limit line with
  | .ok value => productStock? value
  | .error _ => none

/-- A body of whole lines, each of them a product. -/
def readBody? (limit : ℕ) (body : ByteArray) : Option (List ProductStock) := do
  let text ← body.utf8Decode?
  let lines ← lines? text.toList
  lines.mapM (readLine? limit)

/-! ## What is read is what was sent -/

theorem char?_toNat (c : Char) : char? c.toNat = some c := by
  have hvalid : c.toNat.isValidChar := c.valid
  rw [char?, if_pos hvalid, Char.ofNat_toNat]

theorem string?_ofString (text : String) :
    string? (.ofString text) = some text := by
  have hchars : (Text.ofString text).mapM char? = some text.toList := by
    rw [Text.ofString]
    induction text.toList with
    | nil => rfl
    | cons c chars ih =>
        rw [List.map_cons, List.mapM_cons, ih, char?_toNat]
        rfl
  rw [string?, hchars, Option.map_some, String.ofList_toList]

theorem productStock?_recordValue (product : ProductStock) :
    productStock? (recordValue (productStockOut product)) = some product := by
  have hkeys : (((productStockOut product).map fun member =>
      (Text.ofString member.1, member.2.toValue)).map Prod.fst).Nodup := by
    simp only [productStockOut, List.map_cons, List.map_nil]
    decide
  have hlookup : ∀ name scalar, (name, scalar) ∈ productStockOut product →
      lookup? ((productStockOut product).map fun member =>
        (Text.ofString member.1, member.2.toValue)) (.ofString name) =
          some scalar.toValue := fun name scalar hmember =>
    lookup?_of_mem hkeys (List.mem_map_of_mem hmember)
  rw [recordValue, productStock?,
    hlookup "product_id" (.int product.productId) (by simp [productStockOut]),
    hlookup "sku" (.string product.sku) (by simp [productStockOut]),
    hlookup "name" (.string product.name) (by simp [productStockOut]),
    hlookup "available_quantity" (.int product.availableQuantity)
      (by simp [productStockOut])]
  simp [Scalar.toValue, string?_ofString]

theorem readLine?_productText {limit : ℕ} {product : ProductStock}
    (hproduct : (Scalar.int product.productId).Short)
    (hquantity : (Scalar.int product.availableQuantity).Short) :
    readLine? (limit + 1) (productText product) = some product := by
  have hshort : ∀ member ∈ productStockOut product, member.2.Short := by
    simp only [productStockOut, List.forall_mem_cons]
    exact ⟨hproduct, trivial, trivial, hquantity, by simp⟩
  rw [readLine?, productText, loads_renderRecord compactStyle limit hshort]
  exact productStock?_recordValue product

theorem newline_not_mem_productText (product : ProductStock) :
    '\n' ∉ productText product :=
  newline_not_mem_renderRecord (by simp [compactStyle]) _

/-- The products of a body are the ones whose lines it has. -/
theorem readBody?_toLine {limit : ℕ} {products : List ProductStock}
    (hshort : ∀ product ∈ products, (Scalar.int product.productId).Short ∧
      (Scalar.int product.availableQuantity).Short) :
    readBody? (limit + 1) (joined (products.map toLine)) = some products := by
  have hlines : ∀ line ∈ products.map productText, '\n' ∉ line := by
    simp [newline_not_mem_productText]
  have hread : (products.map productText).mapM (readLine? (limit + 1)) =
      some products := by
    clear hlines
    induction products with
    | nil => rfl
    | cons product products ih =>
        rw [List.forall_mem_cons] at hshort
        rw [List.map_cons, List.mapM_cons, ih hshort.2,
          readLine?_productText hshort.1.1 hshort.1.2]
        rfl
  have hchunks : products.map toLine =
      (products.map productText).map lineBytes := by
    rw [List.map_map]
    rfl
  obtain ⟨text, htext, hsplit⟩ :=
    Option.bind_eq_some_iff.mp (lines_arrive hlines)
  rw [readBody?, hchunks, htext]
  exact (congrArg (Option.bind · _) hsplit).trans hread

/-! ## The rows that cross -/

/-- What the client of the edge gets for these rows. -/
structure Renders (limit : ℕ) (chunks : List ByteArray)
    (rows : List ProductStock) : Prop where
  /-- a chunk is a line and its newline -/
  whole : ∀ chunk ∈ chunks, ∃ line : List Char,
    '\n' ∉ line ∧ chunk = lineBytes line
  count : chunks.length = rows.length
  decoded : readBody? limit (joined chunks) = some rows

theorem renders_toLine {limit : ℕ} {products : List ProductStock}
    (hshort : ∀ product ∈ products, (Scalar.int product.productId).Short ∧
      (Scalar.int product.availableQuantity).Short) :
    Renders (limit + 1) (products.map toLine) products where
  whole := by
    intro chunk hchunk
    obtain ⟨product, _, rfl⟩ := List.mem_map.mp hchunk
    exact ⟨productText product, newline_not_mem_productText product, rfl⟩
  count := List.length_map _
  decoded := readBody?_toLine hshort

theorem ndjsonRest_eq (stream : Messages ProductStock) :
    ndjsonRest stream = stream.received.map toLine := by
  induction stream with
  | done => rfl
  | failed error => rfl
  | next product rest ih => rw [ndjsonRest, ih]; rfl

section Crossing

variable {table : ProductTable} {threshold : ℤ} {skuPrefix : String}

theorem short_of_lowStock {rows : List ProductStock}
    (hrows : LowStock table threshold skuPrefix rows) :
    ∀ row ∈ rows, (Scalar.int row.productId).Short ∧
      (Scalar.int row.availableQuantity).Short := by
  have hlarge : 2 ^ 64 < 10 ^ maxStrDigits := by
    exact (by norm_num : 2 ^ 64 < 10 ^ 20).trans_le
      (Nat.pow_le_pow_right (by decide) (by decide))
  intro row hrow
  obtain ⟨product, hproduct, _, _, rfl⟩ := (hrows.exact row).mp hrow
  have hid := table.id_range product hproduct
  have hquantity := table.quantity_range product hproduct
  have hsmallId : product.id.natAbs < 2 ^ 64 := by omega
  have hsmallQuantity : product.availableQuantity.natAbs < 2 ^ 64 := by omega
  exact ⟨hsmallId.trans hlarge, hsmallQuantity.trans hlarge⟩

/-- Without a failure, and with one behind the first message, the rows that
arrive are all in the body. -/
theorem streamLowStock_of_received (hthreshold : InInt32 threshold)
    {stream : Messages ProductStock}
    (hstream : ∀ error, stream ≠ .failed error) :
    streamLowStock threshold stream = .body (stream.received.map toLine) := by
  rw [streamLowStock, watchLowStock, if_pos hthreshold, Messages.reyield_eq]
  cases stream with
  | done => rfl
  | failed error => exact absurd rfl (hstream error)
  | next first rest =>
      exact congrArg (fun chunks => StreamExit.body (toLine first :: chunks))
        (ndjsonRest_eq rest)

theorem lowStock_eq (hthreshold : 0 ≤ threshold)
    (failure : Option (ℕ × RpcError)) :
    lowStock table threshold skuPrefix failure =
      streamLowStock threshold ((Messages.ofList
        ((Inventory.streamLowStock table threshold skuPrefix).map
          ProductStockRow.message)).deliver failure) := by
  rw [lowStock, InventoryServicer.watchLowStock_eq hthreshold]

end Crossing

/-- Whatever the table and wherever the call is cut off, the client gets a
status and no body, or the first of the matching rows as they are. -/
theorem lowStock_crosses (table : ProductTable) {threshold : ℤ}
    (hlow : 0 ≤ threshold) (hhigh : threshold < 2 ^ 31) (skuPrefix : String)
    (limit : ℕ) :
    ∃ rows, LowStock table threshold skuPrefix rows ∧
      (∀ error : RpcError,
        lowStock table threshold skuPrefix (some (0, error)) =
          .http ⟨grpcToHttpStatus error.code,
            .text ("inventory unavailable: " ++ error.code.name)⟩) ∧
      (∀ (position : ℕ) (error : RpcError), 0 < position →
        ∃ chunks, lowStock table threshold skuPrefix
            (some (position, error)) = .body chunks ∧
          Renders (limit + 1) chunks (rows.take position)) ∧
      ∃ chunks, lowStock table threshold skuPrefix none = .body chunks ∧
        Renders (limit + 1) chunks rows := by
  have hthreshold : InInt32 threshold := ⟨by omega, hhigh⟩
  have hrows := lowStock_stream table threshold skuPrefix
  have hshort := short_of_lowStock hrows
  refine ⟨_, hrows, fun error => ?_, fun position error hposition => ?_, ?_⟩
  · rw [lowStock_eq hlow, streamLowStock, watchLowStock, if_pos hthreshold,
      Messages.reyield_eq]
    rfl
  · obtain ⟨before, rfl⟩ := Nat.exists_eq_succ_of_ne_zero hposition.ne'
    have hreceived := Messages.received_interrupt error (before + 1)
      (.ofList ((Inventory.streamLowStock table threshold skuPrefix).map
        ProductStockRow.message))
    rw [Messages.received_ofList] at hreceived
    refine ⟨_, ?_, renders_toLine fun product hproduct =>
      hshort product (List.mem_of_mem_take hproduct)⟩
    rw [← hreceived, lowStock_eq hlow]
    refine streamLowStock_of_received hthreshold fun other => ?_
    exact Messages.interrupt_ofList_ne_failed error other before _
  · refine ⟨_, ?_, renders_toLine hshort⟩
    rw [lowStock_eq hlow, Messages.deliver, streamLowStock_of_received
      hthreshold (Messages.ofList_ne_failed _), Messages.received_ofList]

/-- A screw with a quote and a line break in its name, and a nut. -/
def screwTable : ProductTable where
  products := [⟨7, "SCREW", "5\" screw\n(long)", 3⟩, ⟨8, "NUT", "nut", 0⟩]
  id_range := by decide
  quantity_range := by decide
  skus_nodup := by decide

theorem lowStock_crosses_screws :
    ∃ rows, LowStock screwTable 5 "S" rows ∧
      (∀ error : RpcError, lowStock screwTable 5 "S" (some (0, error)) =
        .http ⟨grpcToHttpStatus error.code,
          .text ("inventory unavailable: " ++ error.code.name)⟩) ∧
      (∀ (position : ℕ) (error : RpcError), 0 < position →
        ∃ chunks, lowStock screwTable 5 "S" (some (position, error)) =
            .body chunks ∧
          Renders 1 chunks (rows.take position)) ∧
      ∃ chunks, lowStock screwTable 5 "S" none = .body chunks ∧
        Renders 1 chunks rows :=
  lowStock_crosses screwTable (by decide) (by decide) "S" 0

end OrderFlow.Orders
