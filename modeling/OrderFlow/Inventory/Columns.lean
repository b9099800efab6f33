import OrderFlow.Inventory.Breakdown
import OrderFlow.Inventory.History

/-!
# The service on the columns of PostgreSQL

`reserve_stock` and `release_stock` of `inventory_app/services.py` take any
texts, and their statements fail where a column does not take a value: a
`CharField(max_length=128)` is a `varchar(128)`, and a `PositiveIntegerField`
is an `integer`.  What is raised then is a `DataError`, which the services do
not catch.
-/

namespace OrderFlow.Inventory

/-! ## Columns -/

/-- U+0000, which no PostgreSQL text holds. -/
def nul : Char := Char.ofNat 0

def hasNul (text : String) : Bool := text.toList.contains nul

/-- What a `varchar(128)` column stores for a text: the text, or, when only
spaces stand after its first 128 characters, these.  Anything else is
refused. -/
def CharField128.column? (text : String) : Option CharField128 :=
  if hasNul text then none
  else if hlength : text.length ≤ 128 then some ⟨text, hlength⟩
  else if (text.toList.drop 128).all (· = ' ') then
    some ⟨String.ofList (text.toList.take 128), by simp⟩
  else none

/-- The column stores the text as it is. -/
def FitsColumn (text : String) : Prop := hasNul text = false ∧ text.length ≤ 128

instance (text : String) : Decidable (FitsColumn text) :=
  inferInstanceAs (Decidable (_ ∧ _))

/-- The largest value of an `integer` column. -/
def integerMax : ℤ := 2 ^ 31 - 1

theorem column?_of_fits {text : String} (hfits : FitsColumn text) :
    CharField128.column? text = some ⟨text, hfits.2⟩ := by
  rw [CharField128.column?, if_neg (by simp [hfits.1]), dif_pos hfits.2]

theorem column?_of_nul {text : String} (hnul : hasNul text = true) :
    CharField128.column? text = none := if_pos hnul

/-- A text that is stored as it is fits. -/
theorem fits_of_column? {text : String} {stored : CharField128}
    (hstored : CharField128.column? text = some stored)
    (hsame : stored.val = text) : FitsColumn text := by
  refine ⟨?_, hsame ▸ stored.property⟩
  by_contra hnul
  rw [column?_of_nul (Bool.eq_true_of_not_eq_false hnul)] at hstored
  cases hstored

theorem column?_empty : CharField128.column? "" = some .empty := by decide

/-! ## `reserve_stock` -/

/-- What the statements of the service raise, and the subscripts of its
caller. -/
inductive PythonError where
  | integrityError
  | dataError
  | indexError
  deriving DecidableEq

/-- The arguments of `reserve_stock`, and the clock its INSERTs will read. -/
structure ReserveArguments where
  orderRef : String
  items : List ReserveItem
  idempotencyKey : String
  clock : ℕ → ℕ

namespace ReserveArguments

/-- The call with the texts that its rows will hold. -/
def stored? (arguments : ReserveArguments) (db : InventoryDb) :
    Option ReserveCall :=
  (CharField128.column? arguments.orderRef).bind fun orderRef =>
    (CharField128.column? arguments.idempotencyKey).map fun idempotencyKey =>
      { number := db.nextCall
        clock := arguments.clock
        orderRef := orderRef
        items := arguments.items
        idempotencyKey := idempotencyKey }

/-- Both texts are stored as they are. -/
def Fit (arguments : ReserveArguments) : Prop :=
  FitsColumn arguments.orderRef ∧ FitsColumn arguments.idempotencyKey

instance (arguments : ReserveArguments) : Decidable arguments.Fit :=
  inferInstanceAs (Decidable (_ ∧ _))

/-- The call that arguments which fit become. -/
def Fit.call {arguments : ReserveArguments} (hfit : arguments.Fit)
    (db : InventoryDb) : ReserveCall where
  number := db.nextCall
  clock := arguments.clock
  orderRef := ⟨arguments.orderRef, hfit.1.2⟩
  items := arguments.items
  idempotencyKey := ⟨arguments.idempotencyKey, hfit.2.2⟩

theorem Fit.stored? {arguments : ReserveArguments} (hfit : arguments.Fit)
    (db : InventoryDb) : arguments.stored? db = some (hfit.call db) := by
  rw [ReserveArguments.stored?, column?_of_fits hfit.1,
    column?_of_fits hfit.2]
  rfl

end ReserveArguments

namespace InventoryDb

/-- `StockReservation.objects.filter(idempotency_key=key, status=RESERVED)`. -/
def activeForText (db : InventoryDb) (key : String) : List StockReservation :=
  db.reservations.filter fun row =>
    row.idempotencyKey.val = key ∧ row.status = .reserved

/-- `StockReservation.objects.filter(order_ref=orderRef, status=RESERVED)`. -/
def reservedForText (db : InventoryDb) (orderRef : String) :
    List StockReservation :=
  db.reservations.filter fun row =>
    row.orderRef.val = orderRef ∧ row.status = .reserved

end InventoryDb

/-- The active rows of a key under `Meta.ordering = ["-created_at"]`. -/
def priorRows (db : InventoryDb) (key : String) : List StockReservation :=
  (db.activeForText key).insertionSort fun first second =>
    second.createdAt ≤ first.createdAt

/-- The replay check.  Its query is refused for a key with U+0000; a key that
is merely too long finds nothing. -/
def replayOnColumns (db : InventoryDb) (key : String) :
    Except PythonError (Option ReservationOutcome) :=
  if key = "" then .ok none
  else if hasNul key then .error .dataError
  else match priorRows db key with
    | [] => .ok none
    | prior => .ok (some ⟨true, prior.map fun row => ⟨row.productId, true, ""⟩⟩)

/-- `StockReservation.objects.create(...)`: the texts are checked against their
columns before the row reaches the partial unique index. -/
def ReserveLoop.createOnColumns (loop : ReserveLoop) (db : InventoryDb)
    (arguments : ReserveArguments) (item : ReserveItem) :
    Except PythonError ReserveLoop :=
  match arguments.stored? db with
  | none => .error .dataError
  | some call => match loop.createReservation db call item with
      | .ok next => .ok next
      | .error .integrityError => .error .integrityError

/-- One iteration of the loop.  The numbers need no check: a line that gets as
far as the INSERT asks for no more than the product column holds. -/
def reserveLineOnColumns (db : InventoryDb) (arguments : ReserveArguments)
    (loop : ReserveLoop) (item : ReserveItem) :
    Except PythonError ReserveLoop :=
  if item.quantity ≤ 0 then
    .ok (loop.reject item "quantity must be positive")
  else match loop.tx.available? db item.productId with
    | none => .ok (loop.reject item "product not found")
    | some available =>
        if available < item.quantity then
          .ok (loop.reject item
            (ReserveLoop.insufficientStock item.quantity available))
        else
          (loop.saveProduct item available).createOnColumns db arguments item

def reserveLoopOnColumns (db : InventoryDb) (arguments : ReserveArguments) :
    ReserveLoop → List ReserveItem → Except PythonError ReserveLoop
  | loop, [] => .ok loop
  | loop, item :: items =>
      match reserveLineOnColumns db arguments loop item with
      | .error error => .error error
      | .ok next => reserveLoopOnColumns db arguments next items

/-- The transaction.  An `IntegrityError` is caught outside it and answered; a
`DataError` goes on to the caller.  Either way it is rolled back. -/
def reserveBodyOnColumns (db : InventoryDb) (arguments : ReserveArguments) :
    InventoryDb × Except PythonError ReservationOutcome :=
  match reserveLoopOnColumns db arguments .start
      (sortedItems arguments.items) with
  | .error .integrityError => (db, .ok ⟨false, (sortedItems arguments.items).map
      fun item => ⟨item.productId, false, "duplicate reservation in progress"⟩⟩)
  | .error error => (db, .error error)
  | .ok loop => ((loop.finish db).1, .ok (loop.finish db).2)

def reserveStockOnColumns (db : InventoryDb) (arguments : ReserveArguments) :
    InventoryDb × Except PythonError ReservationOutcome :=
  if arguments.items = [] then (db, .ok ⟨false, []⟩)
  else match replayOnColumns db arguments.idempotencyKey with
    | .error error => (db, .error error)
    | .ok (some outcome) => (db, .ok outcome)
    | .ok none => reserveBodyOnColumns db arguments

/-! ## `release_stock` -/

/-- `.update(available_quantity=F("available_quantity") + quantity)`. -/
def addBackOnColumns (db : InventoryDb) (tx : Tx) (row : StockReservation) :
    Except PythonError Tx :=
  match tx.available? db row.productId with
  | none => .ok tx
  | some available =>
      if integerMax < available + row.quantity then .error .dataError
      else .ok (tx.write row.productId (available + row.quantity))

def releaseLoopOnColumns (db : InventoryDb) :
    Tx → List StockReservation → Except PythonError Tx
  | tx, [] => .ok tx
  | tx, row :: rows =>
      match addBackOnColumns db tx row with
      | .error error => .error error
      | .ok next => releaseLoopOnColumns db (next.release row.id) rows

def releaseStockOnColumns (db : InventoryDb) (orderRef : String) :
    InventoryDb × Except PythonError ReleaseOutcome :=
  if hasNul orderRef then (db, .error .dataError)
  else
    let rows := orderByProductId (db.reservedForText orderRef)
    match releaseLoopOnColumns db .start rows with
    | .error error => (db, .error error)
    | .ok tx => (db.commit tx, .ok ⟨decide (rows ≠ []), rows.length⟩)

/-! ## Texts that the columns store -/

section Stored

variable {db : InventoryDb} {arguments : ReserveArguments} {call : ReserveCall}

theorem stored?_items (hstored : arguments.stored? db = some call) :
    call.items = arguments.items := by
  obtain ⟨orderRef, _, hcall⟩ := Option.bind_eq_some_iff.mp hstored
  obtain ⟨key, _, rfl⟩ := Option.map_eq_some_iff.mp hcall
  rfl

theorem stored?_number (hstored : arguments.stored? db = some call) :
    call.number = db.nextCall := by
  obtain ⟨orderRef, _, hcall⟩ := Option.bind_eq_some_iff.mp hstored
  obtain ⟨key, _, rfl⟩ := Option.map_eq_some_iff.mp hcall
  rfl

theorem stored?_texts (hstored : arguments.stored? db = some call) :
    CharField128.column? arguments.orderRef = some call.orderRef ∧
      CharField128.column? arguments.idempotencyKey =
        some call.idempotencyKey := by
  obtain ⟨orderRef, horder, hcall⟩ := Option.bind_eq_some_iff.mp hstored
  obtain ⟨key, hkey, rfl⟩ := Option.map_eq_some_iff.mp hcall
  exact ⟨horder, hkey⟩

/-- An `IntegrityError` as an exception of Python. -/
def raised {Value : Type*} : Except DbError Value → Except PythonError Value
  | .ok value => .ok value
  | .error .integrityError => .error .integrityError

theorem reserveLine_stored (hstored : arguments.stored? db = some call)
    (loop : ReserveLoop) (item : ReserveItem) :
    reserveLineOnColumns db arguments loop item =
      raised (reserveLine db call loop item) := by
  rw [reserveLineOnColumns, reserveLine]
  by_cases hquantity : item.quantity ≤ 0
  · rw [if_pos hquantity, if_pos hquantity]
    rfl
  rw [if_neg hquantity, if_neg hquantity]
  cases loop.tx.available? db item.productId with
  | none => rfl
  | some available =>
      by_cases hshort : available < item.quantity
      · simp only [if_pos hshort]
        rfl
      simp only [if_neg hshort, ReserveLoop.createOnColumns, hstored]
      cases (loop.saveProduct item available).createReservation db call item
        with
      | ok next => rfl
      | error error =>
          cases error
          rfl

theorem reserveLoop_stored (hstored : arguments.stored? db = some call)
    (loop : ReserveLoop) (items : List ReserveItem) :
    reserveLoopOnColumns db arguments loop items =
      raised (reserveLoop db call loop items) := by
  induction items generalizing loop with
  | nil => rfl
  | cons item items ih =>
      rw [reserveLoopOnColumns, reserveLoop, reserveLine_stored hstored]
      cases reserveLine db call loop item with
      | ok next => exact ih next
      | error error =>
          cases error
          rfl

theorem reserveBody_stored (hstored : arguments.stored? db = some call) :
    reserveBodyOnColumns db arguments =
      ((reserveBody db call).1, .ok (reserveBody db call).2) := by
  rw [reserveBodyOnColumns, reserveBody, reserveLoop_stored hstored,
    duplicateOutcome, stored?_items hstored]
  cases reserveLoop db call .start (sortedItems arguments.items) with
  | ok loop => rfl
  | error error =>
      cases error
      rfl

/-! ## Texts that a column refuses -/

/-- A line that would be reserved fails; any other is answered as ever. -/
theorem reserveLine_refused (hrefused : arguments.stored? db = none)
    (loop : ReserveLoop) (item : ReserveItem) :
    reserveLineOnColumns db arguments loop item =
      if (verdict (loop.tx.available? db item.productId) item).reserved then
        .error .dataError
      else .ok
        { loop with
          outcomes := loop.outcomes ++
            [verdict (loop.tx.available? db item.productId) item]
          allOk := false } := by
  unfold reserveLineOnColumns verdict
  by_cases hquantity : item.quantity ≤ 0
  · rw [if_pos hquantity, if_pos hquantity]
    rfl
  rw [if_neg hquantity, if_neg hquantity]
  cases loop.tx.available? db item.productId with
  | none => rfl
  | some available =>
      by_cases hshort : available < item.quantity
      · simp only [if_pos hshort]
        rfl
      · simp only [if_neg hshort, ReserveLoop.createOnColumns, hrefused,
          if_true]

/-- No line is granted. -/
theorem reserveLoop_refused (hrefused : arguments.stored? db = none)
    {loop final : ReserveLoop} {items : List ReserveItem}
    (hrun : reserveLoopOnColumns db arguments loop items = .ok final)
    (hallOk : final.allOk = true) : items = [] := by
  induction items generalizing loop with
  | nil => rfl
  | cons item items ih =>
      rw [reserveLoopOnColumns, reserveLine_refused hrefused] at hrun
      split at hrun
      case h_1 => cases hrun
      case h_2 next hline =>
          obtain rfl := ih hrun
          obtain rfl := Except.ok.inj hrun
          split_ifs at hline
          obtain rfl := Except.ok.inj hline
          exact absurd hallOk Bool.false_ne_true

end Stored

end OrderFlow.Inventory
