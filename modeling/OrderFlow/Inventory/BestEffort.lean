import OrderFlow.Inventory.BulkReserve
import OrderFlow.Inventory.ColumnReserve

/-!
# Best effort

`ReserveStockBulk` with the texts it is sent.  Where the columns store them it
answers every line of its stream in order, by what the lines before it have
left in stock, and the lines that were not reserved might as well not have been
sent.  A line that would be reserved under a text that the column refuses ends
the call instead.
-/

namespace OrderFlow.Inventory

/-! ## `ReserveStockBulk` -/

/-- A `BulkReserveItem`, with the clock its INSERT will read. -/
structure BulkMessage where
  orderRef : String
  productId : ℤ
  quantity : ℤ
  clock : ℕ → ℕ

/-- A `BulkItemOutcome`. -/
structure BulkAnswer where
  orderRef : String
  productId : ℤ
  reserved : Bool
  reason : String
  deriving DecidableEq

/-- A `BulkReserveSummary`. -/
structure BulkReport where
  total : ℕ
  reservedCount : ℕ
  failedCount : ℕ
  results : List BulkAnswer
  deriving DecidableEq

def BulkMessage.reserveItem (message : BulkMessage) : ReserveItem :=
  ⟨message.productId, message.quantity⟩

/-- The keyless one-line call made for a message. -/
def BulkMessage.arguments (message : BulkMessage) : ReserveArguments where
  orderRef := message.orderRef
  items := [message.reserveItem]
  idempotencyKey := ""
  clock := message.clock

/-- One iteration of the loop.  What `reserve_stock` raises is not caught. -/
def bulkLineOnColumns (db : InventoryDb) (message : BulkMessage) :
    InventoryDb × Except PythonError BulkAnswer :=
  if message.orderRef = "" then
    (db, .ok ⟨message.orderRef, message.productId, false,
      "order_ref is required"⟩)
  else match reserveStockOnColumns db message.arguments with
    | (after, .error error) => (after, .error error)
    | (after, .ok outcome) => match outcome.results with
        | [] => (after, .error .indexError)
        | result :: _ => (after, .ok ⟨message.orderRef, result.productId,
            result.reserved, result.reason⟩)

/-- The local variables `results` and `reserved_count`. -/
structure BulkProgress where
  results : List BulkAnswer
  reservedCount : ℕ

def BulkProgress.record (progress : BulkProgress) (answer : BulkAnswer) :
    BulkProgress where
  results := progress.results ++ [answer]
  reservedCount :=
    if answer.reserved then progress.reservedCount + 1
    else progress.reservedCount

def BulkProgress.report (progress : BulkProgress) : BulkReport where
  total := progress.results.length
  reservedCount := progress.reservedCount
  failedCount := progress.results.length - progress.reservedCount
  results := progress.results

def bulkLoopOnColumns (db : InventoryDb) (progress : BulkProgress) :
    List BulkMessage → InventoryDb × Except PythonError BulkProgress
  | [] => (db, .ok progress)
  | message :: messages => match bulkLineOnColumns db message with
      | (after, .error error) => (after, .error error)
      | (after, .ok answer) =>
          bulkLoopOnColumns after (progress.record answer) messages

/-- Without overlap with other calls.  An exception ends the call without a
summary, and leaves what the lines before it have reserved. -/
def reserveStockBulkOnColumns (messages : List BulkMessage)
    (db : InventoryDb) : InventoryDb × Except PythonError BulkReport :=
  match bulkLoopOnColumns db ⟨[], 0⟩ messages with
  | (after, .error error) => (after, .error error)
  | (after, .ok progress) => (after, .ok progress.report)

/-! ## The answers of a best effort -/

/-- A message against the stock left for it. -/
def BulkMessage.answer (message : BulkMessage) (left : ℤ → Option ℤ) :
    BulkAnswer :=
  if message.orderRef = "" then
    ⟨message.orderRef, message.productId, false, "order_ref is required"⟩
  else
    let verdict := verdict (left message.productId) message.reserveItem
    ⟨message.orderRef, message.productId, verdict.reserved, verdict.reason⟩

/-- The message names an order, and the stock left covers a positive
quantity. -/
def BulkMessage.Covered (message : BulkMessage) (left : ℤ → Option ℤ) : Prop :=
  message.orderRef ≠ "" ∧ 0 < message.quantity ∧
    ∃ available ∈ left message.productId, message.quantity ≤ available

instance (message : BulkMessage) (left : ℤ → Option ℤ) :
    Decidable (message.Covered left) :=
  inferInstanceAs (Decidable (_ ∧ _ ∧ ∃ available ∈ left message.productId, _))

theorem BulkMessage.answer_reserved_iff (message : BulkMessage)
    (left : ℤ → Option ℤ) :
    (message.answer left).reserved = true ↔ message.Covered left := by
  unfold answer Covered
  split_ifs with hempty
  · simp [hempty]
  · simpa [hempty, reserveItem] using
      verdict_reserved_iff (left message.productId) message.reserveItem

theorem BulkMessage.answer_reserved (message : BulkMessage)
    (left : ℤ → Option ℤ) :
    (message.answer left).reserved = decide (message.Covered left) := by
  rw [Bool.eq_iff_iff, answer_reserved_iff, decide_eq_true_iff]

/-- The stock that a message leaves. -/
def BulkMessage.leaves (message : BulkMessage) (left : ℤ → Option ℤ) :
    ℤ → Option ℤ :=
  if message.Covered left then fun productId =>
    if productId = message.productId then
      (left productId).map fun available => available - message.quantity
    else left productId
  else left

/-- The RESERVED row of a message, with the text that its column stores. -/
def BulkMessage.text? (message : BulkMessage) : Option RowText :=
  (CharField128.column? message.orderRef).map fun stored =>
    ⟨message.productId, message.quantity, stored.val, "", .reserved⟩

/-- Every message is answered by what the ones before it have left. -/
def bulkAnswers (left : ℤ → Option ℤ) : List BulkMessage → List BulkAnswer
  | [] => []
  | message :: messages =>
      message.answer left :: bulkAnswers (message.leaves left) messages

/-- The stock left in the end. -/
def bulkLeaves (left : ℤ → Option ℤ) : List BulkMessage → ℤ → Option ℤ
  | [] => left
  | message :: messages => bulkLeaves (message.leaves left) messages

/-- One row for every message that is reserved. -/
def bulkRows (left : ℤ → Option ℤ) : List BulkMessage → List RowText
  | [] => []
  | message :: messages =>
      (if message.Covered left then message.text?.toList else []) ++
        bulkRows (message.leaves left) messages

/-- No message whose text the column refuses finds its quantity in stock. -/
def Storable (left : ℤ → Option ℤ) : List BulkMessage → Prop
  | [] => True
  | message :: messages =>
      (message.Covered left →
        (CharField128.column? message.orderRef).isSome) ∧
      Storable (message.leaves left) messages

/-! ## One message -/

/-- The message as a line of the stream on stored texts. -/
def BulkMessage.streamed (message : BulkMessage) (stored : CharField128) :
    StreamedLine where
  item := ⟨stored, message.productId, message.quantity⟩
  clock := message.clock

/-- What one message does: it is answered and changes nothing, it is reserved,
or its text is refused. -/
inductive BulkCase (db : InventoryDb) (message : BulkMessage) :
    InventoryDb × Except PythonError BulkAnswer → Prop
  | failed (huncovered : ¬ message.Covered db.available?) :
      BulkCase db message (db, .ok (message.answer db.available?))
  | taken {stored : CharField128} {after : InventoryDb}
      (hstored : CharField128.column? message.orderRef = some stored)
      (hcovered : message.Covered db.available?)
      (htaken : TakenBy db (message.streamed stored) after) :
      BulkCase db message (after, .ok (message.answer db.available?))
  | refused (hrefused : CharField128.column? message.orderRef = none)
      (hcovered : message.Covered db.available?) :
      BulkCase db message (db, .error .dataError)

theorem column?_eq_empty_iff {text : String} :
    CharField128.column? text = some .empty ↔ text = "" := by
  constructor
  · intro hempty
    rw [CharField128.column?] at hempty
    split_ifs at hempty with hnul hlength hspaces
    · exact congrArg Subtype.val (Option.some.inj hempty)
    · -- a text that is cut leaves 128 characters
      have hcut : String.ofList (text.toList.take 128) = "" :=
        congrArg Subtype.val (Option.some.inj hempty)
      have hshort : (String.ofList (text.toList.take 128)).length = 0 := by
        rw [hcut]
        rfl
      rw [String.length_ofList, List.length_take, String.length_toList]
        at hshort
      omega
  · rintro rfl
    exact column?_empty

section Message

variable {db : InventoryDb} {message : BulkMessage}

/-- A message whose text is stored is a line of the stream on stored texts. -/
theorem reserveStockOnColumns_message {stored : CharField128}
    (hstored : CharField128.column? message.orderRef = some stored) :
    reserveStockOnColumns db message.arguments =
      (((message.streamed stored).item.request.submit db message.clock).1,
        .ok ((message.streamed stored).item.request.submit db
          message.clock).2) := by
  have hcall : message.arguments.stored? db =
      some ((message.streamed stored).item.request.toCall db message.clock) := by
    rw [ReserveArguments.stored?, BulkMessage.arguments, hstored]
    simp only [Option.bind_some, column?_empty]
    rfl
  have hbody : (message.streamed stored).item.request.submit db message.clock =
      reserveBody db ((message.streamed stored).item.request.toCall db
        message.clock) :=
    reserveStock_eq_body (List.cons_ne_nil _ _) fun hkey => absurd rfl hkey
  rw [hbody, ← reserveBody_stored hcall]
  exact reserveStockOnColumns_eq_body (List.cons_ne_nil _ _)
    (by decide : hasNul "" = false) fun hkey => absurd rfl hkey

/-- A refused text fails in the INSERT, and any line that does not get so far
is answered. -/
theorem reserveStockOnColumns_refused
    (hrefused : CharField128.column? message.orderRef = none) :
    reserveStockOnColumns db message.arguments =
      (db, if (verdict (db.available? message.productId)
          message.reserveItem).reserved then .error .dataError
        else .ok ⟨false, [verdict (db.available? message.productId)
          message.reserveItem]⟩) := by
  have hcall : message.arguments.stored? db = none := by
    rw [ReserveArguments.stored?, BulkMessage.arguments, hrefused]
    rfl
  have hloop : reserveLoopOnColumns db message.arguments .start
      (sortedItems message.arguments.items) =
      if (verdict (db.available? message.productId)
        message.reserveItem).reserved then .error .dataError
      else .ok { ReserveLoop.start with
        outcomes := [verdict (db.available? message.productId)
          message.reserveItem]
        allOk := false } := by
    change reserveLoopOnColumns db _ .start [message.reserveItem] = _
    rw [reserveLoopOnColumns, reserveLine_refused hcall]
    have hread : ReserveLoop.start.tx.available? db
        message.reserveItem.productId = db.available? message.productId :=
      Tx.available?_start _ _
    rw [hread]
    split_ifs <;> rfl
  rw [reserveStockOnColumns_eq_body (List.cons_ne_nil _ _)
    (by decide : hasNul "" = false) fun hkey => absurd rfl hkey,
    reserveBodyOnColumns, hloop]
  split_ifs <;> rfl

/-- Past the check of `order_ref`, a message is answered by its verdict. -/
theorem BulkMessage.answer_of_ne (hnonempty : message.orderRef ≠ "")
    (left : ℤ → Option ℤ) : message.answer left =
      ⟨message.orderRef, message.productId,
        (verdict (left message.productId) message.reserveItem).reserved,
        (verdict (left message.productId) message.reserveItem).reason⟩ := by
  rw [answer, if_neg hnonempty]

theorem bulkLineOnColumns_refused (hnonempty : message.orderRef ≠ "")
    (hrefused : CharField128.column? message.orderRef = none) :
    bulkLineOnColumns db message =
      (db, if (message.answer db.available?).reserved then .error .dataError
        else .ok (message.answer db.available?)) := by
  rw [bulkLineOnColumns, if_neg hnonempty,
    reserveStockOnColumns_refused hrefused,
    BulkMessage.answer_of_ne hnonempty]
  cases hreserved : (verdict (db.available? message.productId)
    message.reserveItem).reserved with
  | true => rfl
  | false =>
      simp only [Bool.false_eq_true, if_false, verdict_productId, hreserved]
      rfl

/-- A stored message does what its line does in the stream. -/
theorem bulkLineOnColumns_stored (hnonempty : message.orderRef ≠ "")
    {stored : CharField128}
    (hstored : CharField128.column? message.orderRef = some stored) :
    bulkLineOnColumns db message =
      ((bulkLine db (message.streamed stored)).1,
        .ok (message.answer db.available?)) ∧
      (bulkLine db (message.streamed stored)).2.reserved =
        (message.answer db.available?).reserved := by
  have horder : (message.streamed stored).item.orderRef ≠ .empty :=
    fun hempty => hnonempty (column?_eq_empty_iff.mp
      (hstored.trans (congrArg some hempty)))
  constructor
  · rw [bulkLineOnColumns, if_neg hnonempty,
      reserveStockOnColumns_message hstored, bulkLine, if_neg horder,
      BulkMessage.answer_of_ne hnonempty]
    simp only [BulkReserveItem.submit_answer, verdict_productId]
    rfl
  · rw [bulkLine_outcome, BulkReserveItem.outcome, if_neg horder,
      BulkMessage.answer_of_ne hnonempty]
    rfl

theorem bulkLineOnColumns_case (db : InventoryDb) (message : BulkMessage) :
    BulkCase db message (bulkLineOnColumns db message) := by
  by_cases hempty : message.orderRef = ""
  · have hanswer : bulkLineOnColumns db message =
        (db, .ok (message.answer db.available?)) := by
      rw [bulkLineOnColumns, if_pos hempty, BulkMessage.answer, if_pos hempty]
    rw [hanswer]
    exact .failed fun hcovered => hcovered.1 hempty
  have hreserved := message.answer_reserved db.available?
  cases hcolumn : CharField128.column? message.orderRef with
  | none =>
      rw [bulkLineOnColumns_refused hempty hcolumn, hreserved]
      by_cases hcovered : message.Covered db.available?
      · rw [if_pos (decide_eq_true hcovered)]
        exact .refused hcolumn hcovered
      · rw [if_neg (by simpa using hcovered)]
        exact .failed hcovered
  | some stored =>
      obtain ⟨hline, hsame⟩ := @bulkLineOnColumns_stored db _ hempty _ hcolumn
      rw [hreserved] at hsame
      rw [hline]
      by_cases hcovered : message.Covered db.available?
      · exact .taken hcolumn hcovered
          (bulkLine_reserved (hsame.trans (decide_eq_true hcovered)))
      · rw [bulkLine_failed (hsame.trans (decide_eq_false hcovered))]
        exact .failed hcovered

end Message

/-! ## A stream -/

/-- The tables after a stream, and its answers unless one of its lines ends the
call. -/
def runMessages (db : InventoryDb) :
    List BulkMessage → InventoryDb × Except PythonError (List BulkAnswer)
  | [] => (db, .ok [])
  | message :: messages => match bulkLineOnColumns db message with
      | (after, .error error) => (after, .error error)
      | (after, .ok answer) =>
          let rest := runMessages after messages
          (rest.1, rest.2.map fun answers => answer :: answers)

theorem bulkLoopOnColumns_eq (db : InventoryDb) (progress : BulkProgress)
    (messages : List BulkMessage) :
    bulkLoopOnColumns db progress messages =
      ((runMessages db messages).1, (runMessages db messages).2.map
        fun answers => ⟨progress.results ++ answers,
          progress.reservedCount + answers.countP BulkAnswer.reserved⟩) := by
  induction messages generalizing db progress with
  | nil => simp [bulkLoopOnColumns, runMessages, Except.map]
  | cons message messages ih =>
      rw [bulkLoopOnColumns, runMessages]
      rcases bulkLineOnColumns db message with ⟨after, _ | answer⟩
      · rfl
      simp only [ih]
      cases (runMessages after messages).2 with
      | error error => rfl
      | ok answers =>
          cases hreserved : answer.reserved <;>
            simp [Except.map, BulkProgress.record, hreserved, add_assoc,
              add_comm 1]

theorem reserveStockBulkOnColumns_eq (db : InventoryDb)
    (messages : List BulkMessage) :
    reserveStockBulkOnColumns messages db =
      ((runMessages db messages).1, (runMessages db messages).2.map
        fun answers => BulkProgress.report
          ⟨answers, answers.countP BulkAnswer.reserved⟩) := by
  rw [reserveStockBulkOnColumns, bulkLoopOnColumns_eq]
  cases (runMessages db messages).2 with
  | error error => rfl
  | ok answers => simp [Except.map]

/-- What a stream does that is answered to its end. -/
structure Served (db : InventoryDb) (messages : List BulkMessage)
    (after : InventoryDb) : Prop where
  available : after.available? = bulkLeaves db.available? messages
  rows : ∃ added, after.reservations = db.reservations ++ added ∧
    added.map StockReservation.text = bulkRows db.available? messages

theorem TakenBy.leaves {db after : InventoryDb} {message : BulkMessage}
    {stored : CharField128}
    (hcovered : message.Covered db.available?)
    (htaken : TakenBy db (message.streamed stored) after) :
    after.available? = message.leaves db.available? := by
  funext productId
  have hitem : requested [message.reserveItem] productId =
      if message.productId = productId then message.quantity else 0 := by
    rw [requested, groupedSum.cons, groupedSum.nil, add_zero]
    rfl
  have hspent : after.available? productId =
      (db.available? productId).map fun available =>
        available - requested [message.reserveItem] productId :=
    htaken.available productId
  rw [hspent, hitem, BulkMessage.leaves, if_pos hcovered]
  by_cases hproduct : productId = message.productId
  · rw [if_pos hproduct.symm, if_pos hproduct]
  · simp [hproduct, Ne.symm hproduct]

/-- Where the texts are stored, every line gets its answer. -/
theorem runMessages_of_storable {db : InventoryDb}
    {messages : List BulkMessage}
    (hstorable : Storable db.available? messages) :
    ∃ after, runMessages db messages =
        (after, .ok (bulkAnswers db.available? messages)) ∧
      Served db messages after := by
  induction messages generalizing db with
  | nil => exact ⟨db, rfl, rfl, [], (List.append_nil _).symm, rfl⟩
  | cons message messages ih =>
      obtain ⟨hmessage, hrest⟩ := hstorable
      have hcase := bulkLineOnColumns_case db message
      rw [runMessages]
      generalize bulkLineOnColumns db message = result at hcase
      cases hcase with
      | failed huncovered =>
          have hleaves : message.leaves db.available? = db.available? :=
            if_neg huncovered
          rw [hleaves] at hrest
          obtain ⟨after, hrun, hserved⟩ := ih hrest
          refine ⟨after, ?_, ?_, ?_⟩
          · rw [bulkAnswers, hleaves]
            simp only [hrun, Except.map]
          · rw [bulkLeaves, hleaves]
            exact hserved.available
          · rw [bulkRows, hleaves, if_neg huncovered]
            exact hserved.rows
      | @taken stored next hstored hcovered htaken =>
          have hleaves := htaken.leaves hcovered
          rw [← hleaves] at hrest
          obtain ⟨after, hrun, hserved⟩ := ih hrest
          obtain ⟨added, hadded, hrows⟩ := hserved.rows
          refine ⟨after, ?_, ?_, (message.streamed stored).row db :: added,
            ?_, ?_⟩
          · rw [bulkAnswers, ← hleaves]
            simp only [hrun, Except.map]
          · rw [bulkLeaves, ← hleaves]
            exact hserved.available
          · rw [hadded, htaken.reservations, List.append_assoc]
            rfl
          · rw [bulkRows, ← hleaves, if_pos hcovered, BulkMessage.text?,
              hstored, List.map_cons, hrows]
            rfl
      | refused hrefused hcovered =>
          have hstored := hmessage hcovered
          rw [hrefused] at hstored
          exact absurd hstored Bool.false_ne_true

/-- The first line that would be reserved under a refused text ends the
call. -/
theorem runMessages_of_not_storable {db : InventoryDb}
    {messages : List BulkMessage}
    (hrefused : ¬ Storable db.available? messages) :
    (runMessages db messages).2 = .error .dataError := by
  induction messages generalizing db with
  | nil => exact absurd trivial hrefused
  | cons message messages ih =>
      have hcase := bulkLineOnColumns_case db message
      rw [runMessages]
      rw [Storable] at hrefused
      generalize bulkLineOnColumns db message = result at hcase
      cases hcase with
      | failed huncovered =>
          have hleaves : message.leaves db.available? = db.available? :=
            if_neg huncovered
          rw [hleaves] at hrefused
          have herror := ih fun hrest =>
            hrefused ⟨fun hcovered => absurd hcovered huncovered, hrest⟩
          simp only [herror, Except.map]
      | @taken stored next hstored hcovered htaken =>
          rw [← htaken.leaves hcovered] at hrefused
          have herror := ih fun hrest =>
            hrefused ⟨fun _ => by simp [hstored], hrest⟩
          simp only [herror, Except.map]
      | refused => rfl

/-! ## Deleting lines that failed -/

/-- A stream and its answers, and what remains of both when some of the lines
that were not reserved are deleted. -/
inductive Pruned : List BulkMessage → List BulkAnswer →
    List BulkMessage → List BulkAnswer → Prop
  | nil : Pruned [] [] [] []
  | keep {messages kept : List BulkMessage}
      {answers keptAnswers : List BulkAnswer} (message : BulkMessage)
      (answer : BulkAnswer)
      (hrest : Pruned messages answers kept keptAnswers) :
      Pruned (message :: messages) (answer :: answers) (message :: kept)
        (answer :: keptAnswers)
  | delete {messages kept : List BulkMessage}
      {answers keptAnswers : List BulkAnswer} (message : BulkMessage)
      (answer : BulkAnswer) (hfailed : answer.reserved = false)
      (hrest : Pruned messages answers kept keptAnswers) :
      Pruned (message :: messages) (answer :: answers) kept keptAnswers

/-- A stream that was answered has answered its first message. -/
theorem runMessages_cons_ok {db after : InventoryDb} {message : BulkMessage}
    {messages : List BulkMessage} {answer : BulkAnswer}
    {answers : List BulkAnswer}
    (hrun : runMessages db (message :: messages) =
      (after, .ok (answer :: answers))) :
    ∃ next, bulkLineOnColumns db message = (next, .ok answer) ∧
      runMessages next messages = (after, .ok answers) := by
  rw [runMessages] at hrun
  rcases hline : bulkLineOnColumns db message with ⟨next, _ | first⟩
  · rw [hline] at hrun
    exact absurd (congrArg Prod.snd hrun) nofun
  rw [hline] at hrun
  rcases hrest : runMessages next messages with ⟨last, _ | rest⟩
  · simp only [hrest, Except.map] at hrun
    exact absurd (congrArg Prod.snd hrun) nofun
  simp only [hrest, Except.map, Prod.mk.injEq, Except.ok.injEq,
    List.cons.injEq] at hrun
  obtain ⟨rfl, rfl, rfl⟩ := hrun
  exact ⟨next, rfl, hrest⟩

theorem bulkLineOnColumns_failed {db next : InventoryDb}
    {message : BulkMessage} {answer : BulkAnswer}
    (hline : bulkLineOnColumns db message = (next, .ok answer))
    (hfailed : answer.reserved = false) : next = db := by
  have hcase := bulkLineOnColumns_case db message
  rw [hline] at hcase
  cases hcase with
  | failed => rfl
  | taken hstored hcovered htaken =>
      rw [message.answer_reserved, decide_eq_false_iff_not] at hfailed
      exact absurd hcovered hfailed

theorem runMessages_pruned {db after : InventoryDb}
    {messages kept : List BulkMessage} {answers keptAnswers : List BulkAnswer}
    (hpruned : Pruned messages answers kept keptAnswers)
    (hrun : runMessages db messages = (after, .ok answers)) :
    runMessages db kept = (after, .ok keptAnswers) := by
  induction hpruned generalizing db with
  | nil => exact hrun
  | keep message answer hrest ih =>
      obtain ⟨next, hline, htail⟩ := runMessages_cons_ok hrun
      rw [runMessages, hline]
      simp only [ih htail, Except.map]
  | delete message answer hfailed hrest ih =>
      -- the deleted line left the tables as the next line finds them
      obtain ⟨next, hline, htail⟩ := runMessages_cons_ok hrun
      obtain rfl := bulkLineOnColumns_failed hline hfailed
      exact ih htail

/-! ## The contract of the stream -/

/-- Every line is answered by what the ones before it have left, the counters
count, the rows of the reserved lines are added, and the lines that failed can
be deleted. -/
structure BestEffort (db : InventoryDb) (messages : List BulkMessage)
    (after : InventoryDb) (report : BulkReport) : Prop where
  echoed : report.results.map (fun answer =>
      (answer.orderRef, answer.productId)) =
    messages.map fun message => (message.orderRef, message.productId)
  total : report.total = messages.length
  reservedCount : report.reservedCount =
    report.results.countP BulkAnswer.reserved
  failedCount : (report.failedCount : ℤ) = report.total - report.reservedCount
  answered : report.results = bulkAnswers db.available? messages
  available : after.available? = bulkLeaves db.available? messages
  rowsAdded : ∃ added, after.reservations = db.reservations ++ added ∧
    added.map StockReservation.text = bulkRows db.available? messages ∧
    added.length = report.reservedCount
  invisible : ∀ kept answers, Pruned messages report.results kept answers →
    ∃ keptReport, reserveStockBulkOnColumns kept db = (after, .ok keptReport) ∧
      keptReport.results = answers

/-- The call returns a summary, as its contract has it. -/
def KeepsContract (db : InventoryDb) (messages : List BulkMessage) : Prop :=
  ∃ after report, reserveStockBulkOnColumns messages db =
    (after, .ok report) ∧ BestEffort db messages after report

theorem bulkAnswers_echo (left : ℤ → Option ℤ) (messages : List BulkMessage) :
    (bulkAnswers left messages).map (fun answer =>
        (answer.orderRef, answer.productId)) =
      messages.map fun message => (message.orderRef, message.productId) := by
  induction messages generalizing left with
  | nil => rfl
  | cons message messages ih =>
      have hecho : ((message.answer left).orderRef,
          (message.answer left).productId) =
          (message.orderRef, message.productId) := by
        unfold BulkMessage.answer
        split_ifs <;> rfl
      rw [bulkAnswers, List.map_cons, hecho, ih, List.map_cons]

theorem length_bulkRows {left : ℤ → Option ℤ} {messages : List BulkMessage}
    (hstorable : Storable left messages) :
    (bulkRows left messages).length =
      (bulkAnswers left messages).countP BulkAnswer.reserved := by
  induction messages generalizing left with
  | nil => rfl
  | cons message messages ih =>
      rw [bulkRows, bulkAnswers, List.length_append, ih hstorable.2,
        List.countP_cons, message.answer_reserved, add_comm]
      by_cases hcovered : message.Covered left
      · obtain ⟨stored, hstored⟩ :=
          Option.isSome_iff_exists.mp (hstorable.1 hcovered)
        simp [BulkMessage.text?, hstored, hcovered]
      · simp [hcovered]

/-- The stream keeps its contract when no line that the stock left covers has a
text that the column refuses. -/
theorem keepsContract_iff (db : InventoryDb) (messages : List BulkMessage) :
    KeepsContract db messages ↔ Storable db.available? messages := by
  constructor
  · rintro ⟨after, report, hreport, _⟩
    by_contra hrefused
    rw [reserveStockBulkOnColumns_eq, runMessages_of_not_storable hrefused]
      at hreport
    exact absurd (congrArg Prod.snd hreport) nofun
  · intro hstorable
    obtain ⟨after, hrun, hserved⟩ := runMessages_of_storable hstorable
    have hlength : (bulkAnswers db.available? messages).length =
        messages.length := by
      simpa using congrArg List.length (bulkAnswers_echo db.available? messages)
    refine ⟨after, _, by rw [reserveStockBulkOnColumns_eq, hrun]; rfl, ?_⟩
    refine ⟨bulkAnswers_echo _ _, hlength, rfl, Int.ofNat_sub
      List.countP_le_length, rfl, hserved.available, ?_, ?_⟩
    · obtain ⟨added, hadded, hrows⟩ := hserved.rows
      refine ⟨added, hadded, hrows, ?_⟩
      rw [← added.length_map, hrows]
      exact length_bulkRows hstorable
    · intro kept answers hpruned
      refine ⟨BulkProgress.report
        ⟨answers, answers.countP BulkAnswer.reserved⟩, ?_, rfl⟩
      rw [reserveStockBulkOnColumns_eq, runMessages_pruned hpruned hrun]
      rfl

/-- A widget under an order_ref of 129 letters. -/
def wideMessage : BulkMessage :=
  ⟨String.ofList (List.replicate 129 'a'), 1, 1, id⟩

theorem wideMessage_ends_call :
    (reserveStockBulkOnColumns [wideMessage] seededDb).2 =
        .error .dataError ∧
      ¬ KeepsContract seededDb [wideMessage] := by
  have herror : (reserveStockBulkOnColumns [wideMessage] seededDb).2 =
      .error .dataError := by decide +kernel
  refine ⟨herror, ?_⟩
  rintro ⟨after, report, hreport, _⟩
  rw [hreport] at herror
  exact absurd herror nofun

end OrderFlow.Inventory
