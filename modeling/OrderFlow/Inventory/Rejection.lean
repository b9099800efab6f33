import OrderFlow.Inventory.Breakdown
import OrderFlow.Inventory.Queries

/-!
# What a rejected call answers

A call that is rejected changes nothing and answers every line.  The lines are
decided one after the other against the stock that the lines marked as
reserved before them would have left, although none of it is taken.
-/

namespace OrderFlow.Inventory

/-- `lines` are the items in product order, those of one product as they were
requested. -/
structure InProductOrder (items lines : List ReserveItem) : Prop where
  perm : lines.Perm items
  sorted : lines.Pairwise fun first second =>
    first.productId ≤ second.productId
  stable : ∀ productId,
    (lines.filter fun item => item.productId = productId) =
      items.filter fun item => item.productId = productId

theorem sortedItems_inProductOrder (items : List ReserveItem) :
    InProductOrder items (sortedItems items) where
  perm := perm_sortedItems items
  sorted := List.pairwise_insertionSort _ items
  stable productId := by
    have hequal : (items.filter fun item => item.productId = productId).Pairwise
        fun first second => first.productId ≤ second.productId := by
      refine List.pairwise_iff_forall_sublist.mpr fun hpair => ?_
      have hmem := hpair.subset
      simp only [List.cons_subset, List.mem_filter, decide_eq_true_eq]
        at hmem
      exact (hmem.1.2.trans hmem.2.1.2.symm).le
    have hsublist := (List.sublist_insertionSort hequal
      List.filter_sublist).filter fun item => item.productId = productId
    simp only [List.filter_filter, Bool.and_self] at hsublist
    refine (hsublist.eq_of_length ?_).symm
    exact (((perm_sortedItems items).filter _).length_eq).symm

/-- The lines that were answered as reserved. -/
def grantedLines (lines : List ReserveItem) (results : List ItemOutcome) :
    List ReserveItem :=
  ((lines.zip results).filter fun pair => pair.2.reserved).map Prod.fst

/-- The initial quantity of a product, less the quantities of the lines for it
before `line` that were marked as reserved. -/
def remaining? (db : InventoryDb) (lines : List ReserveItem)
    (results : List ItemOutcome) (line : ℕ) (productId : ℤ) : Option ℤ :=
  (db.available? productId).map fun available =>
    available -
      requested (grantedLines (lines.take line) (results.take line)) productId

/-- A line is answered by what remained of its product. -/
structure LineAnswered (stock? : Option ℤ) (item : ReserveItem)
    (outcome : ItemOutcome) : Prop where
  reserved : outcome.reserved = true ↔ 0 < item.quantity ∧
    ∃ remaining, stock? = some remaining ∧ item.quantity ≤ remaining
  nonPositive : item.quantity ≤ 0 →
    outcome.reason = "quantity must be positive"
  notFound : 0 < item.quantity → stock? = none →
    outcome.reason = "product not found"
  short : 0 < item.quantity → ∀ remaining, stock? = some remaining →
    remaining < item.quantity →
      outcome.reason = ReserveLoop.insufficientStock item.quantity remaining

structure Rejected (db : InventoryDb) (call : ReserveCall)
    (answer : InventoryDb × ReservationOutcome) : Prop where
  unchanged : answer.1 = db
  order : InProductOrder call.items (sortedItems call.items)
  complete : answer.2.results.map ItemOutcome.productId =
    (sortedItems call.items).map ReserveItem.productId
  refused : ∃ outcome ∈ answer.2.results, outcome.reserved = false
  reasons : ∀ outcome ∈ answer.2.results,
    outcome.reason = "" ↔ outcome.reserved = true
  duplicate : reserveLoop db call .start (sortedItems call.items) =
      .error .integrityError → answer.2 = duplicateOutcome call
  lines : reserveLoop db call .start (sortedItems call.items) ≠
      .error .integrityError →
    ∀ line item outcome, (sortedItems call.items)[line]? = some item →
      answer.2.results[line]? = some outcome →
        LineAnswered (remaining? db (sortedItems call.items)
          answer.2.results line item.productId) item outcome

/-! ## Verdicts -/

theorem verdict_answered (stock? : Option ℤ) (item : ReserveItem) :
    LineAnswered stock? item (verdict stock? item) where
  reserved := verdict_reserved_iff _ _
  nonPositive hquantity := by
    unfold verdict
    rw [if_pos hquantity]
  notFound hquantity hnone := by
    unfold verdict
    rw [if_neg (not_le.mpr hquantity), hnone]
  short hquantity remaining hsome hshort := by
    unfold verdict
    rw [if_neg (not_le.mpr hquantity), hsome]
    exact congrArg ItemOutcome.reason (if_pos hshort)

/-- Only a reserved line is answered without a reason. -/
theorem verdict_reason_iff (stock? : Option ℤ) (item : ReserveItem) :
    (verdict stock? item).reason = "" ↔
      (verdict stock? item).reserved = true := by
  unfold verdict
  split_ifs with hquantity
  · simp
  cases stock? with
  | none => simp
  | some remaining =>
      by_cases hshort : remaining < item.quantity
      · have hreason :
            ReserveLoop.insufficientStock item.quantity remaining ≠ "" :=
          insufficientStock_ne (by decide) _ _
        simp [hshort, hreason]
      · simp [hshort]

/-! ## The granted lines -/

theorem grantedLines_concat {lines : List ReserveItem}
    {results : List ItemOutcome} (hlength : results.length = lines.length)
    (item : ReserveItem) (outcome : ItemOutcome) :
    grantedLines (lines ++ [item]) (results ++ [outcome]) =
      grantedLines lines results ++ if outcome.reserved then [item] else [] := by
  rw [grantedLines, List.zip_append hlength.symm, List.filter_append,
    List.map_append]
  cases hreserved : outcome.reserved with
  | true => simp [grantedLines, hreserved]
  | false => simp [grantedLines, hreserved]

theorem grantedLines_of_all {lines : List ReserveItem}
    {results : List ItemOutcome} (hlength : results.length = lines.length)
    (hall : ∀ outcome ∈ results, outcome.reserved = true) :
    grantedLines lines results = lines := by
  have hkept : (lines.zip results).filter (fun pair => pair.2.reserved) =
      lines.zip results :=
    List.filter_eq_self.mpr fun pair hpair =>
      hall pair.2 (List.of_mem_zip hpair).2
  rw [grantedLines, hkept, List.map_fst_zip hlength.ge]

/-! ## The loop -/

/-- The outcomes recorded for the lines `done` say what the loop has done with
them. -/
structure Recorded (db : InventoryDb) (call : ReserveCall)
    (done : List ReserveItem) (loop : ReserveLoop) : Prop where
  length : loop.outcomes.length = done.length
  progress : Progress db call done (grantedLines done loop.outcomes) loop
  verdicts : ∀ line item, done[line]? = some item →
    loop.outcomes[line]? = some (verdict
      (remaining? db done loop.outcomes line item.productId) item)

theorem Recorded.start (db : InventoryDb) (call : ReserveCall) :
    Recorded db call [] .start where
  length := rfl
  progress := .start db call
  verdicts line item hitem := by simp at hitem

/-- The balance the transaction reads is what remains. -/
theorem Recorded.available? {db : InventoryDb} {call : ReserveCall}
    {done : List ReserveItem} {loop : ReserveLoop}
    (hrecorded : Recorded db call done loop) (productId : ℤ) :
    loop.tx.available? db productId =
      remaining? db done loop.outcomes done.length productId := by
  rw [hrecorded.progress.balance, remaining?, List.take_length,
    ← hrecorded.length, List.take_length]

/-- One iteration keeps the accepted lines and the granted ones the same. -/
theorem Progress.granted {db : InventoryDb} {call : ReserveCall}
    {done accepted : List ReserveItem} {loop next : ReserveLoop}
    {item : ReserveItem} (hprogress : Progress db call done accepted loop)
    (hline : reserveLine db call loop item = .ok next) :
    Progress db call (done ++ [item])
      (accepted ++ if (verdict (loop.tx.available? db item.productId)
        item).reserved then [item] else []) next := by
  have hcase := reserveLine_case db call loop item
  rw [hline] at hcase
  cases hcase with
  | nonPositive hquantity =>
      simpa [verdict, hquantity] using hprogress.reject item _
  | notFound hquantity hproduct =>
      simpa [verdict, not_le.mpr hquantity, hproduct] using
        hprogress.reject item _
  | insufficient available hquantity hproduct hshort =>
      simpa [verdict, not_le.mpr hquantity, hproduct, hshort] using
        hprogress.reject item _
  | reserved available hquantity hproduct henough hindex =>
      simpa [verdict, not_le.mpr hquantity, hproduct, not_lt.mpr henough]
        using hprogress.accept hquantity hproduct henough hindex

/-- What remained for a line does not depend on the lines after it. -/
theorem remaining?_append {lines more : List ReserveItem}
    {results later : List ItemOutcome} (db : InventoryDb) {line : ℕ}
    (hlines : line ≤ lines.length) (hresults : line ≤ results.length)
    (productId : ℤ) :
    remaining? db (lines ++ more) (results ++ later) line productId =
      remaining? db lines results line productId := by
  rw [remaining?, remaining?, List.take_append_of_le_length hlines,
    List.take_append_of_le_length hresults]

theorem Recorded.line {db : InventoryDb} {call : ReserveCall}
    {done : List ReserveItem} {loop next : ReserveLoop} {item : ReserveItem}
    (hrecorded : Recorded db call done loop)
    (hline : reserveLine db call loop item = .ok next) :
    Recorded db call (done ++ [item]) next := by
  have houtcomes := (reserveLine_verdict hline).1
  have hlength := hrecorded.length
  refine ⟨?_, ?_, ?_⟩
  · rw [houtcomes, List.length_append, List.length_append, hlength]
    rfl
  · rw [houtcomes, grantedLines_concat hlength]
    exact hrecorded.progress.granted hline
  · intro line other hother
    rw [houtcomes]
    rcases Nat.lt_or_ge line done.length with hearlier | hlast
    · rw [List.getElem?_append_left hearlier] at hother
      rw [List.getElem?_append_left (hlength ▸ hearlier),
        hrecorded.verdicts line other hother, remaining?_append db
          hearlier.le (hlength ▸ hearlier.le)]
    · obtain rfl : line = done.length := by
        have hbound := (List.getElem?_eq_some_iff.mp hother).1
        rw [List.length_append, List.length_singleton] at hbound
        omega
      rw [List.getElem?_append_right le_rfl, Nat.sub_self] at hother
      obtain rfl : item = other := Option.some.inj hother
      rw [List.getElem?_append_right hlength.le, hlength, Nat.sub_self,
        remaining?_append db le_rfl hlength.ge, ← hrecorded.available?]
      rfl

/-- Every line that the loop has taken is recorded. -/
theorem Recorded.run {db : InventoryDb} {call : ReserveCall}
    {done items : List ReserveItem} {loop final : ReserveLoop}
    (hrecorded : Recorded db call done loop)
    (hrun : reserveLoop db call loop items = .ok final) :
    Recorded db call (done ++ items) final := by
  induction items generalizing done loop with
  | nil =>
      obtain rfl := Except.ok.inj hrun
      simpa using hrecorded
  | cons item items ih =>
      rw [reserveLoop_cons] at hrun
      cases hline : reserveLine db call loop item with
      | error error => simp [hline, Except.bind] at hrun
      | ok next =>
          rw [hline] at hrun
          simpa using ih (hrecorded.line hline) hrun

theorem Recorded.exists_line {db : InventoryDb} {call : ReserveCall}
    {done : List ReserveItem} {loop : ReserveLoop}
    (hrecorded : Recorded db call done loop) {line : ℕ}
    (hline : line < loop.outcomes.length) :
    ∃ item, done[line]? = some item ∧
      loop.outcomes[line] = verdict
        (remaining? db done loop.outcomes line item.productId) item := by
  have hbound : line < done.length := hrecorded.length ▸ hline
  refine ⟨done[line], List.getElem?_eq_getElem hbound, ?_⟩
  have hverdict := hrecorded.verdicts line _
    (List.getElem?_eq_getElem hbound)
  rw [List.getElem?_eq_getElem hline] at hverdict
  exact Option.some.inj hverdict

/-! ## The answer -/

/-- A loop that came to its end with a failed line. -/
theorem Recorded.rejected {db : InventoryDb} {call : ReserveCall}
    {loop : ReserveLoop}
    (hrecorded : Recorded db call (sortedItems call.items) loop)
    (hloop : reserveLoop db call .start (sortedItems call.items) = .ok loop)
    (hfailed : loop.allOk = false) :
    Rejected db call (db, ⟨false, loop.outcomes⟩) where
  unchanged := rfl
  order := sortedItems_inProductOrder call.items
  complete := by
    apply List.ext_getElem
    · simpa using hrecorded.length
    · intro line hline _
      rw [List.length_map] at hline
      obtain ⟨item, hitem, hverdict⟩ := hrecorded.exists_line hline
      obtain ⟨_, rfl⟩ := List.getElem?_eq_some_iff.mp hitem
      rw [List.getElem_map, List.getElem_map, hverdict, verdict_productId]
  refused := by
    by_contra hnone
    have hall : ∀ outcome ∈ loop.outcomes, outcome.reserved = true := by
      intro outcome houtcome
      by_contra hrefused
      exact hnone ⟨outcome, houtcome, Bool.eq_false_iff.mpr hrefused⟩
    have hgranted := grantedLines_of_all hrecorded.length hall
    rw [hrecorded.progress.allOk.mpr hgranted] at hfailed
    exact Bool.noConfusion hfailed
  reasons := by
    intro outcome houtcome
    obtain ⟨line, hline, rfl⟩ := List.mem_iff_getElem.mp houtcome
    obtain ⟨item, _, hverdict⟩ := hrecorded.exists_line hline
    rw [hverdict]
    exact verdict_reason_iff _ _
  duplicate hraised := by
    rw [hloop] at hraised
    cases hraised
  lines := by
    intro _ line item outcome hitem houtcome
    rw [hrecorded.verdicts line item hitem] at houtcome
    obtain rfl := Option.some.inj houtcome
    exact verdict_answered _ _

/-- A loop that was cut off by the index. -/
theorem rejected_duplicate {db : InventoryDb} {call : ReserveCall}
    (hitems : call.items ≠ [])
    (hloop : reserveLoop db call .start (sortedItems call.items) =
      .error .integrityError) :
    Rejected db call (db, duplicateOutcome call) where
  unchanged := rfl
  order := sortedItems_inProductOrder call.items
  complete := by simp [duplicateOutcome]
  refused := by
    obtain ⟨item, hitem⟩ := List.exists_mem_of_ne_nil _ hitems
    exact ⟨_, List.mem_map_of_mem
      ((perm_sortedItems call.items).mem_iff.mpr hitem), rfl⟩
  reasons := by simp [duplicateOutcome]
  duplicate _ := rfl
  lines hnot := absurd hloop hnot

/-- Whatever a rejected call was told, it left no trace, and it was told about
every line. -/
theorem reserveStock_rejected {db : InventoryDb} {call : ReserveCall}
    (hitems : call.items ≠ [])
    (hfailed : (reserveStock db call).2.success = false) :
    Rejected db call (reserveStock db call) := by
  have hbody : reserveStock db call = reserveBody db call := by
    rw [reserveStock, if_neg hitems] at hfailed ⊢
    cases hreplay : replay? db call.idempotencyKey with
    | none => rfl
    | some outcome =>
        rw [hreplay] at hfailed
        exact absurd ((replay?_success hreplay).symm.trans hfailed)
          Bool.noConfusion
  rw [hbody] at hfailed ⊢
  unfold reserveBody at hfailed ⊢
  cases hloop : reserveLoop db call .start (sortedItems call.items) with
  | error error => exact rejected_duplicate hitems hloop
  | ok loop =>
      rw [hloop] at hfailed
      have hnotOk : loop.allOk = false := hfailed
      have hrecorded := (Recorded.start db call).run hloop
      have hfinish : loop.finish db = (db, ⟨false, loop.outcomes⟩) := by
        simp [ReserveLoop.finish, hnotOk]
      simp only [hfinish]
      exact hrecorded.rejected hloop hnotOk

/-- Two lines for the gizmos fit and the third does not, a quantity is not
positive and a product is unknown. -/
def mixedLines : ReserveCall where
  number := 0
  clock := id
  orderRef := .ofText "order-123"
  items := [⟨3, 6⟩, ⟨7, 1⟩, ⟨3, 3⟩, ⟨3, 2⟩, ⟨1, 0⟩]
  idempotencyKey := .empty

theorem reserveStock_rejected_mixedLines :
    Rejected seededDb mixedLines (reserveStock seededDb mixedLines) :=
  reserveStock_rejected (by decide) (by decide)

end OrderFlow.Inventory
