import OrderFlow.Inventory.Queries
import OrderFlow.Inventory.SerialInvariants
import OrderFlow.Inventory.Simulation

/-!
# Exactly once per idempotency key

A key names one request: its order and its items.  However the reserves with
that key, the releases of any order and the calls for other keys interleave,
the RESERVED rows of the key are one whole batch of the request or none.  The
replay check is not part of the argument; the unique index keeps a second batch
out, and a release takes a batch as a whole because its snapshot holds all of
it or nothing of it.
-/

namespace OrderFlow.Inventory

open OrderFlow.TransitionSystem
open OrderFlow.Inventory.Interleaved (Request)
open OrderFlow.Inventory.Refinement

/-! ## One request per key -/

/-- What `key` stands for: the RESERVED rows of one request. -/
def WholeBatch (orderRef key : CharField128) (items : List ReserveItem)
    (rows : List StockReservation) : Prop :=
  (rows.map StockReservation.line).Perm
    (items.map (ReserveItem.line orderRef key))

/-- The rows of a key are none, or exactly one for each line. -/
def NoneOrWhole (orderRef key : CharField128) (items : List ReserveItem)
    (db : InventoryDb) : Prop :=
  db.activeForKey key = [] ∨
    WholeBatch orderRef key items (db.activeForKey key)

theorem WholeBatch.orderRef_eq {orderRef key : CharField128}
    {items : List ReserveItem} {rows : List StockReservation}
    (hbatch : WholeBatch orderRef key items rows) {row : StockReservation}
    (hrow : row ∈ rows) :
    row.orderRef = orderRef ∧
      ∃ item ∈ items, item.productId = row.productId := by
  obtain ⟨item, hitem, hline⟩ := List.mem_map.mp
    (hbatch.mem_iff.mp (List.mem_map_of_mem hrow))
  have horder := congrArg ReservedLine.orderRef hline
  have hproduct := congrArg ReservedLine.productId hline
  exact ⟨horder.symm, item, hitem, hproduct⟩

/-- A batch holds what the request asks for. -/
theorem WholeBatch.quantityOf_eq {orderRef key : CharField128}
    {items : List ReserveItem} {rows : List StockReservation}
    (hbatch : WholeBatch orderRef key items rows) (productId : ℤ) :
    quantityOf rows productId = requested items productId := by
  calc quantityOf rows productId
      = groupedSum ReservedLine.productId ReservedLine.quantity
          (rows.map StockReservation.line) productId := by
        rw [groupedSum.map]
        rfl
    _ = groupedSum ReservedLine.productId ReservedLine.quantity
          (items.map (ReserveItem.line orderRef key)) productId :=
        groupedSum.perm hbatch productId
    _ = requested items productId := by
        rw [groupedSum.map]
        rfl

theorem WholeBatch.ne_nil {orderRef key : CharField128}
    {items : List ReserveItem} {rows : List StockReservation}
    (hbatch : WholeBatch orderRef key items rows) (hitems : items ≠ []) :
    rows ≠ [] := by
  rintro rfl
  exact hitems (List.map_eq_nil_iff.mp hbatch.symm.eq_nil)

theorem NoneOrWhole.orderRef_eq {orderRef key : CharField128}
    {items : List ReserveItem} {db : InventoryDb}
    (hrows : NoneOrWhole orderRef key items db) {row : StockReservation}
    (hrow : row ∈ db.activeForKey key) : row.orderRef = orderRef := by
  rcases hrows with hnone | hbatch
  · rw [hnone] at hrow
    exact absurd hrow List.not_mem_nil
  · exact (hbatch.orderRef_eq hrow).1

/-- While a batch of the request is RESERVED the unique index rejects the next
one. -/
theorem NoneOrWhole.nil_of_free {orderRef key : CharField128}
    {items : List ReserveItem} {db : InventoryDb}
    (hrows : NoneOrWhole orderRef key items db)
    (hfree : ∀ item ∈ items, db.hasActive key item.productId = false) :
    db.activeForKey key = [] := by
  rcases hrows with hnone | hbatch
  · exact hnone
  · apply List.eq_nil_iff_forall_not_mem.mpr
    intro row hrow
    obtain ⟨_, item, hitem, hproduct⟩ := hbatch.orderRef_eq hrow
    have hactive := hasActive_of_mem hrow
    rw [← hproduct, hfree item hitem] at hactive
    exact Bool.false_ne_true hactive

theorem wholeBatch_rows (call : ReserveCall) :
    WholeBatch call.orderRef call.idempotencyKey call.items
      (call.rows (sortedItems call.items)) := by
  rw [WholeBatch, call.map_line_rows]
  exact (perm_sortedItems call.items).map _

/-- A reserve for the key leaves the batch that is there, or makes the first
one. -/
theorem NoneOrWhole.reserve {db : InventoryDb} {call : ReserveCall}
    (hrows : NoneOrWhole call.orderRef call.idempotencyKey call.items db)
    (hkey : call.idempotencyKey ≠ .empty) :
    (reserveBody db call).1 = db ∨
      db.activeForKey call.idempotencyKey = [] ∧
        (reserveBody db call).1.activeForKey call.idempotencyKey =
          call.rows (sortedItems call.items) := by
  rcases reserveBody_cases db call with
    ⟨hsame, _⟩ | ⟨_, loop, hprogress, hcommit⟩
  · exact .inl hsame
  · have hnone : db.activeForKey call.idempotencyKey = [] :=
      hrows.nil_of_free fun item hitem => (hprogress.index hkey).2 item
        ((perm_sortedItems call.items).mem_iff.mpr hitem)
    refine .inr ⟨hnone, ?_⟩
    rw [hcommit, hprogress.activeForKey, hnone, List.nil_append]

/-! ## The invariant -/

/-- The snapshot of a release holds every row of the key or none. -/
def AllOrNone (rows : List StockReservation) (ids : List RowId) : Prop :=
  (∀ row ∈ rows, row.id ∈ ids) ∨ ∀ row ∈ rows, row.id ∉ ids

theorem AllOrNone.of_subset {rows fewer : List StockReservation}
    {ids : List RowId} (hall : AllOrNone rows ids)
    (hsubset : ∀ row ∈ fewer, row ∈ rows) : AllOrNone fewer ids := by
  rcases hall with hin | hout
  · exact .inl fun row hrow => hin row (hsubset row hrow)
  · exact .inr fun row hrow => hout row (hsubset row hrow)

/-- What a session may do to the rows of the key. -/
def SessionForKey (orderRef key : CharField128) (items : List ReserveItem)
    (db : InventoryDb) : Serial.Session → Prop
  | .reserving call _ =>
      call.idempotencyKey = key →
        call.orderRef = orderRef ∧ call.items = items
  | .releasing _ (some ids) => AllOrNone (db.activeForKey key) ids
  | _ => True

structure OncePerKey (orderRef key : CharField128) (items : List ReserveItem)
    (serial : Serial.State) : Prop where
  fresh : Serial.Fresh serial
  rows : NoneOrWhole orderRef key items serial.db
  sessions : ∀ number,
    SessionForKey orderRef key items serial.db (serial.sessions number)

/-- The calls a key is used by: reserves of its one request.  Reserves for
other keys and releases are not restricted. -/
def UsesKeyFor (orderRef key : CharField128) (items : List ReserveItem) :
    Request → Prop
  | .reserve callRef callItems callKey _ =>
      callKey = key → callRef = orderRef ∧ callItems = items
  | .release _ => True

section Steps

variable {orderRef key : CharField128} {items : List ReserveItem}
variable {serial : Serial.State} {number : ℕ}

theorem OncePerKey.goto (honce : OncePerKey orderRef key items serial)
    {next : Serial.Session} (hfresh : Serial.Fresh (serial.goto number next))
    (hnext : SessionForKey orderRef key items serial.db next) :
    OncePerKey orderRef key items (serial.goto number next) where
  fresh := hfresh
  rows := honce.rows
  sessions := by
    rw [Serial.State.goto, Function.forall_update_iff serial.sessions
      (p := fun _ session =>
        SessionForKey orderRef key items serial.db session)]
    exact ⟨hnext, fun other _ => honce.sessions other⟩

theorem OncePerKey.finish (honce : OncePerKey orderRef key items serial)
    {db : InventoryDb} {result : Interleaved.Result}
    (hfresh : Serial.Fresh (serial.finish number db result))
    (hrows : NoneOrWhole orderRef key items db)
    (hsnapshots : ∀ other released ids, other ≠ number →
      serial.sessions other = .releasing released (some ids) →
        AllOrNone (db.activeForKey key) ids) :
    OncePerKey orderRef key items (serial.finish number db result) where
  fresh := hfresh
  rows := hrows
  sessions := by
    rw [Serial.State.finish, Function.forall_update_iff serial.sessions
      (p := fun _ session => SessionForKey orderRef key items db session)]
    refine ⟨trivial, fun other hne => ?_⟩
    have hother := honce.sessions other
    cases hsession : serial.sessions other with
    | idle => trivial
    | finished earlier => trivial
    | reserving call checked =>
        rw [hsession] at hother
        exact hother
    | releasing released snapshot =>
        cases snapshot with
        | none => trivial
        | some ids => exact hsnapshots other released ids hne hsession

/-- The call ends and the rows of the key are the same as before. -/
theorem OncePerKey.finish_same (honce : OncePerKey orderRef key items serial)
    {db : InventoryDb} {result : Interleaved.Result}
    (hfresh : Serial.Fresh (serial.finish number db result))
    (hsame : db.activeForKey key = serial.db.activeForKey key) :
    OncePerKey orderRef key items (serial.finish number db result) := by
  apply honce.finish hfresh
  · rw [NoneOrWhole, hsame]
    exact honce.rows
  · intro other released ids _ hsession
    have hother := honce.sessions other
    rw [hsession] at hother
    rw [hsame]
    exact hother

theorem OncePerKey.reserve (honce : OncePerKey orderRef key items serial)
    (hkey : key ≠ .empty) {call : ReserveCall}
    (hsession : serial.sessions number = .reserving call true)
    {result : Interleaved.Result}
    (hfresh : Serial.Fresh
      (serial.finish number (reserveBody serial.db call).1 result)) :
    OncePerKey orderRef key items
      (serial.finish number (reserveBody serial.db call).1 result) := by
  by_cases hsame : call.idempotencyKey = key
  · have hself := honce.sessions number
    have hunused := honce.fresh.sessions number
    rw [hsession] at hself hunused
    obtain ⟨rfl, rfl⟩ := hself hsame
    subst hsame
    rcases honce.rows.reserve hkey with hrefused | ⟨_, hnew⟩
    · exact honce.finish_same hfresh (by rw [hrefused])
    · apply honce.finish hfresh
      · rw [NoneOrWhole, hnew]
        exact .inr (wholeBatch_rows call)
      · -- a snapshot taken earlier knows none of the new rows
        intro other released ids hne hreleasing
        have hknown := honce.fresh.sessions other
        rw [hreleasing] at hknown
        rw [hnew]
        refine .inr fun row hrow hid => ?_
        obtain ⟨item, _, line, rfl⟩ := ReserveCall.mem_rows hrow
        obtain ⟨before, hbefore, hsame⟩ :=
          List.mem_map.mp (hknown.2 _ hid)
        apply hunused.2 before hbefore
        rw [hsame]
        exact hunused.1
  · exact honce.finish_same hfresh (activeForKey_reserveBody_other hsame)

theorem OncePerKey.release (honce : OncePerKey orderRef key items serial)
    {released : CharField128} {ids : List RowId}
    (hsession : serial.sessions number = .releasing released (some ids))
    {result : Interleaved.Result}
    (hfresh : Serial.Fresh (serial.finish number (releaseBody serial.db
      (Serial.currentRows serial.db released ids)).1 result)) :
    OncePerKey orderRef key items (serial.finish number (releaseBody serial.db
      (Serial.currentRows serial.db released ids)).1 result) := by
  have hrows := activeForKey_releaseBody serial.db
    (Serial.currentRows serial.db released ids) key
  have hself := honce.sessions number
  rw [hsession] at hself
  have htaken : ∀ row ∈ serial.db.activeForKey key,
      row.id ∈ (Serial.currentRows serial.db released ids).map
        StockReservation.id ↔ row.id ∈ ids ∧ orderRef = released := by
    intro row hrow
    obtain ⟨hmem, _, hstatus⟩ := mem_activeForKey_iff.mp hrow
    have horder := honce.rows.orderRef_eq hrow
    rw [← horder, Serial.mem_map_currentRows_iff honce.fresh.ids_nodup hmem]
    simp [hstatus]
  have hnoneOrWhole : NoneOrWhole orderRef key items (releaseBody serial.db
      (Serial.currentRows serial.db released ids)).1 := by
    rw [NoneOrWhole, hrows]
    by_cases hall : (∀ row ∈ serial.db.activeForKey key, row.id ∈ ids) ∧
        orderRef = released
    · left
      rw [List.filter_eq_nil_iff]
      intro row hrow hkept
      exact of_decide_eq_true hkept
        ((htaken row hrow).mpr ⟨hall.1 row hrow, hall.2⟩)
    · have hkeep : (serial.db.activeForKey key).filter (fun row =>
          decide (row.id ∉ (Serial.currentRows serial.db released ids).map
            StockReservation.id)) = serial.db.activeForKey key := by
        rw [List.filter_eq_self]
        intro row hrow
        rw [decide_eq_true_eq, htaken row hrow]
        rintro ⟨hid, horder⟩
        rcases hself with hin | hout
        · exact hall ⟨hin, horder⟩
        · exact hout row hrow hid
      rw [hkeep]
      exact honce.rows
  apply honce.finish hfresh hnoneOrWhole
  intro other otherRef otherIds _ hother
  have hsnapshot := honce.sessions other
  rw [hother] at hsnapshot
  apply AllOrNone.of_subset hsnapshot
  intro row hrow
  rw [hrows] at hrow
  exact List.mem_of_mem_filter hrow

/-- A snapshot taken now holds the whole batch, or belongs to another order. -/
theorem OncePerKey.select (honce : OncePerKey orderRef key items serial)
    {released : CharField128} {rows : List StockReservation}
    (hselects : Interleaved.Selects serial.db released rows) :
    AllOrNone (serial.db.activeForKey key)
      (rows.map StockReservation.id) := by
  by_cases horder : orderRef = released
  · left
    intro row hrow
    obtain ⟨hmem, _, hstatus⟩ := mem_activeForKey_iff.mp hrow
    apply List.mem_map_of_mem
    rw [hselects.1.mem_iff, InventoryDb.reservedForOrder, List.mem_filter]
    exact ⟨hmem, decide_eq_true
      ⟨(honce.rows.orderRef_eq hrow).trans horder, hstatus⟩⟩
  · right
    intro row hrow hid
    obtain ⟨other, hother, hsame⟩ := List.mem_map.mp hid
    rw [hselects.1.mem_iff, InventoryDb.reservedForOrder, List.mem_filter]
      at hother
    have hrowEq : other = row := List.inj_on_of_nodup_map
      honce.fresh.ids_nodup hother.1 (mem_activeForKey_iff.mp hrow).1 hsame
    subst hrowEq
    exact horder ((honce.rows.orderRef_eq hrow).symm.trans
      (of_decide_eq_true hother.2).1)

/-- Every serial step keeps the batch of the key whole. -/
theorem OncePerKey.step (honce : OncePerKey orderRef key items serial)
    (hkey : key ≠ .empty) {action : Serial.Action} {next : Serial.State}
    (hcalls : SerialCalls (UsesKeyFor orderRef key items) action)
    (hstep : Serial.step serial action = some next) :
    OncePerKey orderRef key items next := by
  have hfresh := honce.fresh.step hstep
  cases Serial.step_cases hstep with
  | call number request hidle hunused =>
      apply honce.goto hfresh
      cases request with
      | reserve callRef callItems callKey clock => exact hcalls
      | release released => trivial
  | answer number call outcome hsession houtcome =>
      exact honce.finish_same hfresh rfl
  | proceed number call hsession hitems hreplay =>
      have hself := honce.sessions number
      rw [hsession] at hself
      exact honce.goto hfresh hself
  | select number released rows hsession hselects =>
      exact honce.goto hfresh (honce.select hselects)
  | reserve number call hsession => exact honce.reserve hkey hsession hfresh
  | release number released ids hsession => exact honce.release hsession hfresh
  | abort number hopen => exact honce.finish_same hfresh rfl

end Steps

end OrderFlow.Inventory
