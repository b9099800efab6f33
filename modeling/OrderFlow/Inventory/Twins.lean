import OrderFlow.Inventory.Breakdown
import OrderFlow.Inventory.Queries
import OrderFlow.Inventory.SerialInvariants
import OrderFlow.Inventory.Simulation
import OrderFlow.Inventory.Servicer
import OrderFlow.Inventory.SoloRun

/-!
# Concurrent duplicates of one request

Copies of one keyed `reserve_stock` call run at once and one of them commits.
A copy that made its replay check before that commit makes its stock check
after it, on balances its twin has already reduced: it learns that it is a
duplicate from the first line that still has enough, and when no line has it
is told that the stock is short.
-/

namespace OrderFlow.Inventory

open OrderFlow.TransitionSystem
open OrderFlow.Inventory.Interleaved (Request Result)
open OrderFlow.Inventory.Refinement

/-- The calls of one request, each with its own clock. -/
def SameRequest (orderRef key : CharField128) (items : List ReserveItem) :
    Request → Prop
  | .reserve callRef callItems callKey _ =>
      callRef = orderRef ∧ callItems = items ∧ callKey = key
  | .release _ => False

/-- `session` has committed the reservation of the key. -/
def Committed (db : InventoryDb) (key : CharField128) (session : ℕ) : Prop :=
  ∃ row ∈ db.activeForKey key, row.id.call = session

/-- "duplicate reservation in progress" on every line. -/
def ToldDuplicate (items : List ReserveItem) (outcome : ReservationOutcome) :
    Prop :=
  outcome = ⟨false, (sortedItems items).map fun item =>
    ⟨item.productId, false, "duplicate reservation in progress"⟩⟩

/-- The replayed success, or the word that a duplicate is in progress. -/
def Recognised (db : InventoryDb) (key : CharField128)
    (items : List ReserveItem) (outcome : ReservationOutcome) : Prop :=
  replay? db key = some outcome ∨ ToldDuplicate items outcome

/-- When one copy has committed, all others that have returned were
recognised as duplicates. -/
def TwinsRecognised (key : CharField128) (items : List ReserveItem)
    (state : Interleaved.State) : Prop :=
  ∀ winner, Committed state.db key winner → ∀ twin ≠ winner, ∀ outcome,
    state.sessions twin = .finished (.reserved outcome) →
      Recognised state.db key items outcome

/-- In every state that copies of the request can reach from `db`. -/
def AlwaysRecognised (db : InventoryDb) (orderRef key : CharField128)
    (items : List ReserveItem) : Prop :=
  ∀ schedule final,
    (∀ action ∈ schedule, Calls (SameRequest orderRef key items) action) →
    run Interleaved.step (.init db) schedule = some final →
      TwinsRecognised key items final

/-! ## The stock check of a duplicate -/

section Duplicate

variable {db : InventoryDb} {call : ReserveCall} {loop : ReserveLoop}

/-- A line that is not reserved leaves the transaction as it was. -/
theorem reserveLine_rejected {item : ReserveItem} (hstart : loop.tx = .start)
    (hrejected :
      (verdict (db.available? item.productId) item).reserved = false) :
    ∃ next, reserveLine db call loop item = .ok next ∧ next.tx = .start ∧
      next.outcomes =
        loop.outcomes ++ [verdict (db.available? item.productId) item] ∧
      next.allOk = false := by
  have hread : loop.tx.available? db item.productId =
      db.available? item.productId := by
    rw [hstart, Tx.available?_start]
  have hgranted : ∀ available, 0 < item.quantity →
      loop.tx.available? db item.productId = some available →
        ¬ item.quantity ≤ available := by
    intro available hquantity hproduct henough
    rw [hread] at hproduct
    exact Bool.false_ne_true (hrejected.symm.trans
      ((verdict_reserved_iff _ _).mpr ⟨hquantity, available, hproduct, henough⟩))
  have hcase := reserveLine_case db call loop item
  cases hline : reserveLine db call loop item with
  | ok next =>
      obtain ⟨houtcomes, hallOk⟩ := reserveLine_verdict hline
      rw [hread] at houtcomes hallOk
      rw [hrejected, Bool.and_false] at hallOk
      refine ⟨next, rfl, ?_, houtcomes, hallOk⟩
      rw [hline] at hcase
      cases hcase with
      | nonPositive hquantity => exact hstart
      | notFound hquantity hproduct => exact hstart
      | insufficient available hquantity hproduct hshort => exact hstart
      | reserved available hquantity hproduct henough hindex =>
          exact absurd henough (hgranted available hquantity hproduct)
  | error error =>
      rw [hline] at hcase
      cases hcase with
      | duplicate available hquantity hproduct henough hindex =>
          exact absurd henough (hgranted available hquantity hproduct)

/-- When no line has enough, every line gets its own verdict. -/
theorem reserveLoop_rejected {items : List ReserveItem}
    (hstart : loop.tx = .start)
    (hrejected : ∀ item ∈ items,
      (verdict (db.available? item.productId) item).reserved = false) :
    ∃ final, reserveLoop db call loop items = .ok final ∧
      final.outcomes = loop.outcomes ++ items.map (fun item =>
        verdict (db.available? item.productId) item) ∧
      (items ≠ [] ∨ loop.allOk = false → final.allOk = false) := by
  induction items generalizing loop with
  | nil => exact ⟨loop, rfl, by simp, by simp⟩
  | cons item items ih =>
      obtain ⟨next, hline, htx, houtcomes, hallOk⟩ :=
        @reserveLine_rejected _ call _ _ hstart
          (hrejected item List.mem_cons_self)
      obtain ⟨final, hrun, hfinal, hfailed⟩ := ih htx fun other hother =>
        hrejected other (List.mem_cons_of_mem item hother)
      refine ⟨final, ?_, ?_, fun _ => hfailed (.inr hallOk)⟩
      · rw [reserveLoop_cons, hline]
        exact hrun
      · rw [hfinal, houtcomes, List.append_assoc]
        rfl

/-- The first line that has enough meets the row of the twin. -/
theorem reserveLoop_duplicate {items : List ReserveItem}
    (hkey : call.idempotencyKey ≠ .empty) (hstart : loop.tx = .start)
    (hactive : ∀ item ∈ items,
      db.hasActive call.idempotencyKey item.productId = true)
    (henough : ∃ item ∈ items,
      (verdict (db.available? item.productId) item).reserved = true) :
    ∃ error, reserveLoop db call loop items = .error error := by
  induction items generalizing loop with
  | nil =>
      obtain ⟨item, hitem, _⟩ := henough
      exact absurd hitem List.not_mem_nil
  | cons item items ih =>
      rw [reserveLoop_cons]
      cases hverdict :
        (verdict (db.available? item.productId) item).reserved with
      | false =>
          obtain ⟨next, hline, htx, _⟩ :=
            @reserveLine_rejected _ call _ _ hstart hverdict
          rw [hline]
          apply ih htx fun other hother =>
            hactive other (List.mem_cons_of_mem item hother)
          obtain ⟨ample, hample, hreserved⟩ := henough
          rcases List.mem_cons.mp hample with rfl | htail
          · exact absurd (hverdict.symm.trans hreserved) Bool.false_ne_true
          · exact ⟨ample, htail, hreserved⟩
      | true =>
          have hviolates : loop.tx.violatesUniqueIndex db call.idempotencyKey
              item.productId = true := by
            simp [Tx.violatesUniqueIndex, hkey,
              hactive item List.mem_cons_self]
          obtain ⟨hquantity, available, hproduct, hcovers⟩ :=
            (verdict_reserved_iff _ _).mp hverdict
          have hread : loop.tx.available? db item.productId =
              some available := by
            rw [hstart, Tx.available?_start, hproduct]
          have hcase := reserveLine_case db call loop item
          cases hline : reserveLine db call loop item with
          | error error => exact ⟨error, rfl⟩
          | ok next =>
              rw [hline] at hcase
              cases hcase with
              | nonPositive hnonPositive => omega
              | notFound _ hmissing =>
                  exact absurd (hmissing.symm.trans hread) (by simp)
              | insufficient _ _ hsame hshort =>
                  have := Option.some.inj (hsame.symm.trans hread)
                  omega
              | reserved _ _ _ _ hindex =>
                  exact absurd (hindex.symm.trans hviolates)
                    Bool.false_ne_true

end Duplicate

/-! ## After the commit of one copy -/

/-- The stock of some line's product covers the line twice. -/
def Ample (db : InventoryDb) (items : List ReserveItem) : Prop :=
  ∃ item ∈ items, ∃ available, db.available? item.productId = some available ∧
    2 * item.quantity ≤ available

/-- What the commit of the copy `winner` has left. -/
structure Won (db : InventoryDb) (key : CharField128)
    (items : List ReserveItem) (winner : ℕ) (after : InventoryDb) : Prop where
  active : after.activeForKey key ≠ []
  winner : ∀ row ∈ after.activeForKey key, row.id.call = winner
  index : ∀ item ∈ items, after.hasActive key item.productId = true
  available : ∀ productId, after.available? productId =
    (db.available? productId).map fun available =>
      available - requested items productId

section Won

variable {db after : InventoryDb} {key : CharField128}
variable {items : List ReserveItem} {winner : ℕ}

theorem won_of_success {call : ReserveCall}
    (hinactive : db.activeForKey call.idempotencyKey = [])
    (hitems : call.items ≠ [])
    (hsuccess : (reserveBody db call).2.success = true) :
    Won db call.idempotencyKey call.items call.number
      (reserveBody db call).1 := by
  obtain ⟨loop, hprogress, hcommit⟩ := reserveBody_success hsuccess
  have hrows : (reserveBody db call).1.activeForKey call.idempotencyKey =
      call.rows (sortedItems call.items) := by
    rw [hcommit, hprogress.activeForKey, hinactive, List.nil_append]
  have hperm := perm_sortedItems call.items
  constructor
  · rw [hrows, ne_eq, ← List.length_eq_zero_iff, call.length_rows,
      hperm.length_eq, List.length_eq_zero_iff]
    exact hitems
  · rw [hrows]
    intro row hrow
    obtain ⟨item, _, line, rfl⟩ := ReserveCall.mem_rows hrow
    rfl
  · intro item hitem
    have hproduct : item.productId ∈
        (call.rows (sortedItems call.items)).map
          StockReservation.productId := by
      rw [call.map_productId_rows]
      exact List.mem_map_of_mem (hperm.mem_iff.mpr hitem)
    obtain ⟨row, hrow, hsame⟩ := List.mem_map.mp hproduct
    rw [← hrows] at hrow
    exact hsame ▸ hasActive_of_mem hrow
  · intro productId
    rw [InventoryDb.available?, InventoryDb.available?,
      (reserveBody_reservedBy hsuccess).products, Option.map_map,
      Option.map_map]
    rfl

/-- The stock check of a copy, after the commit of its twin. -/
theorem Won.verdict_reserved_iff (hwon : Won db key items winner after)
    (hproducts : (items.map ReserveItem.productId).Nodup) {item : ReserveItem}
    (hitem : item ∈ items) (hpositive : 0 < item.quantity) :
    (verdict (after.available? item.productId) item).reserved = true ↔
      ∃ available, db.available? item.productId = some available ∧
        2 * item.quantity ≤ available := by
  have hrequested : requested items item.productId = item.quantity :=
    groupedSum.eq_of_nodup_keys hproducts hitem
  rw [Inventory.verdict_reserved_iff, hwon.available, hrequested]
  constructor
  · rintro ⟨_, left, hleft, henough⟩
    obtain ⟨available, havailable, rfl⟩ := Option.map_eq_some_iff.mp hleft
    exact ⟨available, havailable, by omega⟩
  · rintro ⟨available, havailable, hcovers⟩
    exact ⟨hpositive, available - item.quantity, by rw [havailable]; rfl,
      by omega⟩

/-- A copy that checks the stock of an ample request after the commit of its
twin is told that it is a duplicate. -/
theorem Won.duplicate {call : ReserveCall}
    (hwon : Won db call.idempotencyKey call.items winner after)
    (hkey : call.idempotencyKey ≠ .empty)
    (hproducts : (call.items.map ReserveItem.productId).Nodup)
    (hpositive : ∀ item ∈ call.items, 0 < item.quantity)
    (hample : Ample db call.items) :
    reserveBody after call = (after, duplicateOutcome call) := by
  have hperm := perm_sortedItems call.items
  obtain ⟨item, hitem, hcovers⟩ := hample
  obtain ⟨error, hloop⟩ : ∃ error,
      reserveLoop after call .start (sortedItems call.items) =
        .error error := by
    apply reserveLoop_duplicate hkey rfl
    · exact fun other hother =>
        hwon.index other (hperm.mem_iff.mp hother)
    · exact ⟨item, hperm.mem_iff.mpr hitem,
        (hwon.verdict_reserved_iff hproducts hitem
          (hpositive item hitem)).mpr hcovers⟩
  rw [reserveBody, hloop]

/-- When no line is covered twice, every line is told its shortage. -/
theorem Won.short {call : ReserveCall}
    (hwon : Won db call.idempotencyKey call.items winner after)
    (hitems : call.items ≠ [])
    (hproducts : (call.items.map ReserveItem.productId).Nodup)
    (hpositive : ∀ item ∈ call.items, 0 < item.quantity)
    (hscarce : ¬ Ample db call.items) :
    (reserveBody after call).2 = ⟨false, (sortedItems call.items).map
      fun item => verdict (after.available? item.productId) item⟩ := by
  have hperm := perm_sortedItems call.items
  have hrejected : ∀ item ∈ sortedItems call.items,
      (verdict (after.available? item.productId) item).reserved = false := by
    intro item hsorted
    have hitem := hperm.mem_iff.mp hsorted
    rw [Bool.eq_false_iff]
    intro hreserved
    exact hscarce ⟨item, hitem, (hwon.verdict_reserved_iff hproducts hitem
      (hpositive item hitem)).mp hreserved⟩
  obtain ⟨final, hloop, houtcomes, hfailed⟩ :=
    @reserveLoop_rejected _ call .start _ rfl hrejected
  have hsorted : sortedItems call.items ≠ [] := fun hnil =>
    hitems (List.nil_perm.mp (hnil ▸ hperm))
  rw [reserveBody, hloop]
  exact congrArg₂ ReservationOutcome.mk (hfailed (.inl hsorted)) houtcomes

end Won

/-! ## Every run of copies of an ample request -/

/-- A session of the request, or one that has ended. -/
def TwinSession (orderRef key : CharField128) (items : List ReserveItem)
    (number : ℕ) : Serial.Session → Prop
  | .reserving call checked =>
      (∃ clock, call = ⟨number, clock, orderRef, items, key⟩) ∧
        (checked = true → items ≠ [])
  | .releasing _ _ => False
  | _ => True

theorem twinSession_call {orderRef key : CharField128}
    {items : List ReserveItem} {number : ℕ} {request : Request}
    (hsame : SameRequest orderRef key items request) :
    TwinSession orderRef key items number (Serial.session number request) := by
  cases request with
  | reserve callRef callItems callKey clock =>
      obtain ⟨rfl, rfl, rfl⟩ := hsame
      exact ⟨⟨clock, rfl⟩, fun hchecked => absurd hchecked Bool.false_ne_true⟩
  | release released => exact hsame.elim

section Steps

variable {before : InventoryDb} {orderRef key : CharField128}
variable {items : List ReserveItem} {serial next : Serial.State}
variable {action : Serial.Action} {number winner : ℕ}

theorem twinSessions_update
    (hsessions : ∀ number, TwinSession orderRef key items number
      (serial.sessions number)) {session : Serial.Session}
    (hsession : TwinSession orderRef key items number session) :
    ∀ other, TwinSession orderRef key items other
      (Function.update serial.sessions number session other) := by
  rw [Function.forall_update_iff serial.sessions
    (p := fun other session => TwinSession orderRef key items other session)]
  exact ⟨hsession, fun other _ => hsessions other⟩

theorem twinSessions_step
    (hsessions : ∀ number, TwinSession orderRef key items number
      (serial.sessions number))
    (hcalls : SerialCalls (SameRequest orderRef key items) action)
    (hstep : Serial.step serial action = some next) :
    ∀ number, TwinSession orderRef key items number (next.sessions number) := by
  cases Serial.step_cases hstep with
  | call number request hidle hunused =>
      exact twinSessions_update hsessions (twinSession_call hcalls)
  | answer number call outcome hsession houtcome =>
      exact twinSessions_update hsessions trivial
  | proceed number call hsession hitems hreplay =>
      have hself := hsessions number
      rw [hsession] at hself
      obtain ⟨⟨clock, rfl⟩, _⟩ := hself
      exact twinSessions_update hsessions ⟨⟨clock, rfl⟩, fun _ => hitems⟩
  | select number released rows hsession hselects =>
      have hself := hsessions number
      rw [hsession] at hself
      exact hself.elim
  | reserve number call hsession =>
      exact twinSessions_update hsessions trivial
  | release number released ids hsession =>
      have hself := hsessions number
      rw [hsession] at hself
      exact hself.elim
  | abort number hopen => exact twinSessions_update hsessions trivial

/-- No copy has returned yet. -/
structure Undecided (before : InventoryDb) (serial : Serial.State) : Prop where
  db : serial.db = before
  silent : ∀ number outcome,
    serial.sessions number ≠ .finished (.reserved outcome)

/-- One copy has committed, and all others that returned were recognised. -/
structure Decided (before : InventoryDb) (key : CharField128)
    (items : List ReserveItem) (winner : ℕ) (serial : Serial.State) :
    Prop where
  won : Won before key items winner serial.db
  recognised : ∀ twin ≠ winner, ∀ outcome,
    serial.sessions twin = .finished (.reserved outcome) →
      Recognised serial.db key items outcome

theorem Undecided.update (hundecided : Undecided before serial)
    {session : Serial.Session}
    (hsession : ∀ outcome, session ≠ .finished (.reserved outcome)) :
    Undecided before
      ⟨serial.db, Function.update serial.sessions number session⟩ where
  db := hundecided.db
  silent := by
    rw [Function.forall_update_iff serial.sessions (p := fun _ session =>
      ∀ outcome, session ≠ .finished (.reserved outcome))]
    exact ⟨hsession, fun other _ => hundecided.silent other⟩

theorem Decided.update (hdecided : Decided before key items winner serial)
    {session : Serial.Session}
    (hsession : ∀ outcome, session = .finished (.reserved outcome) →
      Recognised serial.db key items outcome) :
    Decided before key items winner
      ⟨serial.db, Function.update serial.sessions number session⟩ where
  won := hdecided.won
  recognised := by
    intro twin hne outcome hfinished
    by_cases hsame : twin = number
    · subst hsame
      exact hsession outcome ((Function.update_self _ _ _).symm.trans hfinished)
    · exact hdecided.recognised twin hne outcome
        ((Function.update_of_ne hsame _ _).symm.trans hfinished)

structure TwinRun (before : InventoryDb) (orderRef key : CharField128)
    (items : List ReserveItem) (serial : Serial.State) : Prop where
  sessions : ∀ number, TwinSession orderRef key items number
    (serial.sessions number)
  phase : Undecided before serial ∨
    ∃ winner, Decided before key items winner serial

/-- A step that neither commits nor answers changes no phase. -/
theorem TwinRun.phase_update (hrun : TwinRun before orderRef key items serial)
    {session : Serial.Session}
    (hsession : ∀ outcome, session ≠ .finished (.reserved outcome)) :
    Undecided before
        ⟨serial.db, Function.update serial.sessions number session⟩ ∨
      ∃ winner, Decided before key items winner
        ⟨serial.db, Function.update serial.sessions number session⟩ := by
  rcases hrun.phase with hundecided | ⟨winner, hdecided⟩
  · exact .inl (hundecided.update hsession)
  · exact .inr ⟨winner, hdecided.update fun outcome hfinished =>
      absurd hfinished (hsession outcome)⟩

/-- The answer of a replay check is the replayed success. -/
theorem TwinRun.phase_answer (hrun : TwinRun before orderRef key items serial)
    (hinactive : before.activeForKey key = []) {outcome : ReservationOutcome}
    (hreplay : replay? serial.db key = some outcome) :
    ∃ winner, Decided before key items winner
      (serial.finish number serial.db (.reserved outcome)) := by
  rcases hrun.phase with hundecided | ⟨winner, hdecided⟩
  · have hnone : replay? serial.db key = none := by
      rw [hundecided.db, replay?_eq_none_iff]
      exact fun _ => hinactive
    exact absurd (hnone.symm.trans hreplay) (Option.some_ne_none outcome).symm
  · refine ⟨winner, hdecided.update fun answered hfinished => .inl ?_⟩
    cases hfinished
    exact hreplay

/-- The first body commits; every later one is told that it is a duplicate. -/
theorem TwinRun.phase_body (hrun : TwinRun before orderRef key items serial)
    (hkey : key ≠ .empty) (hinactive : before.activeForKey key = [])
    (hproducts : (items.map ReserveItem.productId).Nodup)
    (hfeasible : Feasible before items) (hample : Ample before items)
    {clock : ℕ → ℕ} (hitems : items ≠ []) :
    ∃ winner, Decided before key items winner
      (serial.finish number
        (reserveBody serial.db ⟨number, clock, orderRef, items, key⟩).1
        (.reserved (reserveBody serial.db
          ⟨number, clock, orderRef, items, key⟩).2)) := by
  have hpositive : ∀ item ∈ items, 0 < item.quantity :=
    fun item hitem => (hfeasible item hitem).1
  rcases hrun.phase with hundecided | ⟨winner, hdecided⟩
  · have hsuccess : (reserveBody before
        ⟨number, clock, orderRef, items, key⟩).2.success = true :=
      reserveBody_of_feasible hfeasible fun _ => ⟨hproducts, fun item _ =>
        hasActive_eq_false_of_activeForKey hinactive item.productId⟩
    rw [hundecided.db]
    refine ⟨number, won_of_success hinactive hitems hsuccess, ?_⟩
    intro twin hne outcome hfinished
    exact absurd ((Function.update_of_ne hne _ _).symm.trans hfinished)
      (hundecided.silent twin outcome)
  · rw [hdecided.won.duplicate hkey hproducts hpositive hample]
    refine ⟨winner, hdecided.update fun answered hfinished => .inr ?_⟩
    cases hfinished
    rfl

theorem TwinRun.step (hrun : TwinRun before orderRef key items serial)
    (hkey : key ≠ .empty) (hinactive : before.activeForKey key = [])
    (hitems : items ≠ [])
    (hproducts : (items.map ReserveItem.productId).Nodup)
    (hfeasible : Feasible before items) (hample : Ample before items)
    (hcalls : SerialCalls (SameRequest orderRef key items) action)
    (hstep : Serial.step serial action = some next) :
    TwinRun before orderRef key items next := by
  refine ⟨twinSessions_step hrun.sessions hcalls hstep, ?_⟩
  cases Serial.step_cases hstep with
  | call number request hidle hunused =>
      apply hrun.phase_update
      cases request <;> exact fun outcome hfinished => nomatch hfinished
  | answer number call outcome hsession houtcome =>
      have hself := hrun.sessions number
      rw [hsession] at hself
      obtain ⟨⟨clock, rfl⟩, _⟩ := hself
      rcases houtcome with ⟨_, hempty⟩ | ⟨_, hreplay⟩
      · exact absurd hempty hitems
      · exact .inr (hrun.phase_answer hinactive hreplay)
  | proceed number call hsession _ hreplay =>
      exact hrun.phase_update fun outcome hfinished => nomatch hfinished
  | select number released rows hsession hselects =>
      exact hrun.phase_update fun outcome hfinished => nomatch hfinished
  | reserve number call hsession =>
      have hself := hrun.sessions number
      rw [hsession] at hself
      obtain ⟨⟨clock, rfl⟩, _⟩ := hself
      exact .inr (hrun.phase_body hkey hinactive hproducts hfeasible hample
        hitems)
  | release number released ids hsession =>
      have hself := hrun.sessions number
      rw [hsession] at hself
      exact hself.elim
  | abort number hopen =>
      exact hrun.phase_update fun outcome hfinished => nomatch hfinished

/-- A request that cannot be reserved changes nothing, whoever asks. -/
theorem unchanged_step
    (hsessions : ∀ number, TwinSession orderRef key items number
      (serial.sessions number)) (hdb : serial.db = before)
    (hnever : items = [] ∨ ¬ Feasible before items)
    (hstep : Serial.step serial action = some next) : next.db = before := by
  cases Serial.step_cases hstep with
  | call number request hidle hunused => exact hdb
  | answer number call outcome hsession houtcome => exact hdb
  | proceed number call hsession _ hreplay => exact hdb
  | select number released rows hsession hselects => exact hdb
  | abort number hopen => exact hdb
  | reserve number call hsession =>
      have hself := hsessions number
      rw [hsession] at hself
      obtain ⟨⟨clock, rfl⟩, hitems⟩ := hself
      have hinfeasible := hnever.resolve_left (hitems rfl)
      rw [← hdb] at hinfeasible
      refine (reserveBody_refused ?_).trans hdb
      rw [Bool.eq_false_iff]
      exact fun hsuccess => hinfeasible (reserveBody_feasible hsuccess)
  | release number released ids hsession =>
      have hself := hsessions number
      rw [hsession] at hself
      exact hself.elim

end Steps

theorem Serial.Session.eq_finished_of_result? {session : Serial.Session}
    {result : Result} (hresult : session.result? = some result) :
    session = .finished result := by
  cases session with
  | finished returned => exact congrArg _ (Option.some.inj hresult)
  | idle => exact nomatch hresult
  | reserving call checked => exact nomatch hresult
  | releasing released snapshot => exact nomatch hresult

section Runs

variable {db : InventoryDb} {orderRef key : CharField128}
variable {items : List ReserveItem}

theorem alwaysRecognised_of_never
    (hids : (db.reservations.map StockReservation.id).Nodup)
    (hinactive : db.activeForKey key = [])
    (hnever : items = [] ∨ ¬ Feasible db items) :
    AlwaysRecognised db orderRef key items := by
  intro schedule final hcalls hrun winner hcommitted
  have hinit : Behind (fun serial => (∀ number, TwinSession orderRef key items
      number (serial.sessions number)) ∧ serial.db = db) (.init db) :=
    ⟨.init db, .init hids, fun _ => trivial, rfl⟩
  obtain ⟨serial, hrelated, _, hdb⟩ := hinit.run
    (fun _ _ _ hkept hallowed hstep =>
      ⟨twinSessions_step hkept.1 hallowed hstep,
        unchanged_step hkept.1 hkept.2 hnever hstep⟩) hcalls hrun
  obtain ⟨row, hrow, _⟩ := hcommitted
  rw [← hrelated.db, hdb, hinactive] at hrow
  exact absurd hrow List.not_mem_nil

theorem alwaysRecognised_of_ample
    (hids : (db.reservations.map StockReservation.id).Nodup)
    (hkey : key ≠ .empty) (hinactive : db.activeForKey key = [])
    (hproducts : (items.map ReserveItem.productId).Nodup)
    (hfeasible : Feasible db items) (hample : Ample db items) :
    AlwaysRecognised db orderRef key items := by
  intro schedule final hcalls hrun winner hcommitted twin hne outcome hfinished
  obtain ⟨ample, hmem, _⟩ := id hample
  have hinit : Behind (TwinRun db orderRef key items) (.init db) :=
    ⟨.init db, .init hids, fun _ => trivial,
      .inl ⟨rfl, fun _ _ hfinished => nomatch hfinished⟩⟩
  obtain ⟨serial, hrelated, hkept⟩ := hinit.run
    (fun _ _ _ hkept hallowed hstep => hkept.step hkey hinactive
      (List.ne_nil_of_mem hmem) hproducts hfeasible hample hallowed hstep)
    hcalls hrun
  obtain ⟨row, hrow, hwinner⟩ := hcommitted
  rw [← hrelated.db] at hrow ⊢
  rcases hkept.phase with hundecided | ⟨first, hdecided⟩
  · rw [hundecided.db, hinactive] at hrow
    exact absurd hrow List.not_mem_nil
  · obtain rfl : first = winner :=
      (hdecided.won.winner row hrow).symm.trans hwinner
    have hresult := hrelated.result twin
    rw [hfinished] at hresult
    exact hdecided.recognised twin hne outcome
      (Serial.Session.eq_finished_of_result? hresult)

/-- A copy is called in an unused session. -/
theorem step_called {state : Interleaved.State} {number : ℕ}
    (request : Request) (hidle : state.sessions number = .idle)
    (hunused : Interleaved.Unused state number) :
    Interleaved.step state (.call number request) =
      some (state.goto number (request.session number)) := by
  simp [Interleaved.step, Interleaved.stepCall, hidle, hunused]

/-- A copy that has been called passes its replay check. -/
theorem step_proceed {state : Interleaved.State} {number : ℕ}
    {call : ReserveCall}
    (hsession : state.sessions number = .reserving call .replayCheck)
    (hitems : call.items ≠ [])
    (hinactive : state.db.activeForKey call.idempotencyKey = []) :
    Interleaved.step state (.advance number) = some (state.goto number
      (.reserving call (.loopHead (sortedItems call.items) .start))) := by
  have hnone : replay? state.db call.idempotencyKey = none := by
    rw [replay?_eq_none_iff]
    exact fun _ => hinactive
  simp [Interleaved.step, Interleaved.stepAdvance, hsession,
    Interleaved.stepReserve, Interleaved.stepReplayCheck, hitems, hnone]

/-- The two copies of the witness schedule. -/
def copyCall (orderRef key : CharField128) (items : List ReserveItem)
    (number : ℕ) : ReserveCall :=
  ⟨number, id, orderRef, items, key⟩

/-- The copy has passed its replay check. -/
def Ready (orderRef key : CharField128) (items : List ReserveItem)
    (number : ℕ) (state : Interleaved.State) : Prop :=
  state.sessions number = .reserving (copyCall orderRef key items number)
    (.loopHead (sortedItems items) .start)

/-- Two copies are called and make their replay checks. -/
def bothCheck (orderRef key : CharField128) (items : List ReserveItem)
    (first second : ℕ) : List Interleaved.Action :=
  [.call first (.reserve orderRef items key id),
    .call second (.reserve orderRef items key id),
    .advance first, .advance second]

theorem bothCheck_calls (orderRef key : CharField128)
    (items : List ReserveItem) (first second : ℕ) :
    ∀ action ∈ bothCheck orderRef key items first second,
      Calls (SameRequest orderRef key items) action := by
  simp [bothCheck, Calls, SameRequest]

/-- Neither check finds anything, and nothing is locked. -/
theorem both_ready (hitems : items ≠ [])
    (hinactive : db.activeForKey key = []) {first second : ℕ}
    (hne : second ≠ first)
    (hfirst : ∀ row ∈ db.reservations, row.id.call ≠ first)
    (hsecond : ∀ row ∈ db.reservations, row.id.call ≠ second) :
    ∃ ready, run Interleaved.step (.init db)
        (bothCheck orderRef key items first second) = some ready ∧
      ready.db = db ∧ Ready orderRef key items first ready ∧
      Ready orderRef key items second ready ∧
      ∀ other, Interleaved.Alone other ready := by
  let request : Request := .reserve orderRef items key id
  let called := (Interleaved.State.init db).goto first (request.session first)
  let both := called.goto second (request.session second)
  let checked := both.goto first (.reserving
    (copyCall orderRef key items first) (.loopHead (sortedItems items) .start))
  let ready := checked.goto second (.reserving
    (copyCall orderRef key items second) (.loopHead (sortedItems items) .start))
  have hcalled : Interleaved.step (.init db) (.call first request) =
      some called := step_called request rfl hfirst
  have hboth : Interleaved.step called (.call second request) = some both :=
    step_called request (Function.update_of_ne hne _ _) hsecond
  have hchecked : Interleaved.step both (.advance first) = some checked := by
    refine step_proceed ?_ hitems hinactive
    exact (Function.update_of_ne hne.symm _ _).trans
      (Function.update_self _ _ _)
  have hready : Interleaved.step checked (.advance second) = some ready := by
    refine step_proceed ?_ hitems hinactive
    exact (Function.update_of_ne hne _ _).trans (Function.update_self _ _ _)
  refine ⟨ready, ?_, rfl, ?_, Function.update_self _ _ _, fun other =>
    ((((Interleaved.Alone.init other db).goto _).goto _).goto _).goto _⟩
  · rw [bothCheck, run_cons, hcalled, Option.bind_some, run_cons, hboth,
      Option.bind_some, run_cons, hchecked, Option.bind_some, run_cons,
      hready]
    rfl
  · exact (Function.update_of_ne hne.symm _ _).trans
      (Function.update_self _ _ _)

/-- A copy that is ready and alone returns what its transaction gives. -/
theorem Ready.returns {state : Interleaved.State} {number : ℕ}
    (hready : Ready orderRef key items number state)
    (halone : Interleaved.Alone number state) :
    ∃ final, Interleaved.AdvancesTo number state final ∧
      Interleaved.Returned state number
        (reserveBody state.db (copyCall orderRef key items number)) final :=
  halone.run_loop hready

/-- Both copies make their replay check, one commits, and then the other
checks the stock. -/
theorem overlapping_copies (orderRef : CharField128) (hitems : items ≠ [])
    (hinactive : db.activeForKey key = []) {first second : ℕ}
    (hne : second ≠ first)
    (hfirst : ∀ row ∈ db.reservations, row.id.call ≠ first)
    (hsecond : ∀ row ∈ db.reservations, row.id.call ≠ second) :
    ∃ schedule final, (∀ action ∈ schedule,
        Calls (SameRequest orderRef key items) action) ∧
      run Interleaved.step (.init db) schedule = some final ∧
      final.db = (reserveBody
        (reserveBody db (copyCall orderRef key items first)).1
        (copyCall orderRef key items second)).1 ∧
      final.sessions second = .finished (.reserved (reserveBody
        (reserveBody db (copyCall orderRef key items first)).1
        (copyCall orderRef key items second)).2) := by
  obtain ⟨ready, hrun, hdb, hreadyFirst, hreadySecond, halone⟩ :=
    @both_ready _ orderRef _ _ hitems hinactive _ _ hne hfirst hsecond
  obtain ⟨won, ⟨winning, hwinning, hwon⟩, hreturned⟩ :=
    hreadyFirst.returns (halone first)
  have hstill : Ready orderRef key items second won := by
    rw [Ready, hreturned.sessions, Function.update_of_ne hne]
    exact hreadySecond
  obtain ⟨final, ⟨losing, hlosing, hlost⟩, hanswered⟩ :=
    hstill.returns (hreturned.unlocked second)
  refine ⟨bothCheck orderRef key items first second ++ (winning ++ losing),
    final, ?_, ?_, ?_, ?_⟩
  · intro action haction
    rcases List.mem_append.mp haction with hcheck | hrest
    · exact bothCheck_calls orderRef key items first second action hcheck
    rcases List.mem_append.mp hrest with hown | hown
    · exact hwinning action hown ▸ trivial
    · exact hlosing action hown ▸ trivial
  · rw [run_append, hrun, Option.bind_some, run_append, hwon,
      Option.bind_some, hlost]
  · rw [hanswered.db, hreturned.db, hdb]
  · rw [hanswered.sessions, Function.update_self, hreturned.db, hdb]

/-- No verdict reads like the word to a duplicate. -/
theorem verdict_ne_duplicate (available? : Option ℤ) (item : ReserveItem) :
    verdict available? item ≠
      ⟨item.productId, false, "duplicate reservation in progress"⟩ := by
  unfold verdict
  split_ifs
  · simp
  cases available? with
  | none => simp
  | some available =>
      by_cases hshort : available < item.quantity
      · simpa [hshort] using insufficientStock_ne (by decide) _ _
      · simp [hshort]

/-- An answer of shortages is no recognition. -/
theorem short_not_recognised {after : InventoryDb} {winner : ℕ}
    (hwon : Won db key items winner after) (hitems : items ≠ [])
    (hproducts : (items.map ReserveItem.productId).Nodup)
    (hpositive : ∀ item ∈ items, 0 < item.quantity)
    (hscarce : ¬ Ample db items) (twin : ℕ) :
    ¬ Recognised after key items
      (reserveBody after (copyCall orderRef key items twin)).2 := by
  rw [@Won.short _ _ _ (copyCall orderRef key items twin) hwon hitems
    hproducts hpositive hscarce]
  rintro (hreplay | htold)
  · exact Bool.false_ne_true (replay?_success hreplay)
  · have hresults := congrArg ReservationOutcome.results htold
    obtain ⟨item, hitem⟩ := List.exists_mem_of_ne_nil items hitems
    have hsorted := (perm_sortedItems items).mem_iff.mpr hitem
    exact verdict_ne_duplicate _ item
      (List.map_inj_left.mp hresults item hsorted)

/-- A concurrent duplicate is always recognised when nobody can win, or some
line's product covers the line twice. -/
theorem alwaysRecognised_iff
    (hids : (db.reservations.map StockReservation.id).Nodup)
    (hkey : key ≠ .empty) (hinactive : db.activeForKey key = [])
    (hproducts : (items.map ReserveItem.productId).Nodup)
    (hpositive : ∀ item ∈ items, 0 < item.quantity) :
    AlwaysRecognised db orderRef key items ↔
      items = [] ∨ ¬ Feasible db items ∨ Ample db items := by
  constructor
  · intro halways
    by_contra hcondition
    obtain ⟨hitems, hfeasible, hscarce⟩ : items ≠ [] ∧ Feasible db items ∧
        ¬ Ample db items := by
      simpa using hcondition
    have hsuccess : (reserveBody db
        (copyCall orderRef key items db.nextCall)).2.success = true :=
      reserveBody_of_feasible hfeasible fun _ => ⟨hproducts, fun item _ =>
        hasActive_eq_false_of_activeForKey hinactive item.productId⟩
    have hwon := @won_of_success _ (copyCall orderRef key items db.nextCall)
      hinactive hitems hsuccess
    obtain ⟨schedule, final, hcalls, hrun, hdb, hanswer⟩ :=
      overlapping_copies orderRef hitems hinactive
        (Nat.succ_ne_self db.nextCall) db.call_ne_nextCall
        fun row hrow => (Nat.lt_succ_of_lt (db.call_lt_nextCall row hrow)).ne
    have hrefused := @Won.short _ _ _
      (copyCall orderRef key items (db.nextCall + 1)) hwon hitems hproducts
      hpositive hscarce
    rw [reserveBody_refused (congrArg _ hrefused)] at hdb
    obtain ⟨row, hrow⟩ := List.exists_mem_of_ne_nil _ hwon.active
    have hrecognised := halways schedule final hcalls hrun db.nextCall
      ⟨row, hdb ▸ hrow, hwon.winner row hrow⟩ (db.nextCall + 1)
      (Nat.succ_ne_self _) _ hanswer
    rw [hdb] at hrecognised
    exact short_not_recognised hwon hitems hproducts hpositive hscarce _
      hrecognised
  · rintro (hempty | hinfeasible | hample)
    · exact alwaysRecognised_of_never hids hinactive (.inl hempty)
    · exact alwaysRecognised_of_never hids hinactive (.inr hinfeasible)
    · by_cases hfeasible : Feasible db items
      · exact alwaysRecognised_of_ample hids hkey hinactive hproducts
          hfeasible hample
      · exact alwaysRecognised_of_never hids hinactive (.inr hfeasible)

end Runs

/-- All ten gizmos are asked for by two copies of one request.  The second
one passes its replay check before the first one commits. -/
def lastGizmosSchedule : List Interleaved.Action :=
  [.call 0 (.reserve (.ofText "order-123") [⟨3, 10⟩] (.ofText "order-123") id),
    .call 1 (.reserve (.ofText "order-123") [⟨3, 10⟩] (.ofText "order-123") id),
    .advance 0, .advance 1, .advance 0, .advance 0, .advance 0, .advance 0,
    .advance 1, .advance 1]

theorem lastGizmos_short :
    ¬ AlwaysRecognised seededDb (.ofText "order-123") (.ofText "order-123")
      [⟨3, 10⟩] := by
  intro halways
  have hcalls : ∀ action ∈ lastGizmosSchedule,
      Calls (SameRequest (.ofText "order-123") (.ofText "order-123")
        [⟨3, 10⟩]) action := by
    simp [lastGizmosSchedule, Calls, SameRequest]
  obtain ⟨final, hrun, hanswer, hcommitted⟩ : ∃ final,
      run Interleaved.step (.init seededDb) lastGizmosSchedule = some final ∧
        final.sessions 1 = .finished (.reserved ⟨false,
          [⟨3, false, "insufficient stock: requested 10, available 0"⟩]⟩) ∧
        ∃ row ∈ final.db.activeForKey (.ofText "order-123"),
          row.id.call = 0 :=
    ⟨_, rfl, rfl, by decide⟩
  rcases halways lastGizmosSchedule final hcalls hrun 0 hcommitted 1
    (by decide) _ hanswer with hreplay | htold
  · exact Bool.false_ne_true (replay?_success hreplay)
  · exact absurd htold (by simp [ToldDuplicate, sortedItems])

/-- With widgets to spare, a copy that asks for the last gizmos too is told
that it is a duplicate. -/
theorem alwaysRecognised_widgets :
    AlwaysRecognised seededDb (.ofText "order-123") (.ofText "order-123")
      [⟨3, 10⟩, ⟨1, 2⟩] :=
  (alwaysRecognised_iff (by decide) (by decide) (by decide) (by decide)
    (by decide)).mpr (.inr (.inr ⟨⟨1, 2⟩, by decide, 100, rfl, by decide⟩))

end OrderFlow.Inventory
