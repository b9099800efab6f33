import OrderFlow.Inventory.Queries
import OrderFlow.Inventory.SerialInvariants
import OrderFlow.Inventory.Simulation

/-!
# Concurrent calls, one indivisible body each

The system a caller may reason about: a reserve is its replay check and then
its body, a release is `release_stock` run alone.  It differs from the serial
system in the release only, which here has no snapshot of its own.  As long as
no reserve of an order runs beside a release of that order, the two cannot be
told apart.
-/

namespace OrderFlow.Inventory.Atomic

open OrderFlow
open OrderFlow.TransitionSystem
open OrderFlow.Inventory.Interleaved (Request Result Selects)
open OrderFlow.Inventory.Refinement (Related Calls SerialCalls Behind)

/-- The atomic system takes the steps of the serial one, except that a release
is one step. -/
def step (state : Serial.State) : Serial.Action → Option Serial.State
  | .select _ _ => none
  | .body number =>
      match state.sessions number with
      | .reserving call true =>
          some (state.finish number (reserveBody state.db call).1
            (.reserved (reserveBody state.db call).2))
      | .releasing orderRef _ =>
          some (state.finish number (releaseStock state.db orderRef).1
            (.released (releaseStock state.db orderRef).2))
      | _ => none
  | .call number request => Serial.step state (.call number request)
  | .check number => Serial.step state (.check number)
  | .abort number => Serial.step state (.abort number)

/-- The events of the serial system that the atomic one sees. -/
def label : Serial.Action → Option Serial.Action
  | .select _ _ => none
  | action => some action

/-- No reserve of an order is in progress beside a release of that order. -/
def NoOverlap (state : Interleaved.State) : Prop :=
  ∀ reserver call phase releaser orderRef releasePhase,
    state.sessions reserver = .reserving call phase →
      state.sessions releaser = .releasing orderRef releasePhase →
        call.orderRef ≠ orderRef

/-- The same for the serial system. -/
def SerialNoOverlap (state : Serial.State) : Prop :=
  ∀ reserver call checked releaser orderRef snapshot,
    state.sessions reserver = .reserving call checked →
      state.sessions releaser = .releasing orderRef snapshot →
        call.orderRef ≠ orderRef

theorem NoOverlap.serial {state : Interleaved.State} {serial : Serial.State}
    (hrelated : Related state serial) (hseparate : NoOverlap state) :
    SerialNoOverlap serial := by
  intro reserver call checked releaser orderRef snapshot hreserver hreleaser
  have hfirst := hrelated.sessions reserver
  have hsecond := hrelated.sessions releaser
  rw [hreserver] at hfirst
  rw [hreleaser] at hsecond
  generalize hsession : state.sessions reserver = session at hfirst
  generalize hother : state.sessions releaser = other at hsecond
  cases hfirst with
  | reserving =>
      cases hsecond with
      | releasing => exact hseparate _ _ _ _ _ _ hsession hother

/-- A session without the snapshot. -/
def forgetSnapshot : Serial.Session → Serial.Session
  | .releasing orderRef _ => .releasing orderRef none
  | session => session

/-- The serial and the atomic state: the same but for snapshots, and a
snapshot still names every RESERVED row of its order. -/
structure AtomicRelated (serial atomic : Serial.State) : Prop where
  db : atomic.db = serial.db
  sessions : ∀ number,
    atomic.sessions number = forgetSnapshot (serial.sessions number)
  fresh : Serial.Fresh serial
  complete : ∀ number orderRef ids,
    serial.sessions number = .releasing orderRef (some ids) →
      ∀ row ∈ serial.db.reservedForOrder orderRef, row.id ∈ ids

theorem AtomicRelated.init {db : InventoryDb}
    (hids : (db.reservations.map StockReservation.id).Nodup) :
    AtomicRelated (.init db) (.init db) where
  db := rfl
  sessions _ := rfl
  fresh := .init hids
  complete _ _ _ hsession :=
    absurd hsession Serial.Session.noConfusion

theorem AtomicRelated.session {serial atomic : Serial.State}
    (hrelated : AtomicRelated serial atomic) {number : ℕ}
    {session : Serial.Session} (hsession : serial.sessions number = session) :
    atomic.sessions number = forgetSnapshot session :=
  (hrelated.sessions number).trans (congrArg forgetSnapshot hsession)

section Steps

variable {serial atomic : Serial.State} {number : ℕ}

theorem AtomicRelated.goto (hrelated : AtomicRelated serial atomic)
    {next : Serial.Session} (hfresh : Serial.Fresh (serial.goto number next))
    (hcomplete : ∀ orderRef ids, next = .releasing orderRef (some ids) →
      ∀ row ∈ serial.db.reservedForOrder orderRef, row.id ∈ ids) :
    AtomicRelated (serial.goto number next)
      (atomic.goto number (forgetSnapshot next)) where
  db := hrelated.db
  sessions other := by
    by_cases hsame : other = number
    · subst hsame
      simp [Serial.State.goto]
    · simpa [Serial.State.goto, hsame] using hrelated.sessions other
  fresh := hfresh
  complete other orderRef ids hsession := by
    by_cases hsame : other = number
    · subst hsame
      exact hcomplete orderRef ids (by simpa [Serial.State.goto] using hsession)
    · exact hrelated.complete other orderRef ids
        (by simpa [Serial.State.goto, hsame] using hsession)

/-- A call ends; the orders being released have no new RESERVED row. -/
theorem AtomicRelated.finish (hrelated : AtomicRelated serial atomic)
    {db : InventoryDb} {result : Result}
    (hfresh : Serial.Fresh (serial.finish number db result))
    (hreserved : ∀ other orderRef snapshot,
      serial.sessions other = .releasing orderRef snapshot →
        ∀ row ∈ db.reservedForOrder orderRef,
          ∃ before ∈ serial.db.reservedForOrder orderRef,
            before.id = row.id) :
    AtomicRelated (serial.finish number db result)
      (atomic.finish number db result) where
  db := rfl
  sessions other := by
    by_cases hsame : other = number
    · subst hsame
      simp [Serial.State.finish, forgetSnapshot]
    · simpa [Serial.State.finish, hsame] using hrelated.sessions other
  fresh := hfresh
  complete other orderRef ids hsession row hrow := by
    by_cases hsame : other = number
    · subst hsame
      simp [Serial.State.finish] at hsession
    · have hbefore :
          serial.sessions other = .releasing orderRef (some ids) := by
        simpa [Serial.State.finish, hsame] using hsession
      obtain ⟨before, hmem, hid⟩ :=
        hreserved other orderRef (some ids) hbefore row hrow
      rw [← hid]
      exact hrelated.complete other orderRef ids hbefore before hmem

theorem AtomicRelated.rollback (hrelated : AtomicRelated serial atomic)
    {result : Result}
    (hfresh : Serial.Fresh (serial.finish number serial.db result)) :
    AtomicRelated (serial.finish number serial.db result)
      (atomic.finish number atomic.db result) := by
  rw [hrelated.db]
  exact hrelated.finish hfresh fun _ _ _ _ row hrow => ⟨row, hrow, rfl⟩

end Steps

/-! ## The release of a complete snapshot is `release_stock` -/

theorem currentRows_perm {db : InventoryDb}
    (hids : (db.reservations.map StockReservation.id).Nodup)
    {orderRef : CharField128} {ids : List RowId} (hnodup : ids.Nodup)
    (hcomplete : ∀ row ∈ db.reservedForOrder orderRef, row.id ∈ ids) :
    (Serial.currentRows db orderRef ids).Perm
      (orderByProductId (db.reservedForOrder orderRef)) := by
  have hcurrent : (Serial.currentRows db orderRef ids).Nodup :=
    (Serial.currentRows_ids_nodup orderRef hnodup).of_map _
  have hreserved : (db.reservedForOrder orderRef).Nodup :=
    (hids.of_map _).filter _
  refine List.Perm.trans ?_ (perm_orderByProductId _).symm
  rw [List.perm_ext_iff_of_nodup hcurrent hreserved]
  intro row
  rw [Serial.mem_currentRows_iff hids]
  simp only [InventoryDb.reservedForOrder, List.mem_filter,
    decide_eq_true_eq]
  constructor
  · rintro ⟨hrow, _, horder, hstatus⟩
    exact ⟨hrow, horder, hstatus⟩
  · rintro ⟨hrow, horder, hstatus⟩
    refine ⟨hrow, hcomplete row ?_, horder, hstatus⟩
    simp [InventoryDb.reservedForOrder, hrow, horder, hstatus]

/-- The rows a release works through are seen in no answer and no table. -/
theorem releaseBody_perm (db : InventoryDb)
    {first second : List StockReservation} (hperm : first.Perm second) :
    releaseBody db first = releaseBody db second := by
  have hempty : decide (first ≠ []) = decide (second ≠ []) := by
    rw [decide_eq_decide, not_iff_not]
    constructor
    · rintro rfl
      exact hperm.symm.eq_nil
    · rintro rfl
      exact hperm.eq_nil
  rw [releaseBody, releaseBody, commit_releaseLoop_perm db hperm, hempty,
    hperm.length_eq]

theorem releaseBody_eq_releaseStock {db : InventoryDb}
    (hids : (db.reservations.map StockReservation.id).Nodup)
    {orderRef : CharField128} {ids : List RowId} (hnodup : ids.Nodup)
    (hcomplete : ∀ row ∈ db.reservedForOrder orderRef, row.id ∈ ids) :
    releaseBody db (Serial.currentRows db orderRef ids) =
      releaseStock db orderRef :=
  releaseBody_perm db (currentRows_perm hids hnodup hcomplete)

/-! ## The simulation -/

/-- Under `SerialNoOverlap` the atomic system simulates the serial one. -/
theorem simulation : ForwardSimulation Serial.step step (fun _ => label)
    (fun state _ => SerialNoOverlap state) AtomicRelated where
  internal serial action next atomic hrelated _ hstep hlabel := by
    have hfresh := hrelated.fresh.step hstep
    cases Serial.step_cases hstep with
    | select number orderRef rows hsession hselects =>
        have hsame : atomic.goto number (.releasing orderRef none) =
            atomic := by
          have hself : atomic.sessions number = .releasing orderRef none :=
            hrelated.session hsession
          rw [← hself, Serial.State.goto, Function.update_eq_self]
        rw [← hsame]
        apply hrelated.goto hfresh
        intro other ids hids row hrow
        obtain ⟨rfl, hrows⟩ := Serial.Session.releasing.inj hids
        rw [← Option.some.inj hrows]
        exact List.mem_map_of_mem (hselects.1.mem_iff.mpr hrow)
    | _ => exact absurd hlabel (by simp [label])
  matched serial action next atomic shown hrelated hseparate hstep hlabel := by
    have hfresh := hrelated.fresh.step hstep
    cases Serial.step_cases hstep with
    | call number request hidle hunused =>
        have hself : atomic.sessions number = .idle :=
          hrelated.session hidle
        have hforget : forgetSnapshot (Serial.session number request) =
            Serial.session number request := by
          cases request <;> rfl
        obtain rfl := Option.some.inj hlabel
        refine ⟨atomic.goto number (Serial.session number request), ?_, ?_⟩
        · change Serial.step atomic (.call number request) = _
          simp only [Serial.step, hself, hrelated.db]
          exact if_pos hunused
        · have hgoto := hrelated.goto hfresh fun orderRef ids hsession => by
            cases request <;> simp [Serial.session] at hsession
          rwa [hforget] at hgoto
    | answer number call outcome hsession houtcome =>
        have hself : atomic.sessions number = .reserving call false :=
          hrelated.session hsession
        obtain rfl := Option.some.inj hlabel
        refine ⟨atomic.finish number atomic.db (.reserved outcome), ?_,
          hrelated.rollback hfresh⟩
        rcases houtcome with ⟨rfl, hitems⟩ | ⟨hitems, hreplay⟩
        · simp [step, Serial.step, hself, Serial.stepCheck, hitems]
        · rw [← hrelated.db] at hreplay
          simp [step, Serial.step, hself, Serial.stepCheck, hitems, hreplay]
    | proceed number call hsession hitems hreplay =>
        have hself : atomic.sessions number = .reserving call false :=
          hrelated.session hsession
        obtain rfl := Option.some.inj hlabel
        refine ⟨atomic.goto number (.reserving call true), ?_,
          hrelated.goto hfresh fun _ _ hreleasing =>
            absurd hreleasing Serial.Session.noConfusion⟩
        rw [← hrelated.db] at hreplay
        simp [step, Serial.step, hself, Serial.stepCheck, hitems, hreplay]
    | select number orderRef rows hsession hselects =>
        exact absurd hlabel (by simp [label])
    | reserve number call hsession =>
        have hself : atomic.sessions number = .reserving call true :=
          hrelated.session hsession
        obtain rfl := Option.some.inj hlabel
        refine ⟨atomic.finish number (reserveBody serial.db call).1
          (.reserved (reserveBody serial.db call).2),
          by simp [step, hself, hrelated.db], hrelated.finish hfresh ?_⟩
        intro other orderRef snapshot hreleasing row hrow
        rw [reservedForOrder_reserveBody_other
          (hseparate number call true other orderRef snapshot hsession
            hreleasing)] at hrow
        exact ⟨row, hrow, rfl⟩
    | release number orderRef ids hsession =>
        have hself : atomic.sessions number = .releasing orderRef none :=
          hrelated.session hsession
        have hknown := hrelated.fresh.sessions number
        rw [hsession] at hknown
        have hbody := releaseBody_eq_releaseStock hrelated.fresh.ids_nodup
          hknown.1 (hrelated.complete number orderRef ids hsession)
        obtain rfl := Option.some.inj hlabel
        refine ⟨atomic.finish number (releaseStock serial.db orderRef).1
          (.released (releaseStock serial.db orderRef).2),
          by simp [step, hself, hrelated.db], ?_⟩
        rw [← hbody]
        apply hrelated.finish hfresh
        intro other otherRef snapshot _ row hrow
        rw [reservedForOrder_releaseBody] at hrow
        exact ⟨row, List.mem_of_mem_filter hrow, rfl⟩
    | abort number hopen =>
        obtain rfl := Option.some.inj hlabel
        refine ⟨atomic.finish number atomic.db .raised, ?_,
          hrelated.rollback hfresh⟩
        rcases hopen with
          ⟨call, checked, hsession⟩ | ⟨orderRef, snapshot, hsession⟩
        · have hself : atomic.sessions number = .reserving call checked :=
          hrelated.session hsession
          simp [step, Serial.step, hself]
        · have hself : atomic.sessions number = .releasing orderRef none :=
          hrelated.session hsession
          simp [step, Serial.step, hself]

theorem AtomicRelated.result {serial atomic : Serial.State}
    (hrelated : AtomicRelated serial atomic) (number : ℕ) :
    (atomic.sessions number).result? = (serial.sessions number).result? := by
  rw [hrelated.sessions]
  cases serial.sessions number <;> rfl

/-! ## Orders that are only reserved and orders that are only released -/

end OrderFlow.Inventory.Atomic
