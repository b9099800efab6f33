import OrderFlow.Core.Regroup
import OrderFlow.Core.WaitFor
import OrderFlow.Inventory.Simulation
import OrderFlow.Inventory.Statements
import Mathlib.Data.Prod.Lex
import Mathlib.Data.Nat.Pairing
import Mathlib.Data.Int.Order.Basic

/-!
# Reserve and release never deadlock

All locks are taken in one order: reservation rows by product and position,
then product rows by product.  An entry of the partial unique index is only
ever touched under the lock of its product, so nobody waits for one.
-/

namespace OrderFlow.Inventory.LockOrder

open OrderFlow
open OrderFlow.TransitionSystem
open OrderFlow.Inventory.Interleaved
open OrderFlow.Inventory.Refinement

/-! ## The wait-for graph -/

/-- What a statement can have to wait for. -/
inductive Resource where
  | row (id : RowId)
  | product (productId : ℤ)
  | index (key : CharField128) (productId : ℤ)
  deriving DecidableEq

/-- The resource the next statement of a session needs. -/
def needs (state : State) (number : ℕ) : Option Resource :=
  match state.sessions number with
  | .reserving _ (.loopHead (item :: _) loop) =>
      if item.quantity ≤ 0 ∨
          loop.tx.available? state.db item.productId = none then none
      else some (.product item.productId)
  | .reserving call (.createReservation item _ _) =>
      if call.idempotencyKey = .empty then none
      else some (.index call.idempotencyKey item.productId)
  | .releasing _ (.lockRows (id :: _) _) => some (.row id)
  | .releasing _ (.addBack (row :: _) _ _) =>
      if state.db.available? row.productId = none then none
      else some (.product row.productId)
  | _ => none

/-- The resources a session holds until its transaction ends. -/
def holds (state : State) (number : ℕ) : Resource → Prop
  | .row id => state.rowLocks.Holds number id
  | .product productId => state.productLocks.Holds number productId
  | .index key productId => state.indexLocks.Holds number (key, productId)

theorem grantable_iff {Item : Type*} (locks : LockTable Item ℕ) (number : ℕ)
    (item : Item) :
    locks.Grantable number item ↔
      ∀ other, locks.Holds other item → other = number := by
  constructor
  · rintro (hfree | hown) other hother
    · exact absurd (hother.symm.trans hfree) (Option.some_ne_none other)
    · exact Option.some.inj (hother.symm.trans hown)
  · intro honly
    cases hlock : locks item with
    | none => exact .inl hlock
    | some other => exact .inr (by rw [hlock, honly other hlock])

@[simp]
theorem holds_goto (state : State) (number : ℕ) (next : Session) :
    holds (state.goto number next) = holds state := by
  funext owner resource
  cases resource <;> rfl

/-- The session waits for nobody. -/
def Unblocked (state : State) (number : ℕ) : Prop :=
  ∀ owner, ¬ WaitsFor (needs state) (holds state) number owner

theorem unblocked_of_needs_none {state : State} {number : ℕ}
    (hneeds : needs state number = none) : Unblocked state number := by
  rintro owner ⟨resource, hneeded, _⟩
  exact absurd (hneeded.symm.trans hneeds) (Option.some_ne_none resource)

theorem unblocked_iff {state : State} {number : ℕ} {resource : Resource}
    (hneeds : needs state number = some resource) :
    Unblocked state number ↔
      ∀ owner, holds state owner resource → owner = number := by
  constructor
  · intro hunblocked owner hholds
    by_contra hother
    exact hunblocked owner ⟨resource, hneeds, hholds, hother⟩
  · rintro honly owner ⟨needed, hneeded, hholds, hother⟩
    obtain rfl := Option.some.inj (hneeds.symm.trans hneeded)
    exact hother (honly owner hholds)

section Enabled

variable {state : State} {number : ℕ}

theorem reserve_enabled_iff {call : ReserveCall} {phase : ReservePhase}
    (hsession : state.sessions number = .reserving call phase) :
    stepReserve state number call phase ≠ none ↔ Unblocked state number := by
  have hfree (hneeds : needs state number = none)
      (henabled : stepReserve state number call phase ≠ none) :
      stepReserve state number call phase ≠ none ↔ Unblocked state number :=
    iff_of_true henabled (unblocked_of_needs_none hneeds)
  cases phase with
  | replayCheck => exact hfree (by simp [needs, hsession]) (Option.some_ne_none _)
  | saveProduct item available todo loop =>
      exact hfree (by simp [needs, hsession]) (Option.some_ne_none _)
  | loopHead todo loop =>
      cases todo with
      | nil => exact hfree (by simp [needs, hsession]) (Option.some_ne_none _)
      | cons item todo =>
          by_cases hquantity : item.quantity ≤ 0
          · exact hfree (by simp [needs, hsession, hquantity])
              (by simp [stepReserve, stepLoopHead, hquantity])
          cases hread : loop.tx.available? state.db item.productId with
          | none =>
              exact hfree (by simp [needs, hsession, hread])
                (by simp [stepReserve, stepLoopHead, hquantity, hread])
          | some available =>
              have hneeds : needs state number =
                  some (.product item.productId) := by
                simp [needs, hsession, hquantity, hread]
              rw [unblocked_iff hneeds]
              change _ ↔ ∀ owner,
                state.productLocks.Holds owner item.productId → _
              rw [← grantable_iff]
              simp [stepReserve, stepLoopHead, hquantity, hread]
  | createReservation item todo loop =>
      by_cases hkey : call.idempotencyKey = .empty
      · apply hfree (by simp [needs, hsession, hkey])
        simp only [stepReserve, stepCreateReservation, hkey, true_or, if_true]
        cases loop.createReservation state.db call item <;> simp
      · have hneeds : needs state number =
            some (.index call.idempotencyKey item.productId) := by
          simp [needs, hsession, hkey]
        rw [unblocked_iff hneeds]
        change _ ↔ ∀ owner, state.indexLocks.Holds owner
          (call.idempotencyKey, item.productId) → _
        rw [← grantable_iff]
        simp only [stepReserve, stepCreateReservation, hkey, false_or]
        cases loop.createReservation state.db call item <;> simp

theorem release_enabled_iff {orderRef : CharField128} {phase : ReleasePhase}
    (hsession : state.sessions number = .releasing orderRef phase)
    (hselect : phase ≠ .select) :
    stepRelease state number orderRef phase ≠ none ↔
      Unblocked state number := by
  have hfree (hneeds : needs state number = none)
      (henabled : stepRelease state number orderRef phase ≠ none) :
      stepRelease state number orderRef phase ≠ none ↔ Unblocked state number :=
    iff_of_true henabled (unblocked_of_needs_none hneeds)
  cases phase with
  | select => exact absurd rfl hselect
  | saveStatus row todo reservations tx =>
      exact hfree (by simp [needs, hsession]) (Option.some_ne_none _)
  | lockRows todo locked =>
      cases todo with
      | nil => exact hfree (by simp [needs, hsession]) (Option.some_ne_none _)
      | cons id todo =>
          have hneeds : needs state number = some (.row id) := by
            simp [needs, hsession]
          rw [unblocked_iff hneeds]
          change _ ↔ ∀ owner, state.rowLocks.Holds owner id → _
          rw [← grantable_iff]
          simp only [stepRelease, stepLockRows]
          cases state.db.stillReserved? orderRef id <;> simp
  | addBack todo reservations tx =>
      cases todo with
      | nil => exact hfree (by simp [needs, hsession]) (Option.some_ne_none _)
      | cons row todo =>
          by_cases hmissing : state.db.available? row.productId = none
          · exact hfree (by simp [needs, hsession, hmissing])
              (by simp [stepRelease, stepAddBack, hmissing])
          · have hneeds : needs state number =
                some (.product row.productId) := by
              simp [needs, hsession, hmissing]
            rw [unblocked_iff hneeds]
            change _ ↔ ∀ owner,
              state.productLocks.Holds owner row.productId → _
            rw [← grantable_iff]
            simp [stepRelease, stepAddBack, hmissing]

/-- The graph is the waiting of the model: the next statement of an open
session is enabled exactly when the session waits for nobody. -/
theorem advance_enabled_iff
    (hopen : (∃ call phase,
        state.sessions number = .reserving call phase) ∨
      ∃ orderRef phase, state.sessions number = .releasing orderRef phase ∧
        phase ≠ .select) :
    step state (.advance number) ≠ none ↔ Unblocked state number := by
  rw [step, stepAdvance]
  rcases hopen with ⟨call, phase, hsession⟩ |
    ⟨orderRef, phase, hsession, hselect⟩
  · simp only [hsession]
    exact reserve_enabled_iff hsession
  · simp only [hsession]
    exact release_enabled_iff hsession hselect

end Enabled

/-! ## The lock order -/

/-- The product of a reservation row, which never changes. -/
def productOf (db : InventoryDb) (id : RowId) : ℤ :=
  ((db.reservations.find? fun row => row.id = id).map
    StockReservation.productId).getD 0

/-- Rows come before products; rows are taken by product and then by
`position`, products by their number. -/
def rank (db : InventoryDb) (position : RowId → ℕ) :
    Resource → ℕ ×ₗ ℤ ×ₗ ℕ
  | .row id => toLex (0, toLex (productOf db id, position id))
  | .product productId => toLex (1, toLex (productId, 0))
  | .index _ productId => toLex (2, toLex (productId, 0))

section Rank

variable {db : InventoryDb} {position : RowId → ℕ}

theorem rank_row_le_iff (first second : RowId) :
    rank db position (.row first) ≤ rank db position (.row second) ↔
      productOf db first < productOf db second ∨
        productOf db first = productOf db second ∧
          position first ≤ position second := by
  simp [rank, Prod.Lex.toLex_le_toLex]

theorem rank_product_le_iff (first second : ℤ) :
    rank db position (.product first) ≤ rank db position (.product second) ↔
      first ≤ second := by
  simpa [rank, Prod.Lex.toLex_le_toLex] using le_iff_lt_or_eq.symm

theorem rank_row_le_product (id : RowId) (productId : ℤ) :
    rank db position (.row id) ≤ rank db position (.product productId) := by
  simp [rank, Prod.Lex.toLex_le_toLex]

/-- Only entries of the index may share a rank. -/
theorem rank_injective (hposition : Function.Injective position)
    {first second : Resource}
    (hfirst : ∀ key productId, first ≠ .index key productId)
    (hsame : rank db position first = rank db position second) :
    first = second := by
  cases first with
  | index key productId => exact absurd rfl (hfirst key productId)
  | row id => cases second <;> simp_all [rank, hposition.eq_iff]
  | product productId => cases second <;> simp_all [rank]

end Rank

/-! ## Locks still to be taken -/

def itemProducts (items : List ReserveItem) : List Resource :=
  items.map fun item => .product item.productId

def rowProducts (rows : List StockReservation) : List Resource :=
  rows.map fun row => .product row.productId

/-- The row and product locks a session may still take, in this order. -/
def pending (db : InventoryDb) : Session → List Resource
  | .reserving call .replayCheck => itemProducts (sortedItems call.items)
  | .reserving _ (.loopHead todo _) => itemProducts todo
  | .reserving _ (.saveProduct item _ todo _) => itemProducts (item :: todo)
  | .reserving _ (.createReservation item todo _) =>
      itemProducts (item :: todo)
  | .releasing _ (.lockRows todo locked) =>
      todo.map .row ++ (rowProducts locked ++
        todo.map fun id => .product (productOf db id))
  | .releasing _ (.addBack todo _ _) => rowProducts todo
  | .releasing _ (.saveStatus row todo _ _) => rowProducts (row :: todo)
  | _ => []

/-- A session that cannot hold a lock yet. -/
def Bare : Session → Prop
  | .idle => True
  | .releasing _ .select => True
  | _ => False

/-- A session takes its locks in increasing order. -/
structure Ordered (db : InventoryDb) (position : RowId → ℕ)
    (held : Resource → Prop) (session : Session) : Prop where
  sorted : (pending db session).Pairwise fun first second =>
    rank db position first ≤ rank db position second
  above : ∀ resource, held resource →
    (∀ key productId, resource ≠ .index key productId) →
      ∀ next ∈ pending db session,
        rank db position resource ≤ rank db position next
  known : ∀ id, .row id ∈ pending db session →
    id ∈ db.reservations.map StockReservation.id
  bare : Bare session → ∀ resource, ¬ held resource

/-- The lock order in a whole state.  An uncommitted index entry is covered by
the lock of its product. -/
structure LockOrdered (position : RowId → ℕ) (state : State) : Prop where
  sessions : ∀ number, Ordered state.db position (holds state number)
    (state.sessions number)
  known : ∀ number id, holds state number (.row id) →
    id ∈ state.db.reservations.map StockReservation.id
  guarded : ∀ number key productId,
    holds state number (.index key productId) →
      state.db.available? productId ≠ none →
        holds state number (.product productId)

theorem LockOrdered.init (position : RowId → ℕ) (db : InventoryDb) :
    LockOrdered position (.init db) := by
  have hfree : ∀ number resource, ¬ holds (.init db) number resource := by
    intro number resource hheld
    cases resource <;> exact Option.some_ne_none number hheld.symm
  constructor
  · exact fun number => ⟨.nil, fun resource hheld =>
      absurd hheld (hfree number resource), nofun,
      fun _ => hfree number⟩
  · exact fun number id hheld => absurd hheld (hfree number _)
  · exact fun number key productId hheld => absurd hheld (hfree number _)

/-- Going on to a statement after which fewer locks are to come, with at most
one lock more. -/
theorem Ordered.move {db : InventoryDb} {position : RowId → ℕ}
    {held more : Resource → Prop} {session next : Session}
    (hordered : Ordered db position held session)
    (hfewer : (pending db next).Sublist (pending db session))
    (hbare : ¬ Bare next) {taken : Option Resource}
    (hmore : ∀ resource, more resource →
      held resource ∨ taken = some resource)
    (htaken : ∀ resource, taken = some resource →
      (∀ key productId, resource ≠ .index key productId) →
        ∀ later ∈ pending db next,
          rank db position resource ≤ rank db position later) :
    Ordered db position more next where
  sorted := hordered.sorted.sublist hfewer
  above resource hheld hindex later hlater := by
    rcases hmore resource hheld with hbefore | hnow
    · exact hordered.above resource hbefore hindex later
        (hfewer.subset hlater)
    · exact htaken resource hnow hindex later hlater
  known id hid := hordered.known id (hfewer.subset hid)
  bare hnext := absurd hnext hbare

/-! ## Tables that only grow -/

/-- The rows known before keep their product, and no product comes or goes. -/
structure Grows (db after : InventoryDb) : Prop where
  ids : ∀ id ∈ db.reservations.map StockReservation.id,
    id ∈ after.reservations.map StockReservation.id
  products : ∀ id ∈ db.reservations.map StockReservation.id,
    productOf after id = productOf db id
  missing : ∀ productId,
    after.available? productId = none ↔ db.available? productId = none

theorem Grows.refl (db : InventoryDb) : Grows db db :=
  ⟨fun _ hid => hid, fun _ _ => rfl, fun _ => Iff.rfl⟩

theorem Grows.commit (db : InventoryDb) (tx : Tx) :
    Grows db (db.commit tx) where
  ids id hid := by
    obtain ⟨row, hrow, rfl⟩ := List.mem_map.mp hid
    refine List.mem_map.mpr ⟨tx.applyToRow row, ?_, Tx.applyToRow_id tx row⟩
    exact List.mem_append_left _ (List.mem_map_of_mem hrow)
  products id hid := by
    obtain ⟨row, hrow, rfl⟩ := List.mem_map.mp hid
    have hfound : ∃ found, db.reservations.find?
        (fun other => decide (other.id = row.id)) = some found :=
      Option.isSome_iff_exists.mp
        (List.find?_isSome.mpr ⟨row, hrow, decide_eq_true rfl⟩)
    obtain ⟨found, hfound⟩ := hfound
    have hfilter : (fun other => decide (other.id = row.id)) ∘ tx.applyToRow =
        fun other => decide (other.id = row.id) := by
      funext other
      rw [Function.comp_apply, Tx.applyToRow_id]
    rw [productOf, productOf, InventoryDb.commit, List.find?_append,
      List.find?_map, hfilter, hfound]
    simp
  missing productId := by
    rw [InventoryDb.available?_commit, Tx.available?_eq_none_iff]

section Grow

variable {db after : InventoryDb} {position : RowId → ℕ}

theorem Grows.rank_eq (hgrows : Grows db after) {resource : Resource}
    (hknown : ∀ id, resource = .row id →
      id ∈ db.reservations.map StockReservation.id) :
    rank after position resource = rank db position resource := by
  cases resource with
  | row id => rw [rank, rank, hgrows.products id (hknown id rfl)]
  | product productId => rfl
  | index key productId => rfl

theorem Grows.pending_eq (hgrows : Grows db after) {session : Session}
    (hknown : ∀ id, .row id ∈ pending db session →
      id ∈ db.reservations.map StockReservation.id) :
    pending after session = pending db session := by
  unfold pending at hknown ⊢
  split <;> try rfl
  rename_i todo locked
  congr 2
  apply List.map_congr_left
  intro id hid
  rw [hgrows.products id (hknown id (by simp [hid]))]

theorem Ordered.grow {held kept : Resource → Prop} {session : Session}
    (hordered : Ordered db position held session) (hgrows : Grows db after)
    (hkept : ∀ resource, kept resource → held resource)
    (hheld : ∀ id, held (.row id) →
      id ∈ db.reservations.map StockReservation.id) :
    Ordered after position kept session := by
  have hpending := hgrows.pending_eq hordered.known
  have hrank : ∀ next ∈ pending db session,
      rank after position next = rank db position next := by
    intro next hnext
    apply hgrows.rank_eq
    rintro id rfl
    exact hordered.known id hnext
  constructor
  · rw [hpending]
    refine hordered.sorted.imp_of_mem fun hfirst hsecond hle => ?_
    rwa [hrank _ hfirst, hrank _ hsecond]
  · intro resource hresource hindex next hnext
    rw [hpending] at hnext
    rw [hrank next hnext, hgrows.rank_eq fun id hid =>
      hheld id (hid ▸ hkept resource hresource)]
    exact hordered.above resource (hkept resource hresource) hindex next hnext
  · intro id hid
    rw [hpending] at hid
    exact hgrows.ids id (hordered.known id hid)
  · exact fun hbare resource hresource =>
      hordered.bare hbare resource (hkept resource hresource)

end Grow

/-! ## One statement -/

/-- `locked` is `state` after `number` has taken one lock, or none. -/
structure Takes (number : ℕ) (taken : Option Resource)
    (state locked : State) : Prop where
  db : locked.db = state.db
  sessions : locked.sessions = state.sessions
  new : ∀ owner resource, holds locked owner resource →
    holds state owner resource ∨ owner = number ∧ taken = some resource
  kept : ∀ owner productId, holds state owner (.product productId) →
    holds locked owner (.product productId)

theorem Takes.nothing (number : ℕ) (state : State) :
    Takes number none state state :=
  ⟨rfl, rfl, fun _ _ hheld => .inl hheld, fun _ _ hheld => hheld⟩

/-- After taking a lock an owner has what it had, or it is the new one. -/
theorem holds_of_acquire {Item : Type*} [DecidableEq Item]
    {locks : LockTable Item ℕ} {number owner : ℕ} {taken item : Item}
    (hheld : (locks.acquire number taken).Holds owner item) :
    locks.Holds owner item ∨ owner = number ∧ taken = item := by
  by_cases hsame : item = taken
  · subst hsame
    exact .inr ⟨hheld.owner_eq (locks.holds_acquire number item), rfl⟩
  · left
    simpa [LockTable.Holds, LockTable.acquire, hsame] using hheld

section Takes

variable {state : State} {number : ℕ}

theorem Takes.product {productId : ℤ}
    (hgrant : state.productLocks.Grantable number productId) :
    Takes number (some (.product productId)) state
      (state.lockProduct number productId) where
  db := rfl
  sessions := rfl
  new owner resource hheld := by
    cases resource with
    | product other =>
        exact (holds_of_acquire hheld).imp_right fun hnew =>
          ⟨hnew.1, congrArg _ (congrArg _ hnew.2)⟩
    | row id => exact .inl hheld
    | index key other => exact .inl hheld
  kept owner other hheld :=
    (LocksMore.lockProduct hgrant).products owner other hheld

theorem Takes.row (id : RowId) :
    Takes number (some (.row id)) state (state.lockRow number id) where
  db := rfl
  sessions := rfl
  new owner resource hheld := by
    cases resource with
    | row other =>
        exact (holds_of_acquire hheld).imp_right fun hnew =>
          ⟨hnew.1, congrArg _ (congrArg _ hnew.2)⟩
    | product productId => exact .inl hheld
    | index key productId => exact .inl hheld
  kept _ _ hheld := hheld

theorem Takes.index (key : CharField128) (productId : ℤ) :
    Takes number (some (.index key productId)) state
      (state.lockIndex number key productId) := by
  rw [State.lockIndex]
  by_cases hkey : key = .empty
  · rw [if_pos hkey]
    exact ⟨rfl, rfl, fun _ _ hheld => .inl hheld, fun _ _ hheld => hheld⟩
  rw [if_neg hkey]
  refine ⟨rfl, rfl, fun owner resource hheld => ?_, fun _ _ hheld => hheld⟩
  cases resource with
  | index other otherProduct =>
      refine (holds_of_acquire hheld).imp_right fun hnew => ⟨hnew.1, ?_⟩
      rw [(Prod.mk.inj hnew.2).1, (Prod.mk.inj hnew.2).2]
  | product other => exact .inl hheld
  | row id => exact .inl hheld

end Takes

section Steps

variable {position : RowId → ℕ} {state : State} {number : ℕ}

theorem LockOrdered.goto (hordered : LockOrdered position state)
    {taken : Option Resource} {locked : State}
    (htakes : Takes number taken state locked) {next : Session}
    (hself : Ordered state.db position (holds locked number) next)
    (hknown : ∀ id, taken = some (.row id) →
      id ∈ state.db.reservations.map StockReservation.id)
    (hguard : ∀ key productId, taken = some (.index key productId) →
      state.db.available? productId ≠ none →
        holds state number (.product productId)) :
    LockOrdered position (locked.goto number next) where
  sessions other := by
    rw [holds_goto]
    simp only [State.goto, htakes.db, htakes.sessions]
    by_cases hsame : other = number
    · subst hsame
      simpa using hself
    · rw [Function.update_of_ne hsame]
      refine (hordered.sessions other).grow (.refl _)
        (fun resource hheld => ?_) (hordered.known other)
      exact (htakes.new other resource hheld).resolve_right
        fun hnew => hsame hnew.1
  known other id hheld := by
    rw [holds_goto] at hheld
    simp only [State.goto, htakes.db]
    rcases htakes.new other _ hheld with hbefore | ⟨_, hnow⟩
    · exact hordered.known other id hbefore
    · exact hknown id hnow
  guarded other key productId hheld hexists := by
    rw [holds_goto] at hheld ⊢
    simp only [State.goto, htakes.db] at hexists
    apply htakes.kept
    rcases htakes.new other _ hheld with hbefore | ⟨rfl, hnow⟩
    · exact hordered.guarded other key productId hbefore hexists
    · exact hguard key productId hnow hexists

/-- Going on without a row or index lock. -/
theorem LockOrdered.advance (hordered : LockOrdered position state)
    {taken : Option Resource} {locked : State}
    (htakes : Takes number taken state locked) {next : Session}
    (hfewer : (pending state.db next).Sublist
      (pending state.db (state.sessions number)))
    (hbare : ¬ Bare next)
    (htaken : ∀ productId, taken = some (.product productId) →
      ∀ later ∈ pending state.db next,
        rank state.db position (.product productId) ≤
          rank state.db position later)
    (hrow : ∀ id, taken ≠ some (.row id))
    (hguard : ∀ key productId, taken = some (.index key productId) →
      state.db.available? productId ≠ none →
        holds state number (.product productId)) :
    LockOrdered position (locked.goto number next) := by
  refine hordered.goto htakes ?_ (fun id hid => absurd hid (hrow id)) hguard
  refine @Ordered.move _ _ _ _ _ _ (hordered.sessions number) hfewer hbare
    taken ?_ ?_
  · exact fun resource hheld => (htakes.new number resource hheld).imp_right
      fun hnew => hnew.2
  · intro resource htake hindex later hlater
    cases resource with
    | row id => exact absurd htake (hrow id)
    | product productId => exact htaken productId htake later hlater
    | index key productId => exact absurd rfl (hindex key productId)

theorem holds_finish {db : InventoryDb} {result : Result} {owner : ℕ}
    {resource : Resource}
    (hheld : holds (state.finish number db result) owner resource) :
    holds state owner resource ∧ owner ≠ number := by
  have hreleased {Item : Type} (locks : LockTable Item ℕ) (item : Item)
      (hholds : (locks.releaseAll number).Holds owner item) :
      locks.Holds owner item ∧ owner ≠ number := by
    rw [LockTable.Holds, LockTable.releaseAll] at hholds
    by_cases hmine : locks item = some number
    · rw [if_pos hmine] at hholds
      exact absurd hholds.symm (Option.some_ne_none owner)
    · rw [if_neg hmine] at hholds
      refine ⟨hholds, ?_⟩
      rintro rfl
      exact hmine hholds
  cases resource with
  | row id => exact hreleased state.rowLocks id hheld
  | product productId => exact hreleased state.productLocks productId hheld
  | index key productId =>
      exact hreleased state.indexLocks (key, productId) hheld

theorem LockOrdered.finish (hordered : LockOrdered position state)
    {db : InventoryDb} (hgrows : Grows state.db db) (result : Result) :
    LockOrdered position (state.finish number db result) where
  sessions other := by
    by_cases hsame : other = number
    · subst hsame
      simp only [State.finish, Function.update_self]
      exact ⟨.nil, fun resource hheld => absurd rfl (holds_finish hheld).2,
        fun _ hknown => absurd hknown List.not_mem_nil,
        fun hbare => absurd hbare id⟩
    · simp only [State.finish, Function.update_of_ne hsame]
      exact (hordered.sessions other).grow hgrows
        (fun resource hheld => (holds_finish hheld).1) (hordered.known other)
  known other id hheld :=
    hgrows.ids id (hordered.known other id (holds_finish hheld).1)
  guarded other key productId hheld hexists := by
    obtain ⟨hbefore, hne⟩ := holds_finish hheld
    have hproduct := hordered.guarded other key productId hbefore
      (mt (hgrows.missing productId).mpr hexists)
    exact LockTable.Holds.releaseAll_other hproduct hne

end Steps

/-! ## Every run -/

/-- The query of a release returns rows of one product in their fixed
order. -/
def InOrder (position : RowId → ℕ) : Action → Prop
  | .select _ rows => rows.Pairwise fun first second =>
      first.productId = second.productId →
        position first.id ≤ position second.id
  | _ => True

theorem sorted_itemProducts_sortedItems (db : InventoryDb)
    (position : RowId → ℕ) (items : List ReserveItem) :
    (itemProducts (sortedItems items)).Pairwise fun first second =>
      rank db position first ≤ rank db position second := by
  have hsorted : (sortedItems items).Pairwise fun first second =>
      first.productId ≤ second.productId :=
    List.pairwise_insertionSort _ items
  rw [itemProducts, List.pairwise_map]
  simp only [rank_product_le_iff]
  exact hsorted

theorem productOf_eq {db : InventoryDb}
    (hids : (db.reservations.map StockReservation.id).Nodup)
    {row : StockReservation} (hrow : row ∈ db.reservations) :
    productOf db row.id = row.productId := by
  rw [productOf, find?_of_nodup_keys hids hrow]
  rfl

section Step

variable {position : RowId → ℕ} {state next : State} {serial : Serial.State}
variable {number : ℕ}

/-- The snapshot of a release is in the lock order. -/
theorem LockOrdered.select (hordered : LockOrdered position state)
    (hids : (state.db.reservations.map StockReservation.id).Nodup)
    {orderRef : CharField128} {rows : List StockReservation}
    (hsession : state.sessions number = .releasing orderRef .select)
    (hselects : Selects state.db orderRef rows)
    (hrows : InOrder position (.select number rows)) :
    LockOrdered position (state.goto number (.releasing orderRef
      (.lockRows (rows.map StockReservation.id) []))) := by
  have hmem : ∀ row ∈ rows, row ∈ state.db.reservations := fun row hrow =>
    List.mem_of_mem_filter (hselects.1.mem_iff.mp hrow)
  have hproduct : ∀ row ∈ rows,
      productOf state.db row.id = row.productId := fun row hrow =>
    productOf_eq hids (hmem row hrow)
  have hfree := (hordered.sessions number).bare (hsession ▸ trivial)
  refine hordered.goto (.nothing number state) ⟨?_, ?_, ?_, nofun⟩ nofun nofun
  · rw [pending, rowProducts, List.map_nil, List.nil_append, List.map_map,
      List.map_map, List.pairwise_append, List.pairwise_map,
      List.pairwise_map]
    refine ⟨?_, ?_, ?_⟩
    · refine (hselects.2.and hrows).imp_of_mem ?_
      intro first second hfirst hsecond hboth
      rw [Function.comp_apply, Function.comp_apply, rank_row_le_iff,
        hproduct first hfirst, hproduct second hsecond]
      rcases hboth.1.lt_or_eq with hless | hsame
      · exact .inl hless
      · exact .inr ⟨hsame, hboth.2 hsame⟩
    · refine hselects.2.imp_of_mem fun hfirst hsecond hle => ?_
      rw [Function.comp_apply, Function.comp_apply, rank_product_le_iff,
        hproduct _ hfirst, hproduct _ hsecond]
      exact hle
    · intro first hfirst second hsecond
      obtain ⟨row, _, rfl⟩ := List.mem_map.mp hfirst
      obtain ⟨other, _, rfl⟩ := List.mem_map.mp hsecond
      exact rank_row_le_product row.id _
  · exact fun resource hheld => absurd hheld (hfree resource)
  · intro id hid
    simp only [pending, rowProducts, List.map_nil, List.nil_append,
      List.mem_append, List.mem_map] at hid
    rcases hid with ⟨other, ⟨row, hrow, rfl⟩, hsame⟩ | ⟨_, _, hnever⟩
    · exact Resource.row.inj hsame ▸ List.mem_map_of_mem (hmem row hrow)
    · exact Resource.noConfusion hnever

/-- A release takes the next of its row locks. -/
theorem LockOrdered.lockRow (hordered : LockOrdered position state)
    (hids : (state.db.reservations.map StockReservation.id).Nodup)
    {orderRef : CharField128} {id : RowId} {todo : List RowId}
    {locked : List StockReservation}
    (hsession : state.sessions number =
      .releasing orderRef (.lockRows (id :: todo) locked)) :
    LockOrdered position ((state.lockRow number id).goto number
      (.releasing orderRef (.lockRows todo
        (locked ++ (state.db.stillReserved? orderRef id).toList)))) := by
  have hself := hordered.sessions number
  rw [hsession] at hself
  have hproducts : (rowProducts
      (locked ++ (state.db.stillReserved? orderRef id).toList) ++
        todo.map fun other =>
          Resource.product (productOf state.db other)).Sublist
      (rowProducts locked ++ (id :: todo).map fun other =>
        Resource.product (productOf state.db other)) := by
    cases hcurrent : state.db.stillReserved? orderRef id with
    | none => simp
    | some row =>
        obtain ⟨hrow, hid, _⟩ := InventoryDb.stillReserved?_eq_some hcurrent
        simp [rowProducts, ← hid, productOf_eq hids hrow]
  have hfewer := hproducts.append_left (todo.map Resource.row)
  have hknown := hself.known id (by simp [pending])
  refine hordered.goto (.row id) ?_ ?_ nofun
  · rw [← hsession] at hself
    refine @Ordered.move _ _ _ _ _ _ hself ?_ (fun hbare => hbare)
      (some (.row id)) ?_ ?_
    · rw [hsession]
      exact hfewer.cons _
    · exact fun resource hheld =>
        ((Takes.row id).new number resource hheld).imp_right
          fun hnew => hnew.2
    · intro resource htaken _ later hlater
      have hsorted := hself.sorted
      rw [hsession, pending, List.map_cons, List.cons_append,
        List.pairwise_cons] at hsorted
      rw [← Option.some.inj htaken]
      exact hsorted.1 later (hfewer.subset hlater)
  · intro other hother
    rw [← Resource.row.inj (Option.some.inj hother)]
    exact hknown

/-- A line waits for its product, takes it, and goes on with the lines it still
has. -/
theorem LockOrdered.lockProduct (hordered : LockOrdered position state)
    {productId : ℤ} {rest : List Resource}
    (hgrant : state.productLocks.Grantable number productId)
    (hpending : pending state.db (state.sessions number) =
      .product productId :: rest) {session : Session}
    (hfewer : (pending state.db session).Sublist
      (.product productId :: rest)) (hbare : ¬ Bare session) :
    LockOrdered position
      ((state.lockProduct number productId).goto number session) := by
  refine hordered.advance (.product hgrant) (hpending ▸ hfewer) hbare ?_
    nofun nofun
  intro other hother later hlater
  obtain rfl := Resource.product.inj (Option.some.inj hother)
  have hsorted := (hordered.sessions number).sorted
  rw [hpending, List.pairwise_cons] at hsorted
  rcases List.mem_cons.mp (hfewer.subset hlater) with rfl | hrest
  · exact le_rfl
  · exact hsorted.1 later hrest

/-- Going on without a new lock. -/
theorem LockOrdered.skip (hordered : LockOrdered position state)
    {session : Session}
    (hfewer : (pending state.db session).Sublist
      (pending state.db (state.sessions number)))
    (hbare : ¬ Bare session) :
    LockOrdered position (state.goto number session) :=
  hordered.advance (.nothing number state) hfewer hbare nofun nofun nofun

/-- An uncommitted index entry, under the lock of its product. -/
theorem LockOrdered.lockIndex (hordered : LockOrdered position state)
    {key : CharField128} {productId : ℤ} {session : Session}
    (hfewer : (pending state.db session).Sublist
      (pending state.db (state.sessions number)))
    (hbare : ¬ Bare session)
    (hheld : state.db.available? productId ≠ none →
      state.productLocks.Holds number productId) :
    LockOrdered position
      ((state.lockIndex number key productId).goto number session) := by
  refine hordered.advance (.index key productId) hfewer hbare nofun nofun ?_
  intro other otherProduct hother hexists
  obtain ⟨rfl, rfl⟩ := Resource.index.inj (Option.some.inj hother)
  exact hheld hexists

/-- Every statement keeps the lock order. -/
theorem LockOrdered.step (hordered : LockOrdered position state)
    (hrelated : Related state serial) {action : Action}
    (hinOrder : InOrder position action)
    (hstep : Interleaved.step state action = some next) :
    LockOrdered position next := by
  have hgrows := Grows.refl state.db
  cases step_cases hstep with
  | call number request hidle hunused =>
      have hfree := (hordered.sessions number).bare (hidle ▸ trivial)
      refine hordered.goto (.nothing number state) ?_ nofun nofun
      cases request with
      | reserve orderRef items key clock =>
          refine ⟨sorted_itemProducts_sortedItems _ _ _,
            fun resource hheld => absurd hheld (hfree resource), ?_, nofun⟩
          simp [Request.session, pending, itemProducts]
      | release orderRef =>
          exact ⟨.nil, fun resource hheld => absurd hheld (hfree resource),
            nofun, fun _ => hfree⟩
  | answer number call outcome hsession => exact hordered.finish hgrows _
  | proceed number call hsession hitems hreplay =>
      exact hordered.skip (by rw [hsession]; exact .refl _) id
  | skip number call item todo loop reason hsession =>
      exact hordered.skip (by rw [hsession]; exact List.sublist_cons_self _ _)
        id
  | short number call item todo loop reason hsession hgrant =>
      exact hordered.lockProduct hgrant (by rw [hsession]; rfl)
        (List.sublist_cons_self _ _) id
  | read number call item available todo loop hsession hgrant =>
      exact hordered.lockProduct hgrant (by rw [hsession]; rfl) (.refl _) id
  | saveProduct number call item available todo loop hsession =>
      exact hordered.skip (by rw [hsession]; exact .refl _) id
  | insert number call item todo loop after hsession hgrant =>
      refine hordered.lockIndex
        (by rw [hsession]; exact List.sublist_cons_self _ _) id fun _ => ?_
      obtain ⟨_, _, _, _, _, _, _, _, _, hread, _⟩ :=
        hrelated.reserving hsession
      exact hread.held
  | duplicate number call item todo loop hsession =>
      exact hordered.finish hgrows _
  | loopEnd number call loop hsession =>
      rw [ReserveLoop.finish]
      split
      · exact hordered.finish (.commit _ _) _
      · exact hordered.finish hgrows _
  | select number orderRef rows hsession hselects =>
      exact hordered.select hrelated.ids_nodup hsession hselects hinOrder
  | lockRow number orderRef id todo locked hsession hgrant =>
      exact hordered.lockRow hrelated.ids_nodup hsession
  | locked number orderRef locked hsession =>
      refine hordered.skip ?_ id
      rw [hsession, pending, pending, List.map_nil, List.map_nil,
        List.nil_append, List.append_nil]
  | missing number orderRef row todo reservations tx hsession hmissing =>
      exact hordered.skip (by rw [hsession]; exact .refl _) id
  | addBack number orderRef row todo reservations tx hsession hgrant =>
      exact hordered.lockProduct hgrant (by rw [hsession]; rfl) (.refl _) id
  | saveStatus number orderRef row todo reservations tx hsession =>
      refine hordered.lockIndex
        (by rw [hsession]; exact List.sublist_cons_self _ _) id
        fun hexists => ?_
      obtain ⟨_, _, _, _, _, _, hcovers, _⟩ := hrelated.releasing hsession
      exact hcovers row (List.mem_singleton_self row) hexists
  | releaseEnd number orderRef reservations tx hsession =>
      exact hordered.finish (.commit _ _) _
  | abort number hopen => exact hordered.finish hgrows _

end Step

/-! ## No cycle -/

section Cycle

variable {position : RowId → ℕ} {state : State} {serial : Serial.State}
variable {number : ℕ} {resource : Resource}

/-- The lock a session needs is one of those it may still take. -/
theorem mem_pending_of_needs (hneeds : needs state number = some resource)
    (hindex : ∀ key productId, resource ≠ .index key productId) :
    resource ∈ pending state.db (state.sessions number) := by
  unfold needs at hneeds
  split at hneeds
  · rename_i item todo loop hsession
    split at hneeds
    · exact absurd hneeds.symm (Option.some_ne_none resource)
    · rw [hsession, ← Option.some.inj hneeds]
      exact List.mem_cons_self
  · split at hneeds
    · exact absurd hneeds.symm (Option.some_ne_none resource)
    · exact absurd (Option.some.inj hneeds).symm (hindex _ _)
  · rename_i id todo locked hsession
    rw [hsession, ← Option.some.inj hneeds]
    exact List.mem_append_left _ List.mem_cons_self
  · rename_i row todo reservations tx hsession
    split at hneeds
    · exact absurd hneeds.symm (Option.some_ne_none resource)
    · rw [hsession, ← Option.some.inj hneeds]
      exact List.mem_cons_self
  · exact absurd hneeds.symm (Option.some_ne_none resource)

/-- An INSERT holds the lock of its product, and so does whoever has the
conflicting entry: it never waits. -/
theorem LockOrdered.not_waitsOn_index (hordered : LockOrdered position state)
    (hrelated : Related state serial) {key : CharField128} {productId : ℤ}
    {owner : ℕ} :
    ¬ WaitsOn (needs state) (holds state) number (.index key productId)
      owner := by
  rintro ⟨hneeds, hholds, hother⟩
  unfold needs at hneeds
  split at hneeds
  · split at hneeds
    · exact absurd hneeds.symm (Option.some_ne_none _)
    · exact Resource.noConfusion (Option.some.inj hneeds)
  · rename_i call item todo loop hsession
    split at hneeds
    · exact absurd hneeds.symm (Option.some_ne_none _)
    · obtain ⟨rfl, rfl⟩ := Resource.index.inj (Option.some.inj hneeds)
      obtain ⟨_, _, _, _, _, _, before, _, _, hread, _⟩ :=
        hrelated.reserving hsession
      have hexists : state.db.available? item.productId ≠ none := by
        rw [Ne, ← Tx.available?_eq_none_iff before.tx, hread.read]
        exact Option.some_ne_none _
      have hproduct : state.productLocks.Holds owner item.productId :=
        hordered.guarded owner _ _ hholds hexists
      exact hother (hproduct.owner_eq hread.held)
  · exact Resource.noConfusion (Option.some.inj hneeds)
  · split at hneeds
    · exact absurd hneeds.symm (Option.some_ne_none _)
    · exact Resource.noConfusion (Option.some.inj hneeds)
  · exact absurd hneeds.symm (Option.some_ne_none _)

theorem LockOrdered.not_deadlock (hordered : LockOrdered position state)
    (hrelated : Related state serial)
    (hposition : Function.Injective position) :
    ¬ Deadlock (needs state) (holds state) := by
  apply @not_deadlock_of_ordered _ _ _ _ _ _ (rank state.db position)
  intro first second third held needed hfirst hsecond
  have hheldIndex : ∀ key productId, held ≠ .index key productId := by
    rintro key productId rfl
    exact hordered.not_waitsOn_index hrelated hfirst
  have hneededIndex : ∀ key productId, needed ≠ .index key productId := by
    rintro key productId rfl
    exact hordered.not_waitsOn_index hrelated hsecond
  refine lt_of_le_of_ne ?_ fun hsame => ?_
  · exact (hordered.sessions second).above held hfirst.2.1 hheldIndex needed
      (mem_pending_of_needs hsecond.1 hneededIndex)
  · -- the same lock would have two holders
    obtain rfl := rank_injective hposition hheldIndex hsame
    apply hsecond.2.2
    cases held with
    | row id => exact LockTable.Holds.owner_eq hsecond.2.1 hfirst.2.1
    | product productId =>
        exact LockTable.Holds.owner_eq hsecond.2.1 hfirst.2.1
    | index key productId => exact absurd rfl (hheldIndex key productId)

end Cycle

/-- Whatever runs at once, and however the statements interleave: no session
ever waits for itself through others. -/
theorem no_deadlock {db : InventoryDb}
    (hids : (db.reservations.map StockReservation.id).Nodup)
    {position : RowId → ℕ} (hposition : Function.Injective position)
    {schedule : List Action} {final : State}
    (hinOrder : ∀ action ∈ schedule, InOrder position action)
    (hrun : run step (.init db) schedule = some final) :
    ¬ Deadlock (needs final) (holds final) := by
  have hinit : LockOrdered position (.init db) ∧
      ∃ serial, Related (.init db) serial :=
    ⟨.init position db, .init db, .init hids⟩
  have hstep : ∀ state action next,
      (LockOrdered position state ∧ ∃ serial, Related state serial) →
        InOrder position action → step state action = some next →
          LockOrdered position next ∧ ∃ serial, Related next serial := by
    rintro state action next ⟨hordered, serial, hrelated⟩ hallowed hnext
    exact ⟨hordered.step hrelated hallowed hnext,
      simulation.exists_related hrelated trivial hnext⟩
  obtain ⟨hordered, serial, hrelated⟩ := run_invariant_along hstep hinit
    (Along.of_forall hinOrder _) hrun
  exact hordered.not_deadlock hrelated hposition

/-- Rows by the call and the line that inserted them. -/
def insertionOrder (id : RowId) : ℕ := Nat.pair id.call id.line

theorem insertionOrder_injective : Function.Injective insertionOrder := by
  rintro ⟨call, line⟩ ⟨otherCall, otherLine⟩ hsame
  obtain ⟨rfl, rfl⟩ := Nat.pair_eq_pair.mp hsame
  rfl

/-- An older order holds two widgets and one gadget. -/
def twoLinesDb : InventoryDb where
  products := [⟨1, "SKU-WIDGET", "Standard Widget", 98⟩,
    ⟨2, "SKU-GADGET", "Premium Gadget", 49⟩]
  reservations := [⟨⟨7, 0⟩, 1, .ofText "old", .ofText "old", 2, .reserved, 0⟩,
    ⟨⟨7, 1⟩, 2, .ofText "old", .ofText "old", 1, .reserved, 1⟩]

/-- It is released while a second release waits for its first row, and while
its key is reserved again by a session that waits for the widget. -/
def crossedSchedule : List Action :=
  [.call 0 (.release (.ofText "old")), .call 1 (.release (.ofText "old")),
    .call 2 (.reserve (.ofText "old") [⟨2, 1⟩, ⟨1, 2⟩] .empty id),
    .select 0 twoLinesDb.reservations, .select 1 twoLinesDb.reservations,
    .advance 0, .advance 0, .advance 0, .advance 0, .advance 2]

theorem no_deadlock_crossed : ∃ final,
    run step (.init twoLinesDb) crossedSchedule = some final ∧
      WaitsFor (needs final) (holds final) 1 0 ∧
      WaitsFor (needs final) (holds final) 2 0 ∧
      ¬ Deadlock (needs final) (holds final) := by
  have hids : (twoLinesDb.reservations.map StockReservation.id).Nodup := by
    decide
  have hinOrder : ∀ action ∈ crossedSchedule,
      InOrder insertionOrder action := by
    simp [crossedSchedule, InOrder, twoLinesDb]
  refine ⟨_, rfl, ⟨.row ⟨7, 0⟩, rfl, rfl, by decide⟩,
    ⟨.product 1, rfl, rfl, by decide⟩, ?_⟩
  exact no_deadlock hids insertionOrder_injective hinOrder rfl

end OrderFlow.Inventory.LockOrder
