import OrderFlow.Inventory.NoLostUpdate

/-!
# Unsubscribed products fall silent

Markers stay in the queue when a product is given up, but every one of them is
turned into updates by `_rows`, which looks at the watch set first.  What can
still be sent is the row of the one `_rows` call that had taken its look
before the UNSUBSCRIBE.
-/

namespace OrderFlow.Inventory.Watch

open TransitionSystem

/-! ## Reading the log -/

/-- The last command naming the product was a SUBSCRIBE. -/
def watching (productId : ℤ) : List Entry → Bool
  | [] => false
  | .applied command :: log =>
      if productId ∈ command.productIds then
        decide (command.action = .subscribe)
      else watching productId log
  | .committed _ :: log | .selected _ :: log | .sent _ :: log =>
      watching productId log

/-- The last lock section of `_rows`: the ids it let through, and the log
before it. -/
def lastLook? : List Entry → Option (Finset ℤ × List Entry)
  | [] => none
  | .selected watched :: log => some (watched, log)
  | .applied _ :: log | .committed _ :: log | .sent _ :: log => lastLook? log

/-- The updates of the product sent while it was not watched, since it was
watched last. -/
def late (productId : ℤ) : List Entry → ℕ
  | [] => 0
  | .applied command :: log =>
      if productId ∈ command.productIds ∧ command.action = .subscribe then 0
      else late productId log
  | .sent update :: log =>
      if update.productId = productId ∧ watching productId log = false then
        late productId log + 1
      else late productId log
  | .committed _ :: log | .selected _ :: log => late productId log

/-- Every update stems from a `_rows` call that found its product watched, and
after an UNSUBSCRIBE at most one is left, which stems from a call that had
looked before. -/
structure FallsSilent (state : State) : Prop where
  watching : ∀ productId,
    watching productId state.log = true ↔ productId ∈ state.watchSet
  stems : ∀ sent earlier, (.sent sent :: earlier) <:+ state.log →
    ∃ watched before, lastLook? earlier = some (watched, before) ∧
      sent.productId ∈ watched ∧ Watch.watching sent.productId before = true
  silent : ∀ recent command earlier,
    (recent ++ .applied command :: earlier) <:+ state.log →
      command.action = .unsubscribe → ∀ productId ∈ command.productIds,
        (∀ entry ∈ recent, ¬ entry.Subscribes productId) →
          (recent.filterMap (Entry.update? productId)).length ≤ 1 ∧
          ∀ newer sent older, recent = newer ++ .sent sent :: older →
            sent.productId = productId → ∀ watched, .selected watched ∉ older

section Log

variable {productId : ℤ} {log : List Entry}

theorem late_of_watching (hwatching : watching productId log = true) :
    late productId log = 0 := by
  induction log with
  | nil => rfl
  | cons entry log ih =>
      cases entry with
      | applied command =>
          rw [watching] at hwatching
          rw [late]
          split_ifs at hwatching with hnamed
          · rw [if_pos ⟨hnamed, of_decide_eq_true hwatching⟩]
          · rw [if_neg fun hsubscribe => hnamed hsubscribe.1]
            exact ih hwatching
      | sent update =>
          have hbefore : watching productId log = true := hwatching
          rw [late, hbefore, if_neg fun hlate => Bool.noConfusion hlate.2]
          exact ih hbefore
      | committed | selected => exact ih hwatching

/-- Since an UNSUBSCRIBE without a SUBSCRIBE after it the product is not
watched, and all its updates are late. -/
theorem late_since {recent earlier : List Entry} {command : WatchCommand}
    (hunsubscribe : command.action = .unsubscribe)
    (hnamed : productId ∈ command.productIds)
    (hquiet : ∀ entry ∈ recent, ¬ entry.Subscribes productId) :
    watching productId (recent ++ .applied command :: earlier) = false ∧
      (recent.filterMap (Entry.update? productId)).length ≤
        late productId (recent ++ .applied command :: earlier) := by
  induction recent with
  | nil => simp [watching, hnamed, hunsubscribe]
  | cons entry recent ih =>
      obtain ⟨hwatching, hlate⟩ := ih fun other hother =>
        hquiet other (List.mem_cons_of_mem entry hother)
      cases entry with
      | applied other =>
          have hnot := hquiet _ List.mem_cons_self
          rw [Entry.Subscribes] at hnot
          constructor
          · rw [List.cons_append, watching]
            split_ifs with hother
            · exact decide_eq_false fun hsubscribe =>
                hnot ⟨hsubscribe, hother⟩
            · exact hwatching
          · rw [List.cons_append, late,
              if_neg fun hsubscribe => hnot ⟨hsubscribe.2, hsubscribe.1⟩]
            exact hlate
      | sent update =>
          refine ⟨hwatching, ?_⟩
          rw [List.cons_append, late, hwatching]
          by_cases hsame : update.productId = productId
          · simpa [Entry.update?, hsame] using hlate
          · simpa [Entry.update?, hsame] using hlate
      | committed | selected => exact ⟨hwatching, hlate⟩

/-- A part of the log with a look in it contains the last one. -/
theorem lastLook?_of_mem {recent : List Entry} {watched : Finset ℤ}
    (hmem : .selected watched ∈ recent) :
    ∃ last rest, rest <:+ recent ∧
      lastLook? (recent ++ log) = some (last, rest ++ log) := by
  induction recent with
  | nil => exact absurd hmem List.not_mem_nil
  | cons entry recent ih =>
      cases entry with
      | selected other =>
          exact ⟨other, recent, List.suffix_cons _ _, rfl⟩
      | applied | committed | sent =>
          obtain ⟨last, rest, hrest, hlook⟩ :=
            ih (by simpa using hmem)
          exact ⟨last, rest, hrest.trans (List.suffix_cons _ _), hlook⟩

end Log

/-! ## What the handler holds -/

/-- How many updates of the product the handler may send before it looks
again. -/
def Generator.holds (productId : ℤ) : Generator → ℕ
  | .fetching watched _ => if productId ∈ watched then 1 else 0
  | .yielding rows _ => rows.countP fun row => row.productId = productId
  | _ => 0

/-- What the handler holds passed its last look. -/
def Generator.LookedUp (log : List Entry) : Generator → Prop
  | .fetching watched _ => ∃ before, lastLook? log = some (watched, before) ∧
      ∀ productId ∈ watched, watching productId before = true
  | .yielding rows _ => ∃ watched before,
      lastLook? log = some (watched, before) ∧
        (∀ row ∈ rows, row.productId ∈ watched) ∧
          ∀ productId ∈ watched, watching productId before = true
  | _ => True

structure Hushed (state : State) : Prop where
  ids : (state.db.products.map Product.id).Nodup
  watching : ∀ productId,
    watching productId state.log = true ↔ productId ∈ state.watchSet
  distinct : ∀ productId, state.generator.holds productId ≤ 1
  last : ∀ productId, productId ∉ state.watchSet →
    late productId state.log + state.generator.holds productId ≤ 1
  looked : state.generator.LookedUp state.log
  late : ∀ earlier, earlier <:+ state.log → ∀ productId,
    late productId earlier ≤ 1
  stems : ∀ sent earlier, (.sent sent :: earlier) <:+ state.log →
    ∃ watched before, lastLook? earlier = some (watched, before) ∧
      sent.productId ∈ watched ∧ Watch.watching sent.productId before = true

/-- A table has one row for an id that was asked for. -/
theorem countP_fetchStock_le {db : InventoryDb}
    (hids : (db.products.map Product.id).Nodup) (watched : Finset ℤ)
    (productId : ℤ) :
    ((fetchStock db watched).countP fun row => row.productId = productId) ≤
      if productId ∈ watched then 1 else 0 := by
  split_ifs with hwatched
  · have hrows : ((fetchStock db watched).map
        ProductStockRow.productId).Nodup := by
      rw [fetchStock]
      split_ifs
      · exact List.nodup_nil
      · rw [List.map_map]
        have hperm := (List.perm_insertionSort (fun first second : Product =>
          first.sku ≤ second.sku)
          (db.products.filter fun product => product.id ∈ watched)).map
            Product.id
        exact hperm.nodup_iff.mpr (hids.sublist (List.filter_sublist.map _))
    have hcount := List.nodup_iff_count_le_one.mp hrows productId
    rw [List.count, List.countP_map] at hcount
    refine le_trans (le_of_eq (List.countP_congr fun row _ => ?_)) hcount
    simp
  · refine (List.countP_eq_zero.mpr fun row hrow hsame => ?_).le
    obtain ⟨product, _, hasked, rfl⟩ := mem_fetchStock.mp hrow
    exact hwatched (of_decide_eq_true hsame ▸ hasked)

/-! ## One step -/

section Steps

variable {state next : State}

/-- A step outside the handler, the reader and the database. -/
theorem Hushed.frame (hhushed : Hushed state)
    (hcore : next.core = state.core) : Hushed next := by
  simp only [State.core, Prod.mk.injEq] at hcore
  obtain ⟨hdb, _, hlog, hwatch, _, hgenerator⟩ := hcore
  constructor
  · rw [hdb]
    exact hhushed.ids
  · rw [hlog, hwatch]
    exact hhushed.watching
  · rw [hgenerator]
    exact hhushed.distinct
  · rw [hlog, hwatch, hgenerator]
    exact hhushed.last
  · rw [hlog, hgenerator]
    exact hhushed.looked
  · rw [hlog]
    exact hhushed.late
  · rw [hlog]
    exact hhushed.stems

/-- The handler goes on and holds no more than before. -/
theorem Hushed.goto (hhushed : Hushed state) {generator : Generator}
    (hholds : ∀ productId,
      generator.holds productId ≤ state.generator.holds productId)
    (hlooked : generator.LookedUp state.log) :
    Hushed (state.goto generator) where
  ids := hhushed.ids
  watching := hhushed.watching
  distinct productId := (hholds productId).trans (hhushed.distinct productId)
  last productId hunwatched :=
    (Nat.add_le_add_left (hholds productId) _).trans
      (hhushed.last productId hunwatched)
  looked := hlooked
  late := hhushed.late
  stems := hhushed.stems

/-- The handler goes on with nothing at hand. -/
theorem Hushed.rest (hhushed : Hushed state) {generator : Generator}
    (hholds : ∀ productId, generator.holds productId = 0)
    (hlooked : generator.LookedUp state.log) :
    Hushed (state.goto generator) :=
  hhushed.goto (fun productId => (hholds productId).le.trans (Nat.zero_le _))
    hlooked

/-- No product gets two late updates. -/
theorem Hushed.late_le (hhushed : Hushed state) (productId : ℤ) :
    Watch.late productId state.log ≤ 1 :=
  hhushed.late state.log List.suffix_rfl productId

theorem Hushed.late_cons (hhushed : Hushed state) {entry : Entry}
    (hentry : ∀ productId, Watch.late productId (entry :: state.log) ≤ 1) :
    ∀ earlier, earlier <:+ (entry :: state.log) → ∀ productId,
      Watch.late productId earlier ≤ 1 := by
  intro earlier hsuffix
  rcases List.suffix_cons_iff.mp hsuffix with rfl | hbefore
  · exact hentry
  · exact hhushed.late earlier hbefore

/-- The stems of a log with a new entry that is no update. -/
theorem Hushed.stems_cons (hhushed : Hushed state) {entry : Entry}
    (hentry : ∀ sent, entry ≠ .sent sent) :
    ∀ sent earlier, (.sent sent :: earlier) <:+ (entry :: state.log) →
      ∃ watched before, lastLook? earlier = some (watched, before) ∧
        sent.productId ∈ watched ∧
          Watch.watching sent.productId before = true := by
  intro sent earlier hsuffix
  rcases List.suffix_cons_iff.mp hsuffix with hnow | hbefore
  · exact absurd (List.cons.inj hnow).1.symm (hentry sent)
  · exact hhushed.stems sent earlier hbefore

theorem Hushed.commit (hhushed : Hushed state) {db : InventoryDb}
    (hids : (db.products.map Product.id).Nodup) (notices : List ℤ) :
    Hushed (state.commit db notices) where
  ids := hids
  watching := hhushed.watching
  distinct := hhushed.distinct
  last := hhushed.last
  looked := by
    have hlooked := hhushed.looked
    rw [State.commit]
    cases hgenerator : state.generator <;> rw [hgenerator] at hlooked <;>
      exact hlooked
  late := hhushed.late_cons hhushed.late_le
  stems := hhushed.stems_cons fun _ => Entry.noConfusion

/-- The reader changes the watch set as its command says. -/
theorem Hushed.applyCommand (hhushed : Hushed state)
    (command : WatchCommand) : Hushed (state.applyCommand command) := by
  have hwatching : ∀ productId,
      Watch.watching productId (.applied command :: state.log) = true ↔
        productId ∈ (state.applyCommand command).watchSet := by
    intro productId
    rw [Watch.watching, State.applyCommand]
    cases haction : command.action with
    | subscribe =>
        by_cases hnamed : productId ∈ command.productIds <;>
          simp [hnamed, hhushed.watching]
    | unsubscribe =>
        by_cases hnamed : productId ∈ command.productIds <;>
          simp [hnamed, hhushed.watching]
  have hlate : ∀ productId, Watch.late productId (.applied command ::
      state.log) ≤ Watch.late productId state.log := by
    intro productId
    rw [Watch.late]
    split_ifs
    · exact Nat.zero_le _
    · exact le_rfl
  constructor
  · rw [State.applyCommand_db]
    exact hhushed.ids
  · rw [State.applyCommand_log]
    exact hwatching
  · rw [State.applyCommand_generator]
    exact hhushed.distinct
  · intro productId hunwatched
    rw [State.applyCommand_log, State.applyCommand_generator]
    by_cases hbefore : productId ∈ state.watchSet
    · have hnone := late_of_watching ((hhushed.watching productId).mpr hbefore)
      have hdistinct := hhushed.distinct productId
      have hless := hlate productId
      omega
    · exact (Nat.add_le_add_right (hlate productId) _).trans
        (hhushed.last productId hbefore)
  · have hlooked := hhushed.looked
    rw [State.applyCommand_log, State.applyCommand_generator]
    cases hheld : state.generator <;> rw [hheld] at hlooked <;> exact hlooked
  · rw [State.applyCommand_log]
    exact hhushed.late_cons fun productId =>
      (hlate productId).trans (hhushed.late_le productId)
  · rw [State.applyCommand_log]
    exact hhushed.stems_cons fun _ => Entry.noConfusion

/-- The lock section of `_rows` lets watched products through. -/
theorem Hushed.select (hhushed : Hushed state) (ids : Finset ℤ)
    (snapshot : Bool) :
    Hushed ({ state with
        log := .selected (state.watchSet ∩ ids) :: state.log }.goto
      (.fetching (state.watchSet ∩ ids) snapshot)) where
  ids := hhushed.ids
  watching := hhushed.watching
  distinct productId := by
    rw [State.goto, Generator.holds]
    split_ifs <;> decide
  last productId hunwatched := by
    have hnone : productId ∉ state.watchSet ∩ ids := fun hmem =>
      hunwatched (Finset.mem_inter.mp hmem).1
    rw [State.goto, Generator.holds, if_neg hnone]
    exact hhushed.late_le productId
  looked := ⟨state.log, rfl, fun productId hmem =>
    (hhushed.watching productId).mpr (Finset.mem_inter.mp hmem).1⟩
  late := hhushed.late_cons hhushed.late_le
  stems := hhushed.stems_cons fun _ => Entry.noConfusion

/-- The read has rows of these products only. -/
theorem Hushed.fetch (hhushed : Hushed state) {watched : Finset ℤ}
    {snapshot : Bool}
    (hgenerator : state.generator = .fetching watched snapshot) :
    Hushed (state.goto (.yielding (fetchStock state.db watched) snapshot)) := by
  have hlooked := hhushed.looked
  rw [hgenerator] at hlooked
  obtain ⟨before, hlook, hwatched⟩ := hlooked
  refine hhushed.goto (fun productId => ?_)
    ⟨watched, before, hlook, fun row hrow => ?_, hwatched⟩
  · rw [hgenerator]
    exact countP_fetchStock_le hhushed.ids watched productId
  · obtain ⟨product, _, hasked, rfl⟩ := mem_fetchStock.mp hrow
    exact hasked

/-- A row that is not sent is dropped. -/
theorem Hushed.skip (hhushed : Hushed state) {row : ProductStockRow}
    {rows : List ProductStockRow} {snapshot : Bool}
    (hgenerator : state.generator = .yielding (row :: rows) snapshot) :
    Hushed (state.goto (.yielding rows snapshot)) := by
  have hlooked := hhushed.looked
  rw [hgenerator] at hlooked
  obtain ⟨watched, before, hlook, hrows, hwatched⟩ := hlooked
  refine hhushed.goto (fun productId => ?_) ⟨watched, before, hlook,
    fun other hother => hrows other (List.mem_cons_of_mem row hother), hwatched⟩
  rw [hgenerator]
  exact (List.sublist_cons_self row rows).countP_le

/-- A row that is sent is no longer held. -/
theorem Hushed.send (hhushed : Hushed state) {row : ProductStockRow}
    {rows : List ProductStockRow} {snapshot : Bool} {lastSeen : ℤ → Option ℤ}
    (hgenerator : state.generator = .yielding (row :: rows) snapshot) :
    Hushed ({ state with
        lastSeen := lastSeen
        log := .sent (update row snapshot) :: state.log }.goto
      (.yielding rows snapshot)) := by
  have hlooked := hhushed.looked
  rw [hgenerator] at hlooked
  obtain ⟨watched, before, hlook, hrows, hwatched⟩ := hlooked
  have hholds : ∀ productId, state.generator.holds productId =
      (Generator.yielding rows snapshot).holds productId +
        if row.productId = productId then 1 else 0 := by
    intro productId
    rw [hgenerator, Generator.holds, List.countP_cons]
    simp [Generator.holds]
  have hlate : ∀ productId,
      Watch.late productId (.sent (update row snapshot) :: state.log) ≤
        Watch.late productId state.log +
          if row.productId = productId then 1 else 0 := by
    intro productId
    rw [Watch.late]
    by_cases hsame : row.productId = productId
    · split_ifs <;> omega
    · rw [if_neg fun hlate => hsame hlate.1]
      omega
  have hlast : ∀ productId, productId ∉ state.watchSet →
      Watch.late productId (.sent (update row snapshot) :: state.log) +
        (Generator.yielding rows snapshot).holds productId ≤ 1 := by
    intro productId hunwatched
    have hbound := hhushed.last productId hunwatched
    have hless := hlate productId
    rw [hholds] at hbound
    omega
  constructor
  · exact hhushed.ids
  · exact hhushed.watching
  · intro productId
    have hbound := hhushed.distinct productId
    rw [hholds] at hbound
    exact (Nat.le_add_right _ _).trans hbound
  · exact hlast
  · exact ⟨watched, before, hlook, fun other hother =>
      hrows other (List.mem_cons_of_mem row hother), hwatched⟩
  · apply hhushed.late_cons
    intro productId
    by_cases hbefore : productId ∈ state.watchSet
    · have hnow : Watch.watching productId
          (.sent (update row snapshot) :: state.log) = true :=
        (hhushed.watching productId).mpr hbefore
      exact (late_of_watching hnow).le.trans (Nat.zero_le 1)
    · exact (Nat.le_add_right _ _).trans (hlast productId hbefore)
  · intro sent earlier hsuffix
    rcases List.suffix_cons_iff.mp hsuffix with hnow | hpast
    · obtain ⟨hsent, rfl⟩ := List.cons.inj hnow
      cases hsent
      have hmem := hrows row List.mem_cons_self
      exact ⟨watched, before, hlook, hmem, hwatched _ hmem⟩
    · exact hhushed.stems sent earlier hpast

theorem Hushed.close (hhushed : Hushed state) : Hushed state.close where
  ids := hhushed.ids
  watching := hhushed.watching
  distinct _ := Nat.zero_le 1
  last productId _ := hhushed.late_le productId
  looked := trivial
  late := hhushed.late
  stems := hhushed.stems

theorem Hushed.handlerStep (hhushed : Hushed state)
    (hstep : HandlerStep state next) : Hushed next := by
  cases hstep with
  | check | takeWatched | done =>
      exact hhushed.rest (fun _ => rfl) trivial
  | leave => exact hhushed.close
  | @get marker events =>
      have hframe : Hushed { state with events := events } := hhushed.frame rfl
      cases marker <;> exact hframe.rest (fun _ => rfl) trivial
  | takeFresh =>
      have hrest : Hushed (state.goto (.selecting state.newlyAdded true)) :=
        hhushed.rest (fun _ => rfl) trivial
      exact ⟨hrest.ids, hrest.watching, hrest.distinct, hrest.last, trivial,
        hrest.late, hrest.stems⟩
  | @select ids snapshot => exact hhushed.select ids snapshot
  | fetch hgenerator => exact hhushed.fetch hgenerator
  | skip hgenerator => exact hhushed.skip hgenerator
  | send hgenerator => exact hhushed.send hgenerator

theorem Hushed.step (hhushed : Hushed state) {action : Action}
    (hstep : step state action = some next) : Hushed next := by
  cases transition_of_step hstep with
  | client hcore => exact hhushed.frame hcore
  | down hcore => exact hhushed.frame hcore
  | listener hlistener => exact hhushed.frame (stepListener_core hlistener)
  | commit hids => exact hhushed.commit hids _
  | @readCommand command requests =>
      have hframe : Hushed { state with requests := requests } :=
        hhushed.frame rfl
      exact hframe.applyCommand command
  | generator hhandler => exact hhushed.handlerStep hhandler
  | timeout => exact hhushed.rest (fun _ => rfl) trivial
  | close => exact hhushed.close

end Steps

/-! ## Every run -/

theorem Hushed.init {db : InventoryDb}
    (hids : (db.products.map Product.id).Nodup) : Hushed (.init db) where
  ids := hids
  watching productId := by simp [Watch.watching, State.init]
  distinct _ := Nat.zero_le 1
  last _ _ := Nat.zero_le 1
  looked := trivial
  late earlier hsuffix productId := by
    rw [List.suffix_nil.mp hsuffix]
    exact Nat.zero_le 1
  stems sent earlier hsuffix :=
    absurd (List.suffix_nil.mp hsuffix) (List.cons_ne_nil _ _)

/-- A look after the UNSUBSCRIBE would not have let the product through. -/
theorem Hushed.not_looked {state : State} (hhushed : Hushed state)
    {sent : StockUpdate} {older earlier : List Entry} {command : WatchCommand}
    (hsuffix : (.sent sent :: (older ++ .applied command :: earlier)) <:+
      state.log)
    (hunsubscribe : command.action = .unsubscribe)
    (hnamed : sent.productId ∈ command.productIds)
    (hquiet : ∀ entry ∈ older, ¬ entry.Subscribes sent.productId)
    (watched : Finset ℤ) : .selected watched ∉ older := by
  intro hmem
  obtain ⟨last, before, hlook, _, hwatching⟩ := hhushed.stems sent _ hsuffix
  obtain ⟨_, rest, hrest, hlast⟩ :=
    @lastLook?_of_mem (.applied command :: earlier) older watched hmem
  rw [hlook] at hlast
  obtain rfl := (Prod.mk.inj (Option.some.inj hlast)).2
  have hunwatched := (@late_since _ rest earlier _ hunsubscribe hnamed
    fun entry hentry => hquiet entry (hrest.subset hentry)).1
  exact Bool.noConfusion (hwatching.symm.trans hunwatched)

/-- Whatever the threads, the client and the database do, a product that was
given up falls silent. -/
theorem unsubscribed_silent {db : InventoryDb}
    (hids : (db.products.map Product.id).Nodup) {schedule : List Action}
    {final : State} (hrun : run step (.init db) schedule = some final) :
    FallsSilent final := by
  have hhushed : Hushed final :=
    run_invariant (fun _ _ _ hhushed hstep => hhushed.step hstep)
      (.init hids) hrun
  refine ⟨hhushed.watching, hhushed.stems, ?_⟩
  intro recent command earlier hsuffix hunsubscribe productId hnamed hquiet
  refine ⟨?_, ?_⟩
  · exact (late_since hunsubscribe hnamed hquiet).2.trans
      (hhushed.late _ hsuffix productId)
  · rintro newer sent older rfl rfl
    rw [List.append_assoc] at hsuffix
    have hsent : (.sent sent :: (older ++ .applied command :: earlier)) <:+
        final.log := (List.suffix_append _ _).trans hsuffix
    exact hhushed.not_looked hsent hunsubscribe hnamed fun entry hentry =>
      hquiet entry (List.mem_append_right _ (List.mem_cons_of_mem _ hentry))

/-- The widgets are given up between the look of `_rows` and the yield. -/
def givenUpLate : List Action :=
  [Action.send ⟨.subscribe, [1]⟩, .readCommand] ++ rounds 4 ++
    [Action.send ⟨.unsubscribe, [1]⟩, .readCommand] ++ rounds 3

theorem unsubscribed_silent_givenUpLate : ∃ final,
    run step (.init seededDb) givenUpLate = some final ∧ FallsSilent final :=
  ⟨_, rfl, @unsubscribed_silent seededDb (by decide) givenUpLate _ rfl⟩

end OrderFlow.Inventory.Watch
