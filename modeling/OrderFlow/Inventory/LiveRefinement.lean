import OrderFlow.Inventory.LiveWatch

/-!
# The parts make up the call

Each step of the parts is a few steps of the call as `Watch` has it, or none:
a transaction is a commit that announces what it has changed, because every
UPDATE fires the trigger and every payload of the trigger is read.
-/

namespace OrderFlow.Inventory

open OrderFlow.ChangeFeed
open OrderFlow.Inventory.Notifications

/-! ## The tables -/

theorem InventoryDb.fits_of_available? {db : InventoryDb}
    (hids : (db.products.map Product.id).Nodup)
    (hfits : ∀ productId available, db.available? productId = some available →
      (-2 ^ 63 ≤ productId ∧ productId < 2 ^ 63) ∧
        PositiveIntegerField available) : db.Fits := by
  intro product hproduct
  exact hfits product.id product.availableQuantity
    (InventoryDb.available?_of_mem hids hproduct)

/-- The tables of a deployment that began with the tables `start`. -/
structure Stocked (start db : InventoryDb) : Prop where
  wellFormed : db.WellFormed
  fits : db.Fits
  ids : (db.products.map Product.id).Nodup
  known : ∀ productId, (db.available? productId).isSome =
    (start.available? productId).isSome

theorem Stocked.serve {start db : InventoryDb} (hstocked : Stocked start db)
    {call : ServiceCall} (hfits : (call.apply db).Fits) :
    Stocked start (call.apply db) where
  wellFormed := (call.keeps hstocked.wellFormed).wellFormed
  fits := hfits
  ids := by
    rw [call.apply_productIds]
    exact hstocked.ids
  known productId :=
    ((call.updates_lead hstocked.wellFormed).1.isSome productId).trans
      (hstocked.known productId)

namespace Live

variable {start db : InventoryDb} {tx : Tx} {rows : List (ℤ × ℤ)}

theorem updateRow_frame (db : InventoryDb) (tx : Tx) (row : ℤ × ℤ) :
    (updateRow db tx row).inserted = tx.inserted ∧
      (updateRow db tx row).released = tx.released := by
  rw [updateRow]
  cases tx.available? db row.1 <;> exact ⟨rfl, rfl⟩

theorem updateRows_frame (db : InventoryDb) (tx : Tx) (rows : List (ℤ × ℤ)) :
    (updateRows db tx rows).inserted = tx.inserted ∧
      (updateRows db tx rows).released = tx.released := by
  induction rows generalizing tx with
  | nil => exact ⟨rfl, rfl⟩
  | cons row rows ih =>
      obtain ⟨hinserted, hreleased⟩ := updateRow_frame db tx row
      obtain ⟨hlaterInserted, hlaterReleased⟩ := ih (updateRow db tx row)
      exact ⟨hlaterInserted.trans hinserted, hlaterReleased.trans hreleased⟩

theorem mem_updatedRows {change : StockChange}
    (hchange : change ∈ updatedRows db tx rows) :
    (change.key, change.new) ∈ rows ∧
      (db.available? change.key).isSome := by
  induction rows generalizing tx with
  | nil => exact absurd hchange List.not_mem_nil
  | cons row rows ih =>
      rcases List.mem_append.mp hchange with hfirst | hlater
      · obtain ⟨available, hfound, rfl⟩ :=
          Option.map_eq_some_iff.mp (Option.mem_toList.mp hfirst)
        refine ⟨List.mem_cons_self, ?_⟩
        rw [Option.isSome_iff_ne_none, Ne,
          ← Tx.available?_eq_none_iff tx db row.1, hfound]
        exact Option.some_ne_none _
      · obtain ⟨hrow, hknown⟩ := ih hlater
        exact ⟨List.mem_cons_of_mem row hrow, hknown⟩

theorem committedRows_leads (db : InventoryDb) (rows : List (ℤ × ℤ)) :
    Leads db.available? (updatedRows db .start rows)
      (db.commit (updateRows db .start rows)).available? := by
  have hleads := @updatedRows_leads db .start rows
  have hstart : Tx.start.available? db = db.available? :=
    funext (Tx.available?_start db)
  have hafter : (updateRows db .start rows).available? db =
      (db.commit (updateRows db .start rows)).available? :=
    funext fun productId => (db.available?_commit _ productId).symm
  rwa [hstart, hafter] at hleads

/-- Statements that the columns accept. -/
theorem updateRows_stocked (hstocked : Stocked start db)
    (hrows : ∀ row ∈ rows, PositiveIntegerField row.2) :
    Stocked start (db.commit (updateRows db .start rows)) := by
  have hleads := committedRows_leads db rows
  obtain ⟨hinserted, hreleased⟩ := updateRows_frame db .start rows
  have hreservations : (db.commit (updateRows db .start rows)).reservations =
      db.reservations := by
    have hsame : ∀ row, Tx.applyToRow (updateRows db .start rows) row = row :=
      fun row => Tx.applyToRow_of_not_mem (by
        rw [hreleased]
        exact List.not_mem_nil)
    rw [InventoryDb.commit, hinserted, funext hsame]
    exact (List.append_nil _).trans (List.map_id _)
  have hvalue : ∀ productId available,
      (db.commit (updateRows db .start rows)).available? productId =
        some available → (-2 ^ 63 ≤ productId ∧ productId < 2 ^ 63) ∧
          PositiveIntegerField available := by
    intro productId available havailable
    have hbefore : (db.available? productId).isSome := by
      rw [← hleads.isSome productId, havailable]
      rfl
    obtain ⟨old, hold⟩ := Option.isSome_iff_exists.mp hbefore
    obtain ⟨hid, hcolumn⟩ := hstocked.fits.available? hold
    refine ⟨hid, ?_⟩
    rcases hleads.value havailable with hsame | ⟨change, hchange, _, rfl⟩
    · rw [hold, Option.some.injEq] at hsame
      exact hsame ▸ hcolumn
    · exact hrows _ (mem_updatedRows hchange).1
  have hids : ((db.commit (updateRows db .start rows)).products.map
      Product.id).Nodup := by
    rw [db.commit_productIds]
    exact hstocked.ids
  refine ⟨⟨?_, fun productId available havailable =>
    (hvalue productId available havailable).2.1, ?_⟩,
    InventoryDb.fits_of_available? hids hvalue, hids, fun productId =>
      (hleads.isSome productId).trans (hstocked.known productId)⟩
  · rw [hreservations]
    exact hstocked.wellFormed.ids_nodup
  · rw [hreservations]
    exact hstocked.wellFormed.quantity_nonneg

/-! ## The payloads -/

/-- The payloads of a transaction announce what it has changed. -/
theorem announced_feed {limit : ℕ} {after : InventoryDb}
    (hids : (db.products.map Product.id).Nodup)
    (hidsAfter : (after.products.map Product.id).Nodup)
    {changes : List StockChange}
    (hleads : Leads db.available? changes after.available?)
    (hread : ∀ change ∈ changes,
      productId? limit (triggerPayload change.key change.new) =
        some change.key) :
    Watch.Announced db after
      ((feed triggerPayload changes).filterMap (productId? limit)) := by
  intro old hold new hnew hid hchanged
  have hbefore : db.available? new.id = some old.availableQuantity := by
    rw [hid]
    exact InventoryDb.available?_of_mem hids hold
  have hafter : after.available? new.id = some new.availableQuantity :=
    InventoryDb.available?_of_mem hidsAfter hnew
  have hdiffers : after.available? new.id ≠ db.available? new.id := by
    rw [hbefore, hafter, Ne, Option.some.injEq]
    exact hchanged
  obtain ⟨value, hmem⟩ :=
    @Leads.announced ℤ ℤ String _ _ triggerPayload _ _ _ _ hleads _ hdiffers
  refine List.mem_filterMap.mpr ⟨_, hmem, ?_⟩
  obtain ⟨change, hchange, _, hsame⟩ := mem_feed.mp hmem
  rw [hsame, hread change hchange,
    (triggerPayload_injective _ _ _ _ hsame).1]

theorem announced_serve {limit : ℕ} (hstocked : Stocked start db)
    {call : ServiceCall} (hfits : (call.apply db).Fits) :
    Watch.Announced db (call.apply db)
      ((call.notices db).filterMap (productId? (limit + 1))) :=
  announced_feed hstocked.ids (hstocked.serve hfits).ids
    (call.updates_lead hstocked.wellFormed).1 fun _ hchange =>
      productId?_change hstocked.wellFormed hstocked.fits hfits hchange

theorem announced_update {limit : ℕ} (hstocked : Stocked start db)
    (hrows : ∀ row ∈ rows, PositiveIntegerField row.2) :
    Watch.Announced db (db.commit (updateRows db .start rows))
      ((feed triggerPayload (updatedRows db .start rows)).filterMap
        (productId? (limit + 1))) := by
  have hleads := committedRows_leads db rows
  refine announced_feed hstocked.ids (updateRows_stocked hstocked hrows).ids
    hleads fun change hchange => ?_
  obtain ⟨hrow, hknown⟩ := mem_updatedRows hchange
  obtain ⟨old, hold⟩ := Option.isSome_iff_exists.mp hknown
  obtain ⟨⟨hlow, hhigh⟩, _⟩ := hstocked.fits.available? hold
  obtain ⟨hnewLow, hnewHigh⟩ := hrows _ hrow
  exact productId?_trigger (short_of_bounds hlow hhigh)
    (short_of_bounds (by omega) (by omega))

/-! ## What holds between the parts -/

open TransitionSystem

structure Wired (start : InventoryDb) (state : State) : Prop where
  /-- the generator learns of `stop` from the call -/
  stop : state.source.stop = true → state.call.stop = true
  sound : Sound state.source
  down : isListening state.source.phase = false →
    state.linkUp = false ∧ state.inbox = []
  /-- it is in its loop while the drain holds a notification -/
  held : ∀ productId, state.drain = .holding (.changed productId) ∨
    state.drain = .watched productId → isListening state.source.phase = true
  tables : Stocked start state.call.db

/-- The call can follow: it gets there by some steps of its own, and no product
goes away. -/
def Follows (limit : ℕ) (start : InventoryDb) (state next : State) : Prop :=
  ∃ labels, run Watch.step (state.toWatch limit) labels =
      some (next.toWatch limit) ∧
    ∀ label ∈ labels, ∀ productId, (start.available? productId).isSome →
      label.Keeps productId

section Follows

variable {limit : ℕ} {state next : State}

theorem Follows.silent (hsame : next.toWatch limit = state.toWatch limit) :
    Follows limit start state next :=
  ⟨[], congrArg some hsame.symm, fun _ hlabel => absurd hlabel List.not_mem_nil⟩

theorem Follows.one {label : Watch.Action}
    (hstep : Watch.step (state.toWatch limit) label =
      some (next.toWatch limit))
    (hkeeps : ∀ productId, (start.available? productId).isSome →
      label.Keeps productId) :
    Follows limit start state next := by
  refine ⟨[label], ?_, fun other hother => ?_⟩
  · rw [run_cons, hstep]
    rfl
  · rw [List.mem_singleton.mp hother]
    exact hkeeps

/-- Steps of the listener and of its connection. -/
theorem Follows.several {labels : List Watch.Action}
    (hrun : run Watch.step (state.toWatch limit) labels =
      some (next.toWatch limit))
    (hown : ∀ label ∈ labels, label = .listener ∨ label = .dropLink ∨
      label = .loseConnection ∨ label = .endListener) :
    Follows limit start state next := by
  refine ⟨labels, hrun, fun label hlabel productId _ => ?_⟩
  rcases hown label hlabel with rfl | rfl | rfl | rfl <;> trivial

end Follows

/-! ## Threads -/

section Threads

variable {call next : Watch.State} {action : Watch.Action}

theorem yieldRow_joined (call : Watch.State) (listener : Watch.Listener)
    (linkUp : Bool) (channel : List ℤ) (row : ProductStockRow)
    (snapshot : Bool) :
    (joined call listener linkUp channel).yieldRow row snapshot =
      joined (call.yieldRow row snapshot) listener linkUp channel := by
  by_cases hskip : snapshot = false ∧
      call.lastSeen row.productId = some row.availableQuantity
  · have hkept : call.yieldRow row snapshot = call := if_pos hskip
    rw [hkept]
    exact if_pos hskip
  · rw [Watch.State.yieldRow.eq_def call, if_neg hskip]
    exact if_neg hskip

/-- The reader and the handler do not look at the connection. -/
theorem step_joined (hthread : IsThread action) (listener : Watch.Listener)
    (linkUp : Bool) (channel : List ℤ) :
    Watch.step (joined call listener linkUp channel) action =
      (Watch.step call action).map fun next =>
        joined next listener linkUp channel := by
  have hyield := yieldRow_joined call listener linkUp channel
  rcases call with ⟨db, requests, requestsOpen, active, reading, watchSet,
    newlyAdded, lastSeen, stop, events, _, _, _, generator, log⟩
  cases action with
  | halfClose | cancel => rfl
  | send => cases requestsOpen <;> rfl
  | endReader =>
      cases requestsOpen <;> cases requests <;> cases active <;> rfl
  | timeout => cases generator <;> cases events <;> rfl
  | readCommand =>
      cases requests with
      | nil => rfl
      | cons command requests =>
          rcases command with ⟨action, productIds⟩
          cases action <;> cases reading <;> rfl
  | generator =>
      cases generator with
      | loopHead => cases active <;> cases stop <;> rfl
      | polling => cases events <;> rfl
      | yielding rows snapshot =>
          cases rows with
          | nil => rfl
          | cons row rows =>
              exact congrArg (fun next : Watch.State =>
                some (next.goto (.yielding rows snapshot)))
                (hyield row snapshot)
      | takingFresh | takingWatched | selecting | fetching | closed => rfl
  | failFetch => cases generator <;> rfl
  | abandon => cases generator <;> cases active <;> rfl
  | commit | dropLink | listener | loseConnection | endListener =>
      exact hthread.elim

end Threads

/-! ## One step of each part -/

section Parts

variable {limit : ℕ} {state next : State}

theorem toWatch_eq {listener : Watch.Listener} {linkUp : Bool}
    {channel : List ℤ} (hlistener : state.listener = listener)
    (hlink : state.linkUp = linkUp)
    (hchannel : state.inbox.filterMap (productId? limit) = channel) :
    state.toWatch limit = joined state.call listener linkUp channel := by
  rw [State.toWatch, hlistener, hlink, hchannel]

theorem keeps_of_thread {action : Watch.Action} (hthread : IsThread action)
    (productId : ℤ) : action.Keeps productId := by
  cases action with
  | commit => exact hthread.elim
  | _ => trivial

theorem Wired.thread (hwired : Wired start state) {action : Watch.Action}
    (hthread : IsThread action) {call : Watch.State}
    (hstep : Watch.step state.call action = some call) :
    Wired start { state with call := call } ∧
      Follows limit start state { state with call := call } := by
  have hframe := thread_frame hthread hstep
  constructor
  · exact ⟨fun hset => hframe.stop (hwired.stop hset), hwired.sound,
      hwired.down, hwired.held, hframe.db ▸ hwired.tables⟩
  · refine .one ?_ fun productId _ => keeps_of_thread hthread productId
    rw [State.toWatch, step_joined hthread, hstep]
    rfl

theorem Wired.commit (hwired : Wired start state) {after : InventoryDb}
    {payloads : List String} (hstocked : Stocked start after)
    (hannounced : Watch.Announced state.call.db after
      (payloads.filterMap (productId? limit))) :
    Wired start (state.commit after payloads) ∧
      Follows limit start state (state.commit after payloads) := by
  constructor
  · refine ⟨hwired.stop, hwired.sound, fun haway => ?_, hwired.held, hstocked⟩
    obtain ⟨hlink, hinbox⟩ := hwired.down haway
    refine ⟨hlink, ?_⟩
    rw [State.commit, hlink, hinbox]
    rfl
  · have hcommit : Watch.step (state.toWatch limit)
        (.commit after (payloads.filterMap (productId? limit))) =
          some ((state.toWatch limit).commit after
            (payloads.filterMap (productId? limit))) :=
      if_pos ⟨hstocked.ids, hannounced⟩
    have hsame : (state.commit after payloads).toWatch limit =
        (state.toWatch limit).commit after
          (payloads.filterMap (productId? limit)) := by
      have hlistener : (state.commit after payloads).listener =
          state.listener := rfl
      rw [State.toWatch, hlistener]
      cases hlink : state.linkUp with
      | true =>
          have hinbox : (state.commit after payloads).inbox =
              state.inbox ++ payloads := if_pos hlink
          rw [hinbox, List.filterMap_append]
          simp only [State.commit, State.toWatch, Watch.State.commit, joined,
            hlink, if_true]
      | false =>
          have hinbox : (state.commit after payloads).inbox = state.inbox :=
            if_neg (by simp [hlink])
          rw [hinbox]
          simp only [State.commit, State.toWatch, Watch.State.commit, joined,
            hlink, Bool.false_eq_true, if_false]
    refine .one (hcommit.trans (congrArg some hsame.symm)) fun productId hknown => ?_
    exact (hstocked.known productId).trans hknown

theorem Wired.dropLink (hwired : Wired start state) :
    Wired start { state with linkUp := false } ∧
      Follows limit start state { state with linkUp := false } := by
  constructor
  · exact ⟨hwired.stop, hwired.sound, fun haway =>
      ⟨rfl, (hwired.down haway).2⟩, hwired.held, hwired.tables⟩
  · exact @Follows.several start limit _ _ [.dropLink] rfl (by simp)

/-! The driver -/

theorem drive_quiet {event : Notifications.Event}
    {source : Notifications.Listener}
    (hyielded : source.yielded = state.source.yielded) :
    (state.drive event source).drain = .iterating := by
  rw [State.drive, hyielded, List.getElem?_eq_none le_rfl]

theorem drive_yields {event : Notifications.Event}
    {source : Notifications.Listener} {yielded : StockEvent}
    (hyielded : source.yielded = state.source.yielded ++ [yielded]) :
    (state.drive event source).drain = .holding yielded := by
  rw [State.drive, hyielded, List.getElem?_concat_length]

theorem connection_away {event : Notifications.Event} {phase : Phase}
    (haway : isListening phase = false) :
    state.connection event phase = (false, []) := by
  cases phase with
  | listening => cases haway
  | _ => rfl

theorem connection_stays {event : Notifications.Event} {phase : Phase}
    (hlistening : isListening phase = true) :
    state.connection event phase =
      match event with
      | .listens => (true, [])
      | .payload _ => (state.linkUp, state.inbox.tail)
      | _ => (state.linkUp, state.inbox) := by
  cases phase with
  | listening => rfl
  | _ => cases hlistening

theorem drive_away {event : Notifications.Event}
    {source : Notifications.Listener}
    (hyielded : source.yielded = state.source.yielded)
    (hafter : isListening source.phase = false) :
    (state.drive event source).listener = .disconnected := by
  have hphase : (state.drive event source).source.phase = source.phase := rfl
  rw [State.listener, drive_quiet hyielded, hphase, hafter]
  rfl

/-- A generator that the drain waits for. -/
theorem toWatch_iterating (hdrain : state.drain = .iterating) :
    state.toWatch limit = joined state.call
      (if isListening state.source.phase then .listening else .disconnected)
      state.linkUp (state.inbox.filterMap (productId? limit)) := by
  rw [State.toWatch, State.listener, hdrain]

/-- What the call sees of a step of the generator. -/
theorem toWatch_drive {event : Notifications.Event}
    {source : Notifications.Listener} {listener : Watch.Listener}
    {linkUp : Bool} {inbox : List String}
    (hlistener : (state.drive event source).listener = listener)
    (hconnection : state.connection event source.phase = (linkUp, inbox)) :
    (state.drive event source).toWatch limit =
      joined state.call listener linkUp
        (inbox.filterMap (productId? limit)) := by
  refine toWatch_eq hlistener ?_ ?_
  · exact congrArg Prod.fst hconnection
  · exact congrArg (fun connection : Bool × List String =>
      connection.2.filterMap (productId? limit)) hconnection

/-- The generator goes on, and the call follows. -/
theorem follows_drive (hwired : Wired start state)
    (hdrain : state.drain = .iterating) {event : Notifications.Event}
    (hdrives : state.Drives event) {source : Notifications.Listener}
    (hsource : SourceStep limit state.source event source) :
    Follows limit start state (state.drive event source) := by
  have hbegin := @toWatch_iterating limit state hdrain
  cases hsource with
  | away hbefore hafter hyielded =>
      obtain ⟨hlink, hinbox⟩ := hwired.down hbefore
      have hlistener := @drive_away state event source hyielded hafter
      refine .silent ?_
      rw [toWatch_drive hlistener (connection_away hafter), hbegin, hbefore,
        hlink, hinbox]
      rfl
  | listens hbefore hafter hyielded =>
      have hlistener : (state.drive .listens source).listener =
          .connected := by
        rw [State.listener, drive_yields hyielded]
      rw [hbefore] at hbegin
      cases hstop : state.source.stop with
      | true =>
          -- the connection is closed as soon as it is there
          rw [hstop] at hafter
          refine @Follows.several start limit _ _ [.listener, .dropLink] ?_
            (by simp)
          rw [toWatch_drive hlistener (connection_away hafter), hbegin]
          rfl
      | false =>
          rw [hstop] at hafter
          refine @Follows.several start limit _ _ [.listener] ?_ (by simp)
          rw [toWatch_drive hlistener (connection_stays hafter), hbegin]
          rfl
  | waits hbefore =>
      have hlistener : (state.drive .tick state.source).listener =
          .listening := by
        rw [State.listener, drive_quiet rfl]
        exact if_pos hbefore
      refine .silent ?_
      rw [toWatch_drive hlistener (connection_stays hbefore), hbegin, hbefore]
      rfl
  | @skips text hbefore hread =>
      have hlistener : (state.drive (.payload text) state.source).listener =
          .listening := by
        rw [State.listener, drive_quiet rfl]
        exact if_pos hbefore
      obtain ⟨inbox, hinbox⟩ := List.head?_eq_some_iff.mp hdrives
      refine .silent ?_
      rw [toWatch_drive hlistener (connection_stays hbefore), hbegin, hbefore,
        hinbox, List.filterMap_cons_none hread]
      rfl
  | @reads text productId hbefore hread =>
      have hlistener : (state.drive (.payload text)
          (state.source.emit (.changed productId))).listener =
            .received productId := by
        rw [State.listener, drive_yields rfl]
      obtain ⟨inbox, hinbox⟩ := List.head?_eq_some_iff.mp hdrives
      have hstays : isListening
          (state.source.emit (.changed productId)).phase = true := hbefore
      refine @Follows.several start limit _ _ [.listener] ?_ (by simp)
      rw [toWatch_drive hlistener (connection_stays hstays), hbegin, hbefore,
        hinbox, List.filterMap_cons_some hread]
      rfl
  | leaves hbefore hafter hyielded =>
      have hlistener := @drive_away state event source hyielded hafter
      refine @Follows.several start limit _ _ [.dropLink, .loseConnection] ?_
        (by simp)
      rw [toWatch_drive hlistener (connection_away hafter), hbegin, hbefore]
      rfl

theorem Wired.drive (hwired : Wired start state)
    (hdrain : state.drain = .iterating) {event : Notifications.Event}
    (hdrives : state.Drives event) {source : Notifications.Listener}
    (hstep : state.source.step limit event = some source) :
    Wired start (state.drive event source) ∧
      Follows limit start state (state.drive event source) := by
  have hevent : event ≠ .stops := by
    rintro rfl
    exact hdrives
  have htransition := Notifications.Listener.transition_of_step hstep
  have hsource := sourceStep_of_transition hevent htransition
  refine ⟨⟨?_, hwired.sound.transition htransition, fun haway => ?_, ?_,
    hwired.tables⟩, follows_drive hwired hdrain hdrives hsource⟩
  · have hstop : source.stop = state.source.stop := by
      rw [Notifications.Listener.stop_of_transition htransition, stopAfter]
      simp [hevent]
    intro hset
    exact hwired.stop (hstop ▸ hset)
  · have hconnection := @connection_away state event _ haway
    exact ⟨congrArg Prod.fst hconnection, congrArg Prod.snd hconnection⟩
  · intro productId hheld
    cases hsource with
    | away _ _ hyielded | leaves _ _ hyielded =>
        simp [drive_quiet hyielded] at hheld
    | listens _ _ hyielded => simp [drive_yields hyielded] at hheld
    | waits hbefore | skips hbefore => exact hbefore
    | reads hbefore => exact hbefore

/-! The drain -/

/-- `stop` is set, and the thread is over. -/
theorem Wired.endDrain (hwired : Wired start state)
    (hdrain : state.drain = .iterating)
    (haway : isListening state.source.phase = false) (call : Watch.State)
    (hcall : call = { state.call with stop := true }) :
    Wired start { state with call := call, drain := .ended } ∧
      Follows limit start state { state with call := call, drain := .ended } := by
  obtain ⟨hlink, hinbox⟩ := hwired.down haway
  subst hcall
  constructor
  · exact ⟨fun _ => rfl, hwired.sound, hwired.down, by simp, hwired.tables⟩
  · refine @Follows.several start limit _ _ [.endListener] ?_ (by simp)
    have hbegin := @toWatch_iterating limit state hdrain
    have hend : ({ state with
        call := { state.call with stop := true }
        drain := .ended } : State).toWatch limit =
          joined { state.call with stop := true } .stopped false [] :=
      toWatch_eq rfl hlink (by rw [hinbox]; rfl)
    rw [hbegin, hend]
    rfl

theorem resume_cases (state : State) :
    isListening state.source.phase = true ∧ state.resume = state ∨
      isListening state.resume.source.phase = false ∧
        state.resume.call = state.call ∧
        state.resume.source.stop = state.source.stop ∧
        Sound state.resume.source ∧
        state.resume.linkUp = false ∧ state.resume.inbox = [] ∨
      isListening state.source.phase = false ∧ state.resume = state := by
  rw [State.resume]
  cases hphase : state.source.phase with
  | listening conn =>
      simp only
      split_ifs with hstop
      · refine .inr (.inl ⟨?_, rfl, ?_, sound_innerTest _ _, rfl, rfl⟩)
        · rw [innerTest_isListening, hstop]
          rfl
        · exact (Notifications.Listener.innerTest_frame _ _).1
      · exact .inl ⟨rfl, rfl⟩
  | _ => exact .inr (.inr ⟨rfl, rfl⟩)

/-- The resync is queued, and the generator goes on. -/
theorem Wired.queueResync (hwired : Wired start state)
    (hdrain : state.drain = .holding .resync) :
    Wired start { (state.put .resync).resume with drain := .iterating } ∧
      Follows limit start state
        { (state.put .resync).resume with drain := .iterating } := by
  have hbegin : state.toWatch limit = joined state.call .connected
      state.linkUp (state.inbox.filterMap (productId? limit)) := by
    rw [State.toWatch, State.listener, hdrain]
  rcases resume_cases (state.put .resync) with
    ⟨hlistening, hsame⟩ | ⟨haway, hcall, hstop, hsound, hlink, hinbox⟩ |
      ⟨haway, hsame⟩
  · rw [hsame]
    constructor
    · exact ⟨hwired.stop, hwired.sound, hwired.down, by simp, hwired.tables⟩
    · refine @Follows.several start limit _ _ [.listener] ?_ (by simp)
      rw [hbegin, toWatch_iterating rfl]
      have hphase : isListening state.source.phase = true := hlistening
      simp only [State.put, hphase]
      rfl
  · constructor
    · refine ⟨fun hset => ?_, hsound, fun _ => ⟨hlink, hinbox⟩, by simp, ?_⟩
      · change (state.put .resync).resume.call.stop = true
        rw [hcall]
        exact hwired.stop (hstop.symm.trans hset)
      · change Stocked start (state.put .resync).resume.call.db
        rw [hcall]
        exact hwired.tables
    · refine @Follows.several start limit _ _
        [.listener, .dropLink, .loseConnection] ?_ (by simp)
      rw [hbegin, toWatch_iterating rfl]
      simp only [haway, hcall, hlink, hinbox]
      rfl
  · have hphase : isListening state.source.phase = false := haway
    obtain ⟨hlink, hinbox⟩ := hwired.down hphase
    rw [hsame]
    constructor
    · exact ⟨hwired.stop, hwired.sound, hwired.down, by simp, hwired.tables⟩
    · refine @Follows.several start limit _ _
        [.listener, .dropLink, .loseConnection] ?_ (by simp)
      rw [hbegin, toWatch_iterating rfl]
      simp only [State.put, hphase, hlink, hinbox]
      rfl

/-- A notification is looked at, or its marker queued. -/
theorem Wired.notification (hwired : Wired start state)
    {call : Watch.State} {drain : Drain} (before after : Watch.Listener)
    (hlistener : state.listener = before)
    (hstep : ∀ linkUp channel,
      Watch.step (joined state.call before linkUp channel) .listener =
        some (joined call after linkUp channel))
    (hafter : ({ state with call := call, drain := drain } : State).listener =
      after)
    (hcall : call.stop = state.call.stop ∧ call.db = state.call.db)
    (hlistening : isListening state.source.phase = true) :
    Wired start { state with call := call, drain := drain } ∧
      Follows limit start state { state with call := call, drain := drain } := by
  constructor
  · refine ⟨fun hset => ?_, hwired.sound, hwired.down, fun _ _ => hlistening, ?_⟩
    · exact hcall.1.trans (hwired.stop hset)
    · change Stocked start call.db
      rw [hcall.2]
      exact hwired.tables
  · refine @Follows.several start limit _ _ [.listener] ?_ (by simp)
    have hend : ({ state with call := call, drain := drain } : State).toWatch
        limit = joined call after state.linkUp
          (state.inbox.filterMap (productId? limit)) :=
      toWatch_eq hafter rfl rfl
    rw [State.toWatch, hlistener, hend, run_cons, hstep]
    rfl

theorem Wired.stepDrain (hwired : Wired start state)
    (hstep : stepDrain state = some next) :
    Wired start next ∧ Follows limit start state next := by
  cases @actCase_of_drain limit _ _ hstep with
  | commit hcommits => cases hcommits
  | returned hdrain hphase =>
      refine hwired.endDrain hdrain (by rw [hphase]; rfl) state.call ?_
      have hstop := hwired.stop (hwired.sound hphase)
      rw [← hstop]
  | raised hdrain hphase =>
      exact hwired.endDrain hdrain (by rw [hphase]; rfl) _ rfl
  | resync hdrain => exact hwired.queueResync hdrain
  | @looks productId hdrain =>
      have hlistening := hwired.held productId (.inl hdrain)
      refine hwired.notification (.received productId)
        (if productId ∈ state.call.watchSet then .watched productId
          else .listening) ?_ (fun _ _ => rfl) ?_ ⟨rfl, rfl⟩ hlistening
      · rw [State.listener, hdrain]
      · by_cases hwatched : productId ∈ state.call.watchSet
        · simp only [State.listener, hwatched, if_true]
        · simp only [State.listener, hwatched, if_false, hlistening, if_true]
  | @queues productId hdrain =>
      have hlistening := hwired.held productId (.inr hdrain)
      refine hwired.notification (.watched productId) .listening ?_
        (fun _ _ => rfl) ?_ ⟨rfl, rfl⟩ hlistening
      · rw [State.listener, hdrain]
      · exact if_pos hlistening

end Parts

/-! ## Every run -/

section Runs

variable {limit : ℕ} {state next final : State}

theorem Wired.act {action : Action} (hwired : Wired start state)
    (hact : act (limit + 1) state action = some next) :
    Wired start next ∧ Follows (limit + 1) start state next := by
  cases action with
  | call action =>
      simp only [Live.act, Option.ite_none_right_eq_some,
        Option.map_eq_some_iff] at hact
      obtain ⟨hthread, call, hstep, rfl⟩ := hact
      exact hwired.thread hthread hstep
  | serve request =>
      simp only [Live.act, Option.ite_none_right_eq_some,
        Option.some.injEq] at hact
      obtain ⟨hfits, rfl⟩ := hact
      exact hwired.commit (hwired.tables.serve hfits)
        (announced_serve hwired.tables hfits)
  | update rows =>
      simp only [Live.act, Option.ite_none_right_eq_some,
        Option.some.injEq] at hact
      obtain ⟨hrows, rfl⟩ := hact
      exact hwired.commit (updateRows_stocked hwired.tables hrows)
        (announced_update hwired.tables hrows)
  | notify payload =>
      cases hact
      refine hwired.commit hwired.tables fun old hold new hnew hid hchanged => ?_
      obtain rfl := List.inj_on_of_nodup_map hwired.tables.ids hnew hold hid
      exact absurd rfl hchanged
  | dropLink =>
      cases hact
      exact hwired.dropLink
  | driver event =>
      simp only [Live.act, Option.ite_none_right_eq_some,
        Option.map_eq_some_iff] at hact
      obtain ⟨⟨hdrain, hdrives⟩, source, hstep, rfl⟩ := hact
      exact hwired.drive hdrain hdrives hstep
  | drain => exact hwired.stepDrain hact

/-- The generator learns of `stop`; the call sees nothing of it. -/
theorem Wired.share (hwired : Wired start state)
    (hshare : state.share limit = some next) :
    Wired start next ∧ next.toWatch limit = state.toWatch limit := by
  obtain ⟨_, source, rfl, rfl | ⟨hset, htransition⟩⟩ := share_frame hshare
  · exact ⟨hwired, rfl⟩
  have hlistening : isListening source.phase =
      isListening state.source.phase := by
    cases htransition with
    | stopsWaiting hphase => rw [hphase]; rfl
    | stops => rfl
  constructor
  · exact ⟨fun _ => hset, hwired.sound.transition htransition,
      fun haway => hwired.down (hlistening ▸ haway),
      fun productId hheld => hlistening.trans (hwired.held productId hheld),
      hwired.tables⟩
  · simp only [State.toWatch, State.listener, hlistening]

theorem Wired.step {action : Action} (hwired : Wired start state)
    (hstep : step (limit + 1) state action = some next) :
    Wired start next ∧ Follows (limit + 1) start state next := by
  obtain ⟨middle, hact, hshare⟩ := Option.bind_eq_some_iff.mp hstep
  obtain ⟨hmiddle, hfollows⟩ := hwired.act hact
  obtain ⟨hnext, hsame⟩ := hmiddle.share hshare
  refine ⟨hnext, ?_⟩
  rw [Follows, hsame]
  exact hfollows

theorem Wired.init {db : InventoryDb} (hwell : db.WellFormed)
    (hfits : db.Fits) (hids : (db.products.map Product.id).Nodup) :
    Wired db (.init db) where
  stop hset := Bool.noConfusion hset
  sound hphase := Phase.noConfusion hphase
  down _ := ⟨rfl, rfl⟩
  held _ hheld := by simp [State.init] at hheld
  tables := ⟨hwell, hfits, hids, fun _ => rfl⟩

/-- The call has got, by steps of its own, to where the parts are. -/
structure Matched (limit : ℕ) (start : InventoryDb) (state : State) :
    Prop where
  wired : Wired start state
  run : ∃ labels, run Watch.step (.init start) labels =
      some (state.toWatch limit) ∧
    ∀ label ∈ labels, ∀ productId, (start.available? productId).isSome →
      label.Keeps productId

theorem Matched.init {db : InventoryDb} (hwell : db.WellFormed)
    (hfits : db.Fits) (hids : (db.products.map Product.id).Nodup) :
    Matched limit db (.init db) where
  wired := .init hwell hfits hids
  run := ⟨[], rfl, fun _ hlabel => absurd hlabel List.not_mem_nil⟩

theorem Matched.step {action : Action}
    (hmatched : Matched (limit + 1) start state)
    (hstep : step (limit + 1) state action = some next) :
    Matched (limit + 1) start next := by
  obtain ⟨hwired, later, hlater, hlaterKeeps⟩ := hmatched.wired.step hstep
  obtain ⟨labels, hlabels, hkeeps⟩ := hmatched.run
  refine ⟨hwired, labels ++ later, ?_, fun label hlabel => ?_⟩
  · rw [run_append, hlabels, Option.bind_some, hlater]
  · exact (List.mem_append.mp hlabel).elim (hkeeps label) (hlaterKeeps label)

theorem Matched.chronological (hmatched : Matched limit start state)
    (hids : (start.products.map Product.id).Nodup) :
    Watch.Chronological start state.call.log := by
  obtain ⟨labels, hlabels, _⟩ := hmatched.run
  have htime : Watch.InTime start (state.toWatch limit) :=
    run_invariant (fun _ _ _ htime hstep => htime.step hstep) (.init hids)
      hlabels
  obtain ⟨read, hread⟩ := htime.read
  refine ⟨fun productId => ?_, htime.changed⟩
  obtain ⟨dates, hdated, _⟩ := hread.dated productId
  exact ⟨dates, hdated⟩

theorem Matched.tracked (hmatched : Matched limit start state)
    (hids : (start.products.map Product.id).Nodup) {productId : ℤ}
    (hknown : (start.available? productId).isSome) :
    Watch.Tracked productId (state.toWatch limit) := by
  obtain ⟨labels, hlabels, hkeeps⟩ := hmatched.run
  exact run_invariant_along
    (fun _ _ _ htracked hkeep hstep => htracked.step hkeep hstep)
    (.init hids hknown)
    (Along.of_forall (fun label hlabel =>
      hkeeps label hlabel productId hknown) _) hlabels

/-- Whatever the parts do, the call as `Watch` has it does the same, with the
same log. -/
theorem live_refines {db : InventoryDb} (hwell : db.WellFormed)
    (hfits : db.Fits) (hids : (db.products.map Product.id).Nodup)
    {schedule : List Action}
    (hrun : run (step (limit + 1)) (.init db) schedule = some final) :
    ∃ labels, run Watch.step (.init db) labels =
        some (final.toWatch (limit + 1)) ∧
      ∀ label ∈ labels, ∀ productId, (db.available? productId).isSome →
        label.Keeps productId := by
  have hmatched : Matched (limit + 1) db final :=
    run_invariant (fun _ _ _ hmatched hstep => hmatched.step hstep)
      (.init hwell hfits hids) hrun
  exact hmatched.run

/-- The handler takes its next steps alone. -/
def handler (count : ℕ) : List Action :=
  List.replicate count (.call .generator)

/-- Somebody watches the widgets while two of them are sold and another session
sends a text that is no payload. -/
def liveSale : List Action :=
  [.driver .connects, .driver .listens, .drain] ++ handler 6 ++
    [.call (.send ⟨.subscribe, [1]⟩), .call .readCommand] ++ handler 7 ++
    [.notify "sold",
      .serve (.reserve ⟨.ofText "order-1", [⟨1, 2⟩], .empty⟩ id),
      .driver (.payload "sold"), .driver (.payload (triggerPayload 1 98)),
      .drain, .drain] ++ handler 6

theorem live_refines_liveSale : ∃ final labels,
    run (step 2) (.init seededDb) liveSale = some final ∧
      run Watch.step (.init seededDb) labels = some (final.toWatch 2) := by
  obtain ⟨final, hrun⟩ := Option.isSome_iff_exists.mp
    (by decide +kernel : (run (step 2) (.init seededDb) liveSale).isSome)
  obtain ⟨labels, hlabels, _⟩ :=
    live_refines seededDb_wellFormed (by decide) (by decide) hrun
  exact ⟨final, labels, hrun, hlabels⟩

/-- Everything that has reached the call is handled. -/
structure Quiescent (state : State) : Prop where
  streamOpen : state.call.requestsOpen = true
  /-- the drain waits for a notification on a live connection -/
  connected : state.drain = .iterating ∧ state.linkUp = true
  requests : state.call.requests = []
  inbox : state.inbox = []
  events : state.call.events = []
  waiting : state.call.generator = .loopHead ∨ state.call.generator = .polling

instance (state : State) : Decidable (Quiescent state) :=
  decidable_of_iff (state.call.requestsOpen = true ∧
    (state.drain = .iterating ∧ state.linkUp = true) ∧
    state.call.requests = [] ∧ state.inbox = [] ∧ state.call.events = [] ∧
    (state.call.generator = .loopHead ∨ state.call.generator = .polling))
    ⟨fun ⟨hopen, hconnected, hrequests, hinbox, hevents, hwaiting⟩ =>
      ⟨hopen, hconnected, hrequests, hinbox, hevents, hwaiting⟩,
    fun ⟨hopen, hconnected, hrequests, hinbox, hevents, hwaiting⟩ =>
      ⟨hopen, hconnected, hrequests, hinbox, hevents, hwaiting⟩⟩

theorem Quiescent.toWatch (hwired : Wired start state)
    (hquiet : Quiescent state) : Watch.Quiescent (state.toWatch limit) := by
  obtain ⟨hdrain, hlink⟩ := hquiet.connected
  have hlistening : isListening state.source.phase = true := by
    by_contra haway
    have hdown := hwired.down (by simpa using haway)
    exact Bool.noConfusion (hlink.symm.trans hdown.1)
  refine ⟨hquiet.streamOpen, ⟨?_, hlink⟩, hquiet.requests, ?_, hquiet.events,
    hquiet.waiting⟩
  · change state.listener = .listening
    rw [State.listener, hdrain]
    exact if_pos hlistening
  · exact congrArg (List.filterMap (productId? limit)) hquiet.inbox

theorem Matched.upToDate (hmatched : Matched limit start state)
    (hids : (start.products.map Product.id).Nodup) (hquiet : Quiescent state)
    {productId : ℤ} (hwatched : productId ∈ state.call.watchSet)
    (hknown : (start.available? productId).isSome) :
    Watch.UpToDate state.call productId := by
  obtain ⟨hgreeted, hcurrent⟩ := (hmatched.tracked hids hknown).upToDate
    (Quiescent.toWatch hmatched.wired hquiet) hwatched
  exact ⟨hgreeted, hcurrent⟩

/-- The updates of a product go forward in the history of the table, and when
the parts have come to rest the last one of every watched product carries what
`reserve_stock`, `release_stock` and the other writers have left. -/
theorem live_up_to_date {db : InventoryDb} (hwell : db.WellFormed)
    (hfits : db.Fits) (hids : (db.products.map Product.id).Nodup)
    {schedule : List Action}
    (hrun : run (step (limit + 1)) (.init db) schedule = some final) :
    Watch.Chronological db final.call.log ∧
      (Quiescent final → ∀ productId ∈ final.call.watchSet,
        (db.available? productId).isSome →
          Watch.UpToDate final.call productId) := by
  have hmatched : Matched (limit + 1) db final :=
    run_invariant (fun _ _ _ hmatched hstep => hmatched.step hstep)
      (.init hwell hfits hids) hrun
  exact ⟨hmatched.chronological hids, fun hquiet _ hwatched hknown =>
    hmatched.upToDate hids hquiet hwatched hknown⟩

theorem live_up_to_date_liveSale : ∃ final,
    run (step 2) (.init seededDb) liveSale = some final ∧
      Watch.Chronological seededDb final.call.log ∧
        Watch.UpToDate final.call 1 := by
  have hrests : (run (step 2) (.init seededDb) liveSale).any
      fun final => decide (Quiescent final ∧ 1 ∈ final.call.watchSet) := by
    decide +kernel
  obtain ⟨final, hrun, hboth⟩ := (Option.any_eq_true _ _).mp hrests
  obtain ⟨hquiet, hwatched⟩ := of_decide_eq_true hboth
  obtain ⟨hchronological, hcurrent⟩ :=
    live_up_to_date seededDb_wellFormed (by decide) (by decide) hrun
  exact ⟨final, hrun, hchronological,
    hcurrent hquiet 1 hwatched (by decide)⟩

end Runs

end Live

end OrderFlow.Inventory
