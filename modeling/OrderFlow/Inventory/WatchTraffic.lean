import OrderFlow.Inventory.LiveWatch

/-!
# What goes into a call and comes out of it

The commands that the reader applies are those that have arrived, in order, and
the watch set is what they amount to.  The updates are read off the log, where
they stand in the order in which they were sent.
-/

namespace OrderFlow.Inventory.Watch

open TransitionSystem

def Entry.command? : Entry → Option WatchCommand
  | .applied command => some command
  | .committed _ | .selected _ | .sent _ => none

def Entry.sent? : Entry → Option StockUpdate
  | .sent update => some update
  | .applied _ | .committed _ | .selected _ => none

/-- The commands applied, the oldest first. -/
def commandsOf (log : List Entry) : List WatchCommand :=
  log.reverse.filterMap Entry.command?

/-- The updates sent, the oldest first. -/
def updatesOf (log : List Entry) : List StockUpdate :=
  log.reverse.filterMap Entry.sent?

/-- What a command makes of a watch set. -/
def WatchCommand.apply (watched : Finset ℤ) (command : WatchCommand) :
    Finset ℤ :=
  match command.action with
  | .subscribe => watched ∪ command.productIds.toFinset
  | .unsubscribe => watched \ command.productIds.toFinset

/-- The products that a client watches after these commands. -/
def watchedBy (commands : List WatchCommand) : Finset ℤ :=
  commands.foldl WatchCommand.apply ∅

section Log

variable {productId : ℤ} {log recent : List Entry}

theorem commandsOf_append :
    commandsOf (recent ++ log) = commandsOf log ++ commandsOf recent := by
  rw [commandsOf, List.reverse_append, List.filterMap_append]
  rfl

theorem updatesOf_append :
    updatesOf (recent ++ log) = updatesOf log ++ updatesOf recent := by
  rw [updatesOf, List.reverse_append, List.filterMap_append]
  rfl

theorem updatesOf_cons (entry : Entry) :
    updatesOf (entry :: log) = updatesOf log ++ entry.sent?.toList := by
  rw [updatesOf, List.reverse_cons, List.filterMap_append]
  cases entry <;> rfl

/-- The last update of a product, from both ends. -/
theorem lastUpdate?_eq_findLast :
    lastUpdate? productId log = ((updatesOf log).filter fun update =>
      update.productId = productId).getLast? := by
  induction log with
  | nil => rfl
  | cons entry log ih =>
      rw [updatesOf_cons, List.filter_append, List.getLast?_append, ← ih]
      cases entry with
      | sent update =>
          by_cases hsame : update.productId = productId
          · subst hsame
            rw [lastUpdate?_sent]
            simp [Entry.sent?]
          · rw [lastUpdate?_sent_other hsame]
            simp [Entry.sent?, hsame]
      | applied | committed | selected =>
          rw [lastUpdate?_cons_none rfl]
          simp [Entry.sent?]

end Log

/-! ## Traffic -/

/-- What a step adds to the log, and what has arrived meanwhile. -/
structure Traffic (call next : State) (arrivals : List WatchCommand)
    (recent : List Entry) : Prop where
  log : next.log = recent ++ call.log
  requests : commandsOf recent ++ next.requests = call.requests ++ arrivals
  watchSet : next.watchSet =
    (commandsOf recent).foldl WatchCommand.apply call.watchSet

/-- The command that arrives with an action. -/
def Action.arrivals : Action → List WatchCommand
  | .send command => [command]
  | _ => []

section Steps

variable {call next : State}

/-- Nothing is applied and nothing arrives. -/
theorem Traffic.quiet {recent : List Entry}
    (hlog : next.log = recent ++ call.log)
    (hcommands : commandsOf recent = [])
    (hrequests : next.requests = call.requests)
    (hwatch : next.watchSet = call.watchSet) :
    Traffic call next [] recent where
  log := hlog
  requests := by rw [hcommands, hrequests, List.append_nil, List.nil_append]
  watchSet := by rw [hcommands, hwatch, List.foldl_nil]

theorem Traffic.handler (hhandler : HandlerStep call next) :
    ∃ recent, Traffic call next [] recent := by
  cases hhandler with
  | @select ids =>
      exact ⟨[.selected (call.watchSet ∩ ids)], .quiet rfl rfl rfl rfl⟩
  | @send row rows snapshot =>
      exact ⟨[.sent (update row snapshot)], .quiet rfl rfl rfl rfl⟩
  | _ => exact ⟨[], .quiet rfl rfl rfl rfl⟩

theorem Traffic.applyCommand {command : WatchCommand}
    {requests : List WatchCommand} (hrequests : call.requests =
      command :: requests) :
    Traffic call ({ call with requests := requests }.applyCommand command) []
      [.applied command] where
  log := State.applyCommand_log _ command
  requests := by
    rw [hrequests, State.applyCommand]
    cases command.action <;> exact (List.append_nil _).symm
  watchSet := by
    have hone : commandsOf [.applied command] = [command] := rfl
    rw [hone, List.foldl_cons, List.foldl_nil, WatchCommand.apply,
      State.applyCommand]
    cases command.action <;> rfl

theorem Traffic.thread {action : Action} (hthread : Live.IsThread action)
    (hstep : step call action = some next) :
    ∃ recent, Traffic call next action.arrivals recent := by
  cases Live.threadCase hthread hstep with
  | handler hhandler => exact Traffic.handler hhandler
  | send command => exact ⟨[], rfl, rfl, rfl⟩
  | readCommand hrequests => exact ⟨_, .applyCommand hrequests⟩
  | halfClose | cancel | endReader | timeout | failFetch | abandon =>
      exact ⟨[], .quiet rfl rfl rfl rfl⟩

end Steps

end OrderFlow.Inventory.Watch

namespace OrderFlow.Inventory.Live

open OrderFlow.Inventory.Watch (Traffic WatchCommand)

/-- The command that arrives with an action of one of the parts. -/
def Action.arrivals : Action → List WatchCommand
  | .call action => action.arrivals
  | _ => []

theorem resume_call (state : State) : state.resume.call = state.call := by
  rw [State.resume]
  split
  · split_ifs <;> rfl
  · rfl

/-- The parts below the call have no traffic of their own but the commits. -/
theorem traffic_of_step {limit : ℕ} {state next : State} {action : Action}
    (hstep : step limit state action = some next) :
    ∃ recent, Traffic state.call next.call action.arrivals recent := by
  obtain ⟨middle, hact, hshare⟩ := Option.bind_eq_some_iff.mp hstep
  obtain ⟨_, source, rfl, _⟩ := share_frame hshare
  have hsame : ∀ events stop, ∃ recent, Traffic state.call
      { state.call with events := events, stop := stop } [] recent :=
    fun _ _ => ⟨[], .quiet rfl rfl rfl rfl⟩
  cases actCase_of_act hact with
  | thread hthread hcallStep => exact Traffic.thread hthread hcallStep
  | @commit _ after payloads hcommits =>
      have harrivals : action.arrivals = [] := by
        cases action with
        | call => cases hcommits
        | _ => rfl
      rw [harrivals]
      exact ⟨[.committed after.products], .quiet rfl rfl rfl rfl⟩
  | dropLink | drive | returned | looks =>
      exact hsame state.call.events state.call.stop
  | raised => exact hsame state.call.events true
  | resync =>
      change ∃ recent, Traffic state.call (state.put .resync).resume.call []
        recent
      rw [resume_call]
      exact hsame _ state.call.stop
  | queues => exact hsame _ state.call.stop

end OrderFlow.Inventory.Live
