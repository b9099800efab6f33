import OrderFlow.Orders.StockWatch
import Mathlib.Data.List.Forall2

/-!
# Which sessions the bridge survives

The pump goes on after a frame whose JSON is no command.  A frame that is not
JSON, and a command with an id that no message can carry, end it: the sentinel
is queued while the client is still there.
-/

namespace OrderFlow.Orders.StockWatch

open OrderFlow.Inventory.Watch (WatchCommand StockUpdate)
open OrderFlow.Json
open OrderFlow.TransitionSystem

/-! ## Frames -/

section Frames

variable (libraries : Libraries) (limit : ℕ)

/-- The command that a frame stands for, if it is valid: JSON of the right
shape whose ids fit. -/
def translation? (text : String) : Option WatchCommand :=
  match loads limit text.toList with
  | .error _ => none
  | .ok raw =>
      match WatchCommandIn.modelValidate? libraries raw with
      | none => none
      | some command => if command.Encodable then some command.message else none

/-- The frame is JSON, the report on it can be sent if it is no command, and
its ids fit if it is one. -/
def Passes (text : String) : Prop :=
  ∃ raw, loads limit text.toList = .ok raw ∧
    match WatchCommandIn.modelValidate? libraries raw with
    | none => libraries.sendable (libraries.errors raw) = true
    | some command => command.Encodable

instance (text : String) : Decidable (Passes libraries limit text) :=
  match hloads : loads limit text.toList with
  | .error _ => .isFalse fun hpasses => by
      obtain ⟨raw, hraw, _⟩ := hpasses
      rw [hloads] at hraw
      cases hraw
  | .ok raw =>
      match hvalid : WatchCommandIn.modelValidate? libraries raw with
      | none =>
          decidable_of_iff (libraries.sendable (libraries.errors raw) = true)
            (by simp [Passes, hloads, hvalid])
      | some command =>
          decidable_of_iff command.Encodable
            (by simp [Passes, hloads, hvalid])

/-- An error message with this detail answers the frame. -/
def Reports (text : String) (detail : Value) : Prop :=
  ∀ raw, loads limit text.toList = .ok raw →
    WatchCommandIn.modelValidate? libraries raw = none →
      detail = libraries.errors raw

/-- The frames that are no valid command. -/
def invalid (frames : List String) : List String :=
  frames.filter fun text => (translation? libraries limit text).isNone

theorem invalid_cons (text : String) (rest : List String) :
    invalid libraries limit (text :: rest) =
      invalid libraries limit [text] ++ invalid libraries limit rest :=
  List.filter_append [text] rest

/-- What the pump does with a frame. -/
inductive FrameCase (text : String) : Handled → Prop
  | queues (command : WatchCommand)
      (hcommand : translation? libraries limit text = some command)
      (hpasses : Passes libraries limit text) :
      FrameCase text (.queues command)
  | answers (detail : Value)
      (hinvalid : translation? libraries limit text = none)
      (hreports : Reports libraries limit text detail)
      (hpasses : Passes libraries limit text) :
      FrameCase text (.answers detail)
  | raises (error : PumpError) (hfails : ¬ Passes libraries limit text) :
      FrameCase text (.raises error)

theorem handleFrame_case (text : String) :
    FrameCase libraries limit text (handleFrame libraries limit text) := by
  rw [handleFrame]
  cases hloads : loads limit text.toList with
  | error error =>
      refine .raises _ fun hpasses => ?_
      obtain ⟨raw, hraw, _⟩ := hpasses
      rw [hloads] at hraw
      cases hraw
  | ok raw =>
      cases hvalid : WatchCommandIn.modelValidate? libraries raw with
      | none =>
          have hinvalid : translation? libraries limit text = none := by
            simp only [translation?, hloads, hvalid]
          have hpasses : Passes libraries limit text ↔
              libraries.sendable (libraries.errors raw) = true := by
            simp [Passes, hloads, hvalid]
          have hreports : Reports libraries limit text
              (libraries.errors raw) := by
            intro other hother _
            rw [hloads] at hother
            cases hother
            rfl
          simp only [hvalid]
          split_ifs with hsendable
          · exact .answers _ hinvalid hreports (hpasses.mpr hsendable)
          · exact .raises _ fun hpass => hsendable (hpasses.mp hpass)
      | some command =>
          have hpasses : Passes libraries limit text ↔ command.Encodable := by
            simp [Passes, hloads, hvalid]
          simp only [hvalid]
          split_ifs with hencodable
          · refine .queues _ ?_ (hpasses.mpr hencodable)
            simp only [translation?, hloads, hvalid, if_pos hencodable]
          · exact .raises _ fun hpass => hencodable (hpasses.mp hpass)

end Frames

/-! ## Sessions -/

/-- What the client does. -/
def Event.fromClient : Event → Bool
  | .frame _ => true
  | .disconnect => true
  | _ => false

/-- The client sends these frames and leaves. -/
def Script (frames : List String) (events : List Event) : Prop :=
  events.filter Event.fromClient = frames.map .frame ++ [.disconnect]

def Outgoing.detail? : Outgoing → Option Value
  | .error detail => some detail
  | .update _ => none

/-- The error messages that were sent. -/
def Bridge.answers (bridge : Bridge) : List Value :=
  bridge.sent.filterMap Outgoing.detail?

/-- The session went as it should. -/
structure Bridged (libraries : Libraries) (limit : ℕ) (frames : List String)
    (bridge : Bridge) : Prop where
  /-- the valid frames are on the queue, and after the disconnect its end -/
  log : bridge.log =
    (frames.filterMap (translation? libraries limit)).map .queued ++
      [.disconnected, .sentinel]
  /-- an invalid frame gets one error message -/
  answered : List.Forall₂ (Reports libraries limit)
    (invalid libraries limit frames) bridge.answers
  /-- the call has got the commands so far in their order -/
  requested : bridge.requests <+:
    frames.filterMap (translation? libraries limit)
  /-- and all of them when its request stream ends -/
  complete : bridge.requestsOpen = false →
    bridge.requests = frames.filterMap (translation? libraries limit)

/-! ## What a step can do -/

/-- What an event makes of the session. -/
inductive Bridge.Transition (libraries : Libraries) (limit : ℕ)
    (bridge : Bridge) : Event → Bridge → Prop
  | frame (text : String) :
      Transition libraries limit bridge (.frame text)
        (bridge.handle (handleFrame libraries limit text))
  | unread (text : String) :
      Transition libraries limit bridge (.frame text) bridge
  | disconnect :
      Transition libraries limit bridge .disconnect
        (Bridge.endPump { bridge with log := bridge.log ++ [.disconnected] }
          .returned)
  | left :
      Transition libraries limit bridge .disconnect
        { bridge with log := bridge.log ++ [.disconnected] }
  | take {command : WatchCommand} {commands : List (Option WatchCommand)}
      (hopen : bridge.requestsOpen = true)
      (hcommands : bridge.commands = some command :: commands) :
      Transition libraries limit bridge .take
        { bridge with
          commands := commands
          requests := bridge.requests ++ [command] }
  | close {commands : List (Option WatchCommand)}
      (hopen : bridge.requestsOpen = true)
      (hcommands : bridge.commands = none :: commands) :
      Transition libraries limit bridge .take
        { bridge with commands := commands, requestsOpen := false }
  | update (update : StockUpdate) :
      Transition libraries limit bridge (.update update)
        { bridge with
          sent := bridge.sent ++ [.update (stockUpdateOut update)] }
  | teardown :
      Transition libraries limit bridge .teardown
        { bridge with outbound := false }

theorem Bridge.transition_of_step {libraries : Libraries} {limit : ℕ}
    {bridge next : Bridge} {event : Event}
    (hstep : bridge.step libraries limit event = some next) :
    bridge.Transition libraries limit event next := by
  cases event with
  | frame text =>
      rw [step] at hstep
      split_ifs at hstep <;> cases hstep
      · exact .frame text
      · exact .unread text
  | disconnect =>
      rw [step] at hstep
      split_ifs at hstep <;> cases hstep
      · exact .disconnect
      · exact .left
  | take =>
      rw [step] at hstep
      split_ifs at hstep with hopen
      cases hcommands : bridge.commands with
      | nil =>
          rw [hcommands] at hstep
          cases hstep
      | cons head commands =>
          rw [hcommands] at hstep
          cases head with
          | some command =>
              cases hstep
              exact .take hopen.2 hcommands
          | none =>
              cases hstep
              exact .close hopen.2 hcommands
  | update update =>
      rw [step] at hstep
      split_ifs at hstep
      cases hstep
      exact .update update
  | teardown =>
      rw [step] at hstep
      split_ifs at hstep
      cases hstep
      exact .teardown

/-! ## The queue -/

/-- What an entry put on the queue. -/
def Entry.put? : Entry → Option (Option WatchCommand)
  | .queued command => some (some command)
  | .sentinel => some none
  | .disconnected => none

/-- The queue is first in, first out. -/
def Bridge.Fifo (bridge : Bridge) : Prop :=
  bridge.log.filterMap Entry.put? =
    bridge.requests.map some ++
      ((if bridge.requestsOpen then [] else [none]) ++ bridge.commands)

section Steps

variable {libraries : Libraries} {limit : ℕ} {bridge next : Bridge}

theorem Bridge.Fifo.endPump (hfifo : bridge.Fifo) (pump : Pump) :
    (bridge.endPump pump).Fifo := by
  rw [Bridge.Fifo] at hfifo ⊢
  rw [Bridge.endPump, List.filterMap_append, hfifo]
  simp [Entry.put?]

theorem Bridge.Fifo.handle (hfifo : bridge.Fifo) (handled : Handled) :
    (bridge.handle handled).Fifo := by
  cases handled with
  | queues command =>
      rw [Bridge.Fifo] at hfifo ⊢
      rw [Bridge.handle, List.filterMap_append, hfifo]
      simp [Entry.put?]
  | answers detail => exact hfifo
  | raises error => exact hfifo.endPump _

theorem Bridge.Fifo.step {event : Event} (hfifo : bridge.Fifo)
    (hstep : bridge.step libraries limit event = some next) : next.Fifo := by
  have hleft : Bridge.Fifo
      { bridge with log := bridge.log ++ [.disconnected] } := by
    rw [Bridge.Fifo] at hfifo ⊢
    rw [List.filterMap_append, hfifo]
    simp [Entry.put?]
  cases Bridge.transition_of_step hstep with
  | frame text => exact hfifo.handle _
  | disconnect => exact hleft.endPump _
  | left => exact hleft
  | take hopen hcommands =>
      rw [Bridge.Fifo] at hfifo ⊢
      rw [hfifo, hcommands]
      simp [hopen]
  | close hopen hcommands =>
      rw [Bridge.Fifo] at hfifo ⊢
      rw [hfifo, hcommands]
      simp [hopen]
  | unread | update | teardown => exact hfifo

/-- The call and the outbound pump leave the inbound one alone. -/
theorem Bridge.step_other {event : Event} (hother : event.fromClient = false)
    (hstep : bridge.step libraries limit event = some next) :
    next.pump = bridge.pump ∧ next.log = bridge.log ∧
      next.answers = bridge.answers := by
  cases Bridge.transition_of_step hstep with
  | frame | unread | disconnect | left => cases hother
  | take | close | teardown => exact ⟨rfl, rfl, rfl⟩
  | update update =>
      refine ⟨rfl, rfl, ?_⟩
      rw [Bridge.answers, List.filterMap_append]
      exact List.append_nil _

theorem Bridge.handle_log (bridge : Bridge) (handled : Handled) :
    bridge.log <+: (bridge.handle handled).log := by
  cases handled with
  | queues command => exact List.prefix_append _ _
  | answers detail => exact List.prefix_rfl
  | raises error => exact List.prefix_append _ _

theorem Bridge.step_log {event : Event}
    (hstep : bridge.step libraries limit event = some next) :
    bridge.log <+: next.log := by
  have hleft := List.prefix_append bridge.log [.disconnected]
  cases Bridge.transition_of_step hstep with
  | frame text => exact bridge.handle_log _
  | disconnect => exact hleft.trans (List.prefix_append _ _)
  | left => exact hleft
  | unread | take | close | update | teardown => exact List.prefix_rfl

end Steps

/-! ## Whole sessions -/

section Sessions

variable {libraries : Libraries} {limit : ℕ} {bridge final : Bridge}
variable {events : List Event}

theorem run_fifo (hfifo : bridge.Fifo)
    (hrun : run (Bridge.step libraries limit) bridge events = some final) :
    final.Fifo :=
  run_invariant (fun _ _ _ hkept hstep => hkept.step hstep) hfifo hrun

theorem run_log
    (hrun : run (Bridge.step libraries limit) bridge events = some final) :
    bridge.log <+: final.log :=
  @run_invariant _ _ _ (fun other => bridge.log <+: other.log)
    (fun _ _ _ hkept hstep => hkept.trans (Bridge.step_log hstep))
    _ _ _ List.prefix_rfl hrun

/-- Without the client nothing more is queued or answered. -/
theorem run_quiet (hquiet : events.filter Event.fromClient = [])
    (hrun : run (Bridge.step libraries limit) bridge events = some final) :
    final.log = bridge.log ∧ final.answers = bridge.answers := by
  induction events generalizing bridge with
  | nil =>
      cases hrun
      exact ⟨rfl, rfl⟩
  | cons event events ih =>
      obtain ⟨next, hstep, hrest⟩ := run_cons_eq_some hrun
      rw [List.filter_eq_nil_iff, List.forall_mem_cons] at hquiet
      have hkept := Bridge.step_other (Bool.eq_false_iff.mpr hquiet.1) hstep
      have hfinal := ih (List.filter_eq_nil_iff.mpr hquiet.2) hrest
      rw [hfinal.1, hfinal.2]
      exact hkept.2

/-- What comes next in a script. -/
theorem Script.next {frames : List String} {event : Event}
    (hscript : Script frames (event :: events)) :
    (event.fromClient = false ∧ Script frames events) ∨
    (∃ text rest, event = .frame text ∧ frames = text :: rest ∧
      Script rest events) ∨
    (event = .disconnect ∧ frames = [] ∧
      events.filter Event.fromClient = []) := by
  rw [Script] at hscript
  cases hclient : event.fromClient with
  | false =>
      rw [List.filter_cons_of_neg (by simp [hclient])] at hscript
      exact .inl ⟨rfl, hscript⟩
  | true =>
      rw [List.filter_cons_of_pos hclient] at hscript
      cases frames with
      | nil =>
          rw [List.map_nil, List.nil_append, List.cons.injEq] at hscript
          exact .inr (.inr ⟨hscript.1, rfl, hscript.2⟩)
      | cons text rest =>
          rw [List.map_cons, List.cons_append, List.cons.injEq] at hscript
          exact .inr (.inl ⟨text, rest, hscript.1, rfl, hscript.2⟩)

/-- The pump takes a frame that passes, and goes on. -/
theorem Bridge.handle_passes {text : String}
    (hpasses : Passes libraries limit text) :
    (bridge.handle (handleFrame libraries limit text)).pump = bridge.pump ∧
      (bridge.handle (handleFrame libraries limit text)).log = bridge.log ++
        (translation? libraries limit text).toList.map .queued ∧
      ∃ details,
        (bridge.handle (handleFrame libraries limit text)).answers =
          bridge.answers ++ details ∧
        List.Forall₂ (Reports libraries limit)
          (invalid libraries limit [text]) details := by
  have hcase := handleFrame_case libraries limit text
  generalize handleFrame libraries limit text = handled at hcase ⊢
  cases hcase with
  | queues command hcommand _ =>
      rw [hcommand]
      refine ⟨rfl, rfl, [], (List.append_nil _).symm, ?_⟩
      rw [invalid, List.filter_cons_of_neg (by simp [hcommand])]
      exact .nil
  | answers detail hinvalid hreports _ =>
      rw [hinvalid]
      refine ⟨rfl, (List.append_nil _).symm, [detail], ?_, ?_⟩
      · rw [Bridge.answers, Bridge.handle, List.filterMap_append]
        rfl
      · rw [invalid, List.filter_cons_of_pos (by simp [hinvalid])]
        exact .cons hreports .nil
  | raises error hfails => exact absurd hpasses hfails

theorem run_passes {frames : List String} (hscript : Script frames events)
    (hrunning : bridge.pump = .running)
    (hpasses : ∀ text ∈ frames, Passes libraries limit text)
    (hrun : run (Bridge.step libraries limit) bridge events = some final) :
    final.log = bridge.log ++
        ((frames.filterMap (translation? libraries limit)).map .queued ++
          [.disconnected, .sentinel]) ∧
      ∃ details, final.answers = bridge.answers ++ details ∧
        List.Forall₂ (Reports libraries limit)
          (invalid libraries limit frames) details := by
  induction events generalizing bridge frames with
  | nil => simp [Script] at hscript
  | cons event events ih =>
      obtain ⟨next, hstep, hrest⟩ := run_cons_eq_some hrun
      rcases hscript.next with ⟨hother, hnext⟩ |
        ⟨text, rest, rfl, rfl, hnext⟩ | ⟨rfl, rfl, hquiet⟩
      · obtain ⟨hpump, hlog, hanswers⟩ := Bridge.step_other hother hstep
        have hfinal := ih hnext (hpump.trans hrunning) hpasses hrest
        rwa [hlog, hanswers] at hfinal
      · rw [Bridge.step, if_pos hrunning] at hstep
        cases hstep
        rw [List.forall_mem_cons] at hpasses
        obtain ⟨hpump, hlog, first, hfirst, hreport⟩ :=
          @Bridge.handle_passes libraries limit bridge text hpasses.1
        obtain ⟨hfinalLog, details, hdetails, hreports⟩ :=
          ih hnext (hpump.trans hrunning) hpasses.2 hrest
        refine ⟨?_, first ++ details, ?_, ?_⟩
        · rw [hfinalLog, hlog]
          cases htranslation : translation? libraries limit text <;>
            simp [htranslation]
        · rw [hdetails, hfirst, List.append_assoc]
        · rw [invalid_cons]
          exact List.rel_append hreport hreports
      · rw [Bridge.step, if_pos hrunning] at hstep
        cases hstep
        obtain ⟨hlog, hanswers⟩ := run_quiet hquiet hrest
        rw [hlog, hanswers]
        refine ⟨?_, [], (List.append_nil _).symm, .nil⟩
        simp [Bridge.endPump]

/-! ## Sessions that break off -/

def Entry.ends : Entry → Bool
  | .queued _ => false
  | _ => true

/-- The sentinel comes before the disconnect. -/
def Bridge.Broken (bridge : Bridge) : Prop :=
  bridge.log.find? Entry.ends = some .sentinel

/-- The client is there, and nothing has gone wrong. -/
def Bridge.Unbroken (bridge : Bridge) : Prop :=
  bridge.log.find? Entry.ends = none

theorem Bridge.Unbroken.handle_queues (hunbroken : bridge.Unbroken)
    (command : WatchCommand) : (bridge.handle (.queues command)).Unbroken := by
  rw [Bridge.Unbroken, Bridge.handle, List.find?_append, hunbroken]
  rfl

theorem Bridge.Unbroken.handle_raises (hunbroken : bridge.Unbroken)
    (error : PumpError) : (bridge.handle (.raises error)).Broken := by
  rw [Bridge.Broken, Bridge.handle, Bridge.endPump, List.find?_append,
    hunbroken]
  rfl

theorem run_fails {frames : List String} (hscript : Script frames events)
    (hrunning : bridge.pump = .running) (hunbroken : bridge.Unbroken)
    {text : String} (htext : text ∈ frames)
    (hfails : ¬ Passes libraries limit text)
    (hrun : run (Bridge.step libraries limit) bridge events = some final) :
    final.Broken := by
  induction events generalizing bridge frames with
  | nil => simp [Script] at hscript
  | cons event events ih =>
      obtain ⟨next, hstep, hrest⟩ := run_cons_eq_some hrun
      rcases hscript.next with ⟨hother, hnext⟩ |
        ⟨first, rest, rfl, rfl, hnext⟩ | ⟨rfl, rfl, hquiet⟩
      · obtain ⟨hpump, hlog, _⟩ := Bridge.step_other hother hstep
        refine ih hnext (hpump.trans hrunning) ?_ htext hrest
        rw [Bridge.Unbroken, hlog]
        exact hunbroken
      · rw [Bridge.step, if_pos hrunning] at hstep
        cases hstep
        have hcase := handleFrame_case libraries limit first
        generalize handleFrame libraries limit first = handled at hcase hrest
        have hlater : Passes libraries limit first → text ∈ rest := by
          intro hpasses
          rcases List.mem_cons.mp htext with rfl | hlater
          · exact absurd hpasses hfails
          · exact hlater
        cases hcase with
        | queues command _ hpasses =>
            have hpump : (bridge.handle (.queues command)).pump = .running :=
              hrunning
            exact ih hnext hpump (hunbroken.handle_queues command)
              (hlater hpasses) hrest
        | answers detail _ _ hpasses =>
            have hpump : (bridge.handle (.answers detail)).pump = .running :=
              hrunning
            exact ih hnext hpump hunbroken (hlater hpasses) hrest
        | raises error _ =>
            exact (run_log hrest).find?_eq_some
              (hunbroken.handle_raises error)
      · cases htext

/-- Where the session went as it should, the client left first. -/
theorem Bridged.not_broken {frames : List String}
    (hbridged : Bridged libraries limit frames bridge) : ¬ bridge.Broken := by
  have hqueued : ((frames.filterMap (translation? libraries limit)).map
      Entry.queued).find? Entry.ends = none := by
    rw [List.find?_eq_none]
    intro entry hentry
    obtain ⟨command, _, rfl⟩ := List.mem_map.mp hentry
    simp [Entry.ends]
  rw [Bridge.Broken, hbridged.log, List.find?_append, hqueued]
  intro hbroken
  cases hbroken

/-- What the call has got when the queue was closed after `commands`. -/
theorem Bridge.Fifo.requested {commands : List WatchCommand}
    (hfifo : bridge.Fifo)
    (hlog : bridge.log = commands.map .queued ++ [.disconnected, .sentinel]) :
    bridge.requests <+: commands ∧
      (bridge.requestsOpen = false → bridge.requests = commands) := by
  have hput : bridge.log.filterMap Entry.put? = commands.map some ++ [none] := by
    have hqueued : Entry.put? ∘ Entry.queued = some ∘ some := rfl
    rw [hlog, List.filterMap_append, List.filterMap_map, hqueued,
      List.filterMap_eq_map]
    rfl
  rw [Bridge.Fifo, hput] at hfifo
  constructor
  · have hreduced := congrArg (List.filterMap id) hfifo
    simp only [List.filterMap_append, List.filterMap_map, Function.id_comp,
      List.filterMap_some] at hreduced
    exact ⟨_, hreduced.symm.trans (List.append_nil _)⟩
  · intro hclosed
    rw [hclosed] at hfifo
    have htaken := congrArg (List.takeWhile Option.isSome) hfifo
    have hsome : bridge.requests.map some = commands.map some := by
      simpa using htaken.symm
    exact List.map_injective_iff.mpr (Option.some_injective _) hsome

end Sessions

/-! ## The bridge -/

/-- In every interleaving of the pumps with the client and the call, the
session goes as it should exactly when all frames pass. -/
theorem bridged_iff (libraries : Libraries) (limit : ℕ) {frames : List String}
    {events : List Event} {final : Bridge} (hscript : Script frames events)
    (hrun : run (Bridge.step libraries limit) .start events = some final) :
    Bridged libraries limit frames final ↔
      ∀ text ∈ frames, Passes libraries limit text := by
  have hrunning : Bridge.start.pump = .running := rfl
  constructor
  · intro hbridged
    by_contra hfails
    rw [not_forall] at hfails
    obtain ⟨text, hfails⟩ := hfails
    rw [Classical.not_imp] at hfails
    have hunbroken : Bridge.start.Unbroken := rfl
    exact hbridged.not_broken
      (run_fails hscript hrunning hunbroken hfails.1 hfails.2 hrun)
  · intro hpasses
    obtain ⟨hlog, details, hdetails, hreports⟩ :=
      run_passes hscript hrunning hpasses hrun
    have hstart : Bridge.start.Fifo := rfl
    obtain ⟨hgot, hcomplete⟩ := (run_fifo hstart hrun).requested hlog
    refine ⟨hlog, ?_, hgot, hcomplete⟩
    rw [hdetails]
    exact hreports

/-- Conversion of what is an integer or a boolean. -/
def plain : Libraries where
  toInt?
    | .int number => some number
    | .bool value => some (if value then 1 else 0)
    | _ => none
  toInt?_int _ := rfl
  errors raw := .array [.object [(.ofString "input", raw)]]
  sendable _ := true

def subscribeText : String :=
  "\x7b\"action\": \"subscribe\", \"product_ids\": [7, 9]\x7d"

def unsubscribeText : String :=
  "\x7b\"action\": \"unsubscribe\", \"product_ids\": [7]\x7d"

theorem bridged_two_commands :
    ∃ final,
      run (Bridge.step plain 100) .start [.frame subscribeText, .take,
        .frame unsubscribeText, .disconnect, .take, .take] = some final ∧
      Bridged plain 100 [subscribeText, unsubscribeText] final ∧
      final.requests = [⟨.subscribe, [7, 9]⟩, ⟨.unsubscribe, [7]⟩] := by
  have hrequests : (run (Bridge.step plain 100) .start [.frame subscribeText,
      .take, .frame unsubscribeText, .disconnect, .take, .take]).map
        Bridge.requests =
      some [⟨.subscribe, [7, 9]⟩, ⟨.unsubscribe, [7]⟩] := by
    decide +kernel
  obtain ⟨final, hrun, hfinal⟩ := Option.map_eq_some_iff.mp hrequests
  have hscript : Script [subscribeText, unsubscribeText]
      [.frame subscribeText, .take, .frame unsubscribeText, .disconnect, .take,
        .take] := rfl
  have hpasses : ∀ text ∈ [subscribeText, unsubscribeText],
      Passes plain 100 text := by
    decide +kernel
  exact ⟨final, hrun, (bridged_iff plain 100 hscript hrun).mpr hpasses, hfinal⟩

/-- A text that is not JSON ends the pump before the client leaves, and is not
answered. -/
theorem notJson_not_bridged :
    (run (Bridge.step plain 100) .start [.frame "subscribe", .disconnect]).map
        (fun bridge => (bridge.pump, bridge.log, bridge.sent.length)) =
      some (.raised (.json .valueError), [.sentinel, .disconnected], 0) ∧
    ¬ ∀ (libraries : Libraries) (limit : ℕ) (frames : List String)
        (events : List Event) (final : Bridge),
      Script frames events →
      run (Bridge.step libraries limit) .start events = some final →
      Bridged libraries limit frames final := by
  have hended : (run (Bridge.step plain 100) .start
      [.frame "subscribe", .disconnect]).map
        (fun bridge => (bridge.pump, bridge.log, bridge.sent.length)) =
      some (.raised (.json .valueError), [.sentinel, .disconnected], 0) := by
    decide +kernel
  refine ⟨hended, fun hall => ?_⟩
  obtain ⟨final, hrun, hfinal⟩ := Option.map_eq_some_iff.mp hended
  have hscript : Script ["subscribe"] [.frame "subscribe", .disconnect] := rfl
  have hlog := (hall plain 100 _ _ final hscript hrun).log
  rw [Prod.mk.injEq, Prod.mk.injEq] at hfinal
  rw [hfinal.2.1] at hlog
  revert hlog
  decide +kernel

end OrderFlow.Orders.StockWatch
