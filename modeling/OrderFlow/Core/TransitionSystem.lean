import Mathlib.Logic.Basic
import Mathlib.Data.Option.Basic
import Mathlib.Data.Nat.Notation

/-!
# Runs, invariants and forward simulation of partial step functions

A system is a function `step : State → Action → Option State`, where `none`
says that the action is not enabled.  A schedule is a list of actions.  This
file packages the two inductions every later argument rests on: an invariant
of one step holds after every run, and a step-by-step simulation carries a
whole run of one system to a run of another one.
-/

namespace OrderFlow.TransitionSystem

variable {State Action : Type*}

/-- Execute a schedule; `none` as soon as one action is not enabled. -/
def run (step : State → Action → Option State) :
    State → List Action → Option State
  | state, [] => some state
  | state, action :: schedule =>
      (step state action).bind fun next => run step next schedule

@[simp]
theorem run_nil (step : State → Action → Option State) (state : State) :
    run step state [] = some state := rfl

@[simp]
theorem run_cons (step : State → Action → Option State) (state : State)
    (action : Action) (schedule : List Action) :
    run step state (action :: schedule) =
      (step state action).bind fun next => run step next schedule := rfl

theorem run_append (step : State → Action → Option State) (state : State)
    (first second : List Action) :
    run step state (first ++ second) =
      (run step state first).bind fun middle => run step middle second := by
  induction first generalizing state with
  | nil => rfl
  | cons action first ih =>
      rw [List.cons_append, run_cons, run_cons, Option.bind_assoc]
      exact congrArg _ (funext ih)

/-- A run of a nonempty schedule exposes its first step. -/
theorem run_cons_eq_some {step : State → Action → Option State}
    {state final : State} {action : Action} {schedule : List Action}
    (hrun : run step state (action :: schedule) = some final) :
    ∃ next, step state action = some next ∧
      run step next schedule = some final := by
  rw [run_cons] at hrun
  exact Option.bind_eq_some_iff.mp hrun

/-- Every step of the run meets `Allowed` in the state it is taken from. -/
def Along (step : State → Action → Option State)
    (Allowed : State → Action → Prop) : State → List Action → Prop
  | _, [] => True
  | state, action :: schedule =>
      Allowed state action ∧
        ∀ next, step state action = some next →
          Along step Allowed next schedule

/-- On a given schedule the side condition can be evaluated. -/
instance Along.decidable (step : State → Action → Option State)
    (Allowed : State → Action → Prop)
    [∀ state action, Decidable (Allowed state action)] :
    ∀ state schedule, Decidable (Along step Allowed state schedule)
  | _, [] => isTrue trivial
  | state, action :: schedule =>
      match hstep : step state action with
      | none =>
          decidable_of_iff (Allowed state action) <| by
            simp [Along, hstep]
      | some next =>
          have := Along.decidable step Allowed next schedule
          decidable_of_iff
            (Allowed state action ∧ Along step Allowed next schedule) <| by
              simp [Along, hstep]

/-- Invariant rule for runs whose steps all meet a side condition. -/
theorem run_invariant_along {step : State → Action → Option State}
    {Allowed : State → Action → Prop} {Invariant : State → Prop}
    (hstep : ∀ state action next, Invariant state → Allowed state action →
      step state action = some next → Invariant next)
    {state final : State} {schedule : List Action}
    (hinit : Invariant state) (halong : Along step Allowed state schedule)
    (hrun : run step state schedule = some final) : Invariant final := by
  induction schedule generalizing state with
  | nil =>
      rw [run_nil, Option.some.injEq] at hrun
      exact hrun ▸ hinit
  | cons action schedule ih =>
      obtain ⟨next, hnext, hrest⟩ := run_cons_eq_some hrun
      exact ih (hstep state action next hinit halong.1 hnext)
        (halong.2 next hnext) hrest

/-- A side condition on the actions alone is one on the schedule. -/
theorem Along.of_forall {step : State → Action → Option State}
    {Allowed : Action → Prop} {schedule : List Action}
    (hall : ∀ action ∈ schedule, Allowed action) (state : State) :
    Along step (fun _ action => Allowed action) state schedule := by
  induction schedule generalizing state with
  | nil => trivial
  | cons action schedule ih =>
      refine ⟨hall action List.mem_cons_self, fun next _ => ih ?_ next⟩
      exact fun other hother => hall other (List.mem_cons_of_mem action hother)

/-- Invariant rule: what one step preserves holds after every run. -/
theorem run_invariant {step : State → Action → Option State}
    {Invariant : State → Prop}
    (hstep : ∀ state action next, Invariant state →
      step state action = some next → Invariant next)
    {state final : State} {schedule : List Action}
    (hinit : Invariant state) (hrun : run step state schedule = some final) :
    Invariant final := by
  have halong : Along step (fun _ _ => True) state schedule :=
    @Along.of_forall _ _ step (fun _ => True) schedule (fun _ _ => trivial) state
  exact run_invariant_along (fun state action next hkept _ hnext =>
    hstep state action next hkept hnext) hinit halong hrun

/-- When the first step against `Allowed` leads into `Spoilt`, which is never
left, a run meets `Allowed` all along or ends in `Spoilt`. -/
theorem along_or_spoilt {step : State → Action → Option State}
    {Allowed : State → Action → Prop} {Invariant Spoilt : State → Prop}
    (hstep : ∀ state action next, Invariant state → Allowed state action →
      step state action = some next → Invariant next)
    (henter : ∀ state action next, Invariant state →
      ¬ Allowed state action → step state action = some next → Spoilt next)
    (hkeep : ∀ state action next, Spoilt state →
      step state action = some next → Spoilt next)
    {state final : State} {schedule : List Action}
    (hinit : Invariant state) (hrun : run step state schedule = some final) :
    Along step Allowed state schedule ∨ Spoilt final := by
  induction schedule generalizing state with
  | nil => exact .inl trivial
  | cons action schedule ih =>
      obtain ⟨next, hnext, hrest⟩ := run_cons_eq_some hrun
      by_cases hallowed : Allowed state action
      · have hkept := hstep state action next hinit hallowed hnext
        refine (ih hkept hrest).imp_left fun halong => ⟨hallowed, ?_⟩
        intro other hother
        rwa [Option.some.inj (hother.symm.trans hnext)]
      · have hspoilt := henter state action next hinit hallowed hnext
        exact .inr (run_invariant hkeep hspoilt hrest)

/-- When each step that counts raises the potential, and no step lowers it,
the potential bounds how many of them a run has. -/
theorem run_countP_le {step : State → Action → Option State}
    {Invariant : State → Prop} {counts : Action → Bool} {potential : State → ℕ}
    (hstep : ∀ state action next, Invariant state →
      step state action = some next → Invariant next)
    (hraise : ∀ state action next, Invariant state →
      step state action = some next →
        potential state + (if counts action then 1 else 0) ≤ potential next)
    {state final : State} {schedule : List Action} (hinit : Invariant state)
    (hrun : run step state schedule = some final) :
    potential state + schedule.countP counts ≤ potential final := by
  induction schedule generalizing state with
  | nil =>
      rw [run_nil, Option.some.injEq] at hrun
      exact hrun ▸ Nat.le_refl _
  | cons action schedule ih =>
      obtain ⟨next, hnext, hrest⟩ := run_cons_eq_some hrun
      have hfirst := hraise state action next hinit hnext
      have hlater := ih (hstep state action next hinit hnext) hrest
      rw [List.countP_cons]
      omega

/-- When each step that counts lowers the measure, and no step raises it, the
measure bounds how many of them are still to come. -/
theorem run_countP_add_le {step : State → Action → Option State}
    {Invariant : State → Prop} {counts : Action → Bool} {measure : State → ℕ}
    (hstep : ∀ state action next, Invariant state →
      step state action = some next → Invariant next)
    (hlower : ∀ state action next, Invariant state →
      step state action = some next →
        (if counts action then 1 else 0) + measure next ≤ measure state)
    {state final : State} {schedule : List Action} (hinit : Invariant state)
    (hrun : run step state schedule = some final) :
    schedule.countP counts + measure final ≤ measure state := by
  induction schedule generalizing state with
  | nil =>
      obtain rfl := Option.some.inj hrun
      exact Nat.le_of_eq (Nat.zero_add _)
  | cons action schedule ih =>
      obtain ⟨next, hnext, hrest⟩ := run_cons_eq_some hrun
      have hfirst := hlower state action next hinit hnext
      have hlater := ih (hstep state action next hinit hnext) hrest
      rw [List.countP_cons]
      omega

/-- Where the system can always lower the measure, it can bring it to zero in
as many steps. -/
theorem exists_run_to_zero {step : State → Action → Option State}
    {Invariant : State → Prop} {measure : State → ℕ}
    (hstep : ∀ state, Invariant state → measure state ≠ 0 →
      ∃ action next, step state action = some next ∧ Invariant next ∧
        measure next < measure state)
    {state : State} (hinit : Invariant state) :
    ∃ schedule final, schedule.length ≤ measure state ∧
      run step state schedule = some final ∧ Invariant final ∧
        measure final = 0 := by
  induction hmeasure : measure state using Nat.strongRecOn generalizing state with
  | ind bound ih =>
      by_cases hzero : measure state = 0
      · exact ⟨[], state, Nat.zero_le _, rfl, hinit, hzero⟩
      · obtain ⟨action, next, hnext, hkept, hlower⟩ := hstep state hinit hzero
        obtain ⟨schedule, final, hlength, hrun, hfinal⟩ :=
          ih (measure next) (hmeasure ▸ hlower) hkept rfl
        refine ⟨action :: schedule, final, ?_, ?_, hfinal⟩
        · rw [List.length_cons]
          omega
        · rw [run_cons, hnext]
          exact hrun

/-! ## Forward simulation -/

section Simulation

variable {Abstract Event : Type*}

/-- The events a run shows: `event state action` is the abstract action that
the concrete step stands for, or `none` for an internal step. -/
def trace (step : State → Action → Option State)
    (event : State → Action → Option Event) :
    State → List Action → List Event
  | _, [] => []
  | state, action :: schedule =>
      (event state action).toList ++
        match step state action with
        | none => []
        | some next => trace step event next schedule

/-- `Related` is a forward simulation: internal steps keep the relation, and a
step with an event is matched by that abstract action. -/
structure ForwardSimulation (step : State → Action → Option State)
    (abstractStep : Abstract → Event → Option Abstract)
    (event : State → Action → Option Event)
    (Allowed : State → Action → Prop)
    (Related : State → Abstract → Prop) : Prop where
  internal : ∀ state action next abstract, Related state abstract →
    Allowed state action → step state action = some next →
      event state action = none → Related next abstract
  matched : ∀ state action next abstract label, Related state abstract →
    Allowed state action → step state action = some next →
      event state action = some label →
        ∃ abstractNext, abstractStep abstract label = some abstractNext ∧
          Related next abstractNext

/-- A forward simulation carries every run to the run of its events. -/
theorem ForwardSimulation.run {step : State → Action → Option State}
    {abstractStep : Abstract → Event → Option Abstract}
    {event : State → Action → Option Event}
    {Allowed : State → Action → Prop} {Related : State → Abstract → Prop}
    (hsim : ForwardSimulation step abstractStep event Allowed Related)
    {state final : State} {abstract : Abstract} {schedule : List Action}
    (hrelated : Related state abstract)
    (halong : Along step Allowed state schedule)
    (hrun : TransitionSystem.run step state schedule = some final) :
    ∃ abstractFinal,
      TransitionSystem.run abstractStep abstract
          (trace step event state schedule) = some abstractFinal ∧
        Related final abstractFinal := by
  induction schedule generalizing state abstract with
  | nil =>
      rw [run_nil, Option.some.injEq] at hrun
      exact ⟨abstract, rfl, hrun ▸ hrelated⟩
  | cons action schedule ih =>
      obtain ⟨next, hnext, hrest⟩ := run_cons_eq_some hrun
      cases hevent : event state action with
      | none =>
          have hkept := hsim.internal state action next abstract hrelated
            halong.1 hnext hevent
          simpa [trace, hevent, hnext] using
            ih hkept (halong.2 next hnext) hrest
      | some label =>
          obtain ⟨abstractNext, habstract, hkept⟩ :=
            hsim.matched state action next abstract label hrelated
              halong.1 hnext hevent
          simpa [trace, hevent, hnext, habstract] using
            ih hkept (halong.2 next hnext) hrest

/-- Whatever a step shows, there is a related abstract state after it. -/
theorem ForwardSimulation.exists_related {step : State → Action → Option State}
    {abstractStep : Abstract → Event → Option Abstract}
    {event : State → Action → Option Event}
    {Allowed : State → Action → Prop} {Related : State → Abstract → Prop}
    (hsim : ForwardSimulation step abstractStep event Allowed Related)
    {state next : State} {abstract : Abstract} {action : Action}
    (hrelated : Related state abstract) (hallowed : Allowed state action)
    (hstep : step state action = some next) :
    ∃ abstractNext, Related next abstractNext := by
  cases hevent : event state action with
  | none =>
      exact ⟨abstract, hsim.internal state action next abstract hrelated
        hallowed hstep hevent⟩
  | some label =>
      obtain ⟨abstractNext, _, hkept⟩ := hsim.matched state action next
        abstract label hrelated hallowed hstep hevent
      exact ⟨abstractNext, hkept⟩

/-- A side condition may be asked for where none was needed. -/
theorem ForwardSimulation.strengthen {step : State → Action → Option State}
    {abstractStep : Abstract → Event → Option Abstract}
    {event : State → Action → Option Event}
    {Allowed Narrower : State → Action → Prop}
    {Related : State → Abstract → Prop}
    (hsim : ForwardSimulation step abstractStep event Allowed Related)
    (hnarrower : ∀ state action, Narrower state action →
      Allowed state action) :
    ForwardSimulation step abstractStep event Narrower Related where
  internal state action next abstract hrelated hstepAllowed :=
    hsim.internal state action next abstract hrelated
      (hnarrower state action hstepAllowed)
  matched state action next abstract label hrelated hstepAllowed :=
    hsim.matched state action next abstract label hrelated
      (hnarrower state action hstepAllowed)

/-- An invariant of the abstract system rides along with a simulation. -/
theorem ForwardSimulation.withInvariant {step : State → Action → Option State}
    {abstractStep : Abstract → Event → Option Abstract}
    {event : State → Action → Option Event}
    {Allowed : State → Action → Prop} {Related : State → Abstract → Prop}
    (hsim : ForwardSimulation step abstractStep event Allowed Related)
    {AbstractAllowed : Abstract → Event → Prop} {Invariant : Abstract → Prop}
    (hallowed : ∀ state action abstract label, Related state abstract →
      Allowed state action → event state action = some label →
        AbstractAllowed abstract label)
    (hstep : ∀ abstract label next, Invariant abstract →
      AbstractAllowed abstract label →
        abstractStep abstract label = some next → Invariant next) :
    ForwardSimulation step abstractStep event Allowed
      (fun state abstract => Related state abstract ∧ Invariant abstract) where
  internal state action next abstract hboth hstepAllowed hnext hevent :=
    ⟨hsim.internal state action next abstract hboth.1 hstepAllowed hnext
      hevent, hboth.2⟩
  matched state action next abstract label hboth hstepAllowed hnext hevent := by
    obtain ⟨abstractNext, habstract, hkept⟩ := hsim.matched state action next
      abstract label hboth.1 hstepAllowed hnext hevent
    have hlabel := hallowed state action abstract label hboth.1 hstepAllowed
      hevent
    exact ⟨abstractNext, habstract, hkept,
      hstep abstract label abstractNext hboth.2 hlabel habstract⟩

end Simulation

end OrderFlow.TransitionSystem
