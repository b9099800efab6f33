import Mathlib.Data.List.Basic

/-!
# Noninterference by unwinding

A machine takes inputs one after the other and answers each of them.  Where it
answers the inputs that count as a plain machine does, and the others leave
nothing behind that counts, a whole sequence is answered as if only those that
count had been sent to the plain machine.
-/

namespace OrderFlow.Unwinding

variable {State Plain Input Output : Type*}

/-- The state after a sequence of inputs. -/
def after (step : State → Input → State × Output) (state : State)
    (inputs : List Input) : State :=
  inputs.foldl (fun state input => (step state input).1) state

/-- Every input with its answer. -/
def transcript (step : State → Input → State × Output) :
    State → List Input → List (Input × Output)
  | _, [] => []
  | state, input :: inputs =>
      (input, (step state input).2) ::
        transcript step (step state input).1 inputs

/-- The unwinding conditions, for one input. -/
structure Unwinds (step : State → Input → State × Output)
    (plain : Plain → Input → Plain × Output) (Counts : Input → Prop)
    (Related : State → Plain → Prop) : Prop where
  counted : ∀ state other input, Related state other → Counts input →
    Related (step state input).1 (plain other input).1 ∧
      (step state input).2 = (plain other input).2
  silent : ∀ state other input, Related state other → ¬ Counts input →
    Related (step state input).1 other

section Runs

variable {step : State → Input → State × Output}
  {plain : Plain → Input → Plain × Output} {Counts : Input → Prop}
  [DecidablePred Counts] {Related : State → Plain → Prop} {state : State}
  {other : Plain}

theorem Unwinds.related (hunwinds : Unwinds step plain Counts Related)
    (hrelated : Related state other) (inputs : List Input) :
    Related (after step state inputs)
      (after plain other (inputs.filter Counts)) := by
  induction inputs generalizing state other with
  | nil => exact hrelated
  | cons input inputs ih =>
      by_cases hcounts : Counts input
      · rw [List.filter_cons_of_pos (by simpa using hcounts)]
        exact ih (hunwinds.counted state other input hrelated hcounts).1
      · rw [List.filter_cons_of_neg (by simpa using hcounts)]
        exact ih (hunwinds.silent state other input hrelated hcounts)

/-- What the inputs that count are answered does not depend on the others. -/
theorem Unwinds.answers (hunwinds : Unwinds step plain Counts Related)
    (hrelated : Related state other) (inputs : List Input) :
    (transcript step state inputs).filter (fun entry => Counts entry.1) =
      transcript plain other (inputs.filter Counts) := by
  induction inputs generalizing state other with
  | nil => rfl
  | cons input inputs ih =>
      rw [transcript]
      by_cases hcounts : Counts input
      · obtain ⟨hnext, hanswer⟩ :=
          hunwinds.counted state other input hrelated hcounts
        rw [List.filter_cons_of_pos (by simpa using hcounts),
          List.filter_cons_of_pos (by simpa using hcounts),
          transcript, hanswer, ih hnext]
      · rw [List.filter_cons_of_neg (by simpa using hcounts),
          List.filter_cons_of_neg (by simpa using hcounts)]
        exact ih (hunwinds.silent state other input hrelated hcounts)

end Runs

end OrderFlow.Unwinding
