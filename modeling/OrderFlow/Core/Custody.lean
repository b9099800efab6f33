import Mathlib.Logic.Function.Basic

/-!
# Keys in the custody of workers

Many workers share a table.  A key is in the custody of one worker at a time,
which may leave it in any condition it answers for, and a key that no worker
has is at rest.  Whether a step keeps this is a question about the worker that
takes it.
-/

namespace OrderFlow

variable {Number Worker Key Value : Type*}

/-- Which keys a worker has, in what condition it may leave them, and what it
is for a key to be at rest. -/
structure Custody (Worker Key Value : Type*) where
  Has : Worker → Key → Prop
  Leaves : Worker → Key → Value → Prop
  Rests : Key → Value → Prop

namespace Custody

/-- Every key is in the custody of one worker or at rest. -/
structure Kept (custody : Custody Worker Key Value) (workers : Number → Worker)
    (table : Key → Value) : Prop where
  apart : ∀ first second key, custody.Has (workers first) key →
    custody.Has (workers second) key → first = second
  held : ∀ number key, custody.Has (workers number) key →
    custody.Leaves (workers number) key (table key)
  resting : ∀ key, (∀ number, ¬ custody.Has (workers number) key) →
    custody.Rests key (table key)

variable {custody : Custody Worker Key Value} {workers : Number → Worker}
variable {table next : Key → Value}

/-- At first no worker has a key. -/
theorem Kept.init (hnobody : ∀ number key, ¬ custody.Has (workers number) key)
    (hrests : ∀ key, custody.Rests key (table key)) :
    custody.Kept workers table where
  apart first _ key hfirst := absurd hfirst (hnobody first key)
  held number key hhas := absurd hhas (hnobody number key)
  resting key _ := hrests key

/-- A change of the table that no worker can see. -/
theorem Kept.frame (hkept : custody.Kept workers table)
    (hheld : ∀ number key, custody.Has (workers number) key →
      next key = table key)
    (hrests : ∀ key, custody.Rests key (table key) →
      custody.Rests key (next key)) : custody.Kept workers next where
  apart := hkept.apart
  held number key hhas := by
    rw [hheld number key hhas]
    exact hkept.held number key hhas
  resting key hnobody := hrests key (hkept.resting key hnobody)

/-- One worker takes a step.  What it takes hold of was at rest, and it touches
only what it had. -/
theorem Kept.update [DecidableEq Number] (hkept : custody.Kept workers table)
    {number : Number} {worker : Worker}
    (htakes : ∀ key, custody.Has worker key →
      ¬ custody.Has (workers number) key →
        ∀ other, ¬ custody.Has (workers other) key)
    (hframe : ∀ key, ¬ custody.Has (workers number) key →
      next key = table key)
    (hleaves : ∀ key, custody.Has worker key →
      custody.Leaves worker key (next key))
    (hrests : ∀ key, custody.Has (workers number) key →
      ¬ custody.Has worker key → custody.Rests key (next key)) :
    custody.Kept (Function.update workers number worker) next := by
  have hfree : ∀ other key, other ≠ number → custody.Has worker key →
      ¬ custody.Has (workers other) key := by
    intro other key hother hhas
    by_cases hbefore : custody.Has (workers number) key
    · exact fun hboth => hother (hkept.apart other number key hboth hbefore)
    · exact htakes key hhas hbefore other
  constructor
  · intro first second key hfirst hsecond
    by_cases hone : first = number <;> by_cases htwo : second = number
    · rw [hone, htwo]
    · subst hone
      rw [Function.update_self] at hfirst
      rw [Function.update_of_ne htwo] at hsecond
      exact absurd hsecond (hfree second key htwo hfirst)
    · subst htwo
      rw [Function.update_self] at hsecond
      rw [Function.update_of_ne hone] at hfirst
      exact absurd hfirst (hfree first key hone hsecond)
    · rw [Function.update_of_ne hone] at hfirst
      rw [Function.update_of_ne htwo] at hsecond
      exact hkept.apart first second key hfirst hsecond
  · intro other key hhas
    by_cases hother : other = number
    · subst hother
      rw [Function.update_self] at hhas ⊢
      exact hleaves key hhas
    · rw [Function.update_of_ne hother] at hhas ⊢
      rw [hframe key fun hbefore =>
        hother (hkept.apart other number key hhas hbefore)]
      exact hkept.held other key hhas
  · intro key hnobody
    have hworker : ¬ custody.Has worker key := by
      have hnone := hnobody number
      rwa [Function.update_self] at hnone
    by_cases hbefore : custody.Has (workers number) key
    · exact hrests key hbefore hworker
    · rw [hframe key hbefore]
      refine hkept.resting key fun other => ?_
      by_cases hother : other = number
      · exact hother ▸ hbefore
      · have hnone := hnobody other
        rwa [Function.update_of_ne hother] at hnone

end Custody

end OrderFlow
