import Mathlib.Logic.Relation
import Mathlib.Order.Defs.PartialOrder

/-!
# Wait-for graphs

An owner waits for another one when that one holds the resource it needs next.
If resources have ranks and every blocked owner holds only resources of a lower
rank than the one it needs, nobody waits for itself through others.
-/

namespace OrderFlow

variable {Resource Owner Rank : Type*}

/-- `waiter` needs `resource`, which `owner` holds. -/
def WaitsOn (needs : Owner → Option Resource)
    (holds : Owner → Resource → Prop) (waiter : Owner) (resource : Resource)
    (owner : Owner) : Prop :=
  needs waiter = some resource ∧ holds owner resource ∧ owner ≠ waiter

/-- An edge of the wait-for graph. -/
def WaitsFor (needs : Owner → Option Resource)
    (holds : Owner → Resource → Prop) (waiter owner : Owner) : Prop :=
  ∃ resource, WaitsOn needs holds waiter resource owner

/-- A cycle of the wait-for graph. -/
def Deadlock (needs : Owner → Option Resource)
    (holds : Owner → Resource → Prop) : Prop :=
  ∃ owner, Relation.TransGen (WaitsFor needs holds) owner owner

variable {needs : Owner → Option Resource} {holds : Owner → Resource → Prop}

/-- Along a path of the graph the resource needed first has the lowest rank. -/
theorem rank_lt_of_transGen [Preorder Rank] {rank : Resource → Rank}
    (hordered : ∀ first second third held needed,
      WaitsOn needs holds first held second →
        WaitsOn needs holds second needed third → rank held < rank needed)
    {first second third : Owner} {needed : Resource}
    (hpath : Relation.TransGen (WaitsFor needs holds) first second)
    (hlast : WaitsOn needs holds second needed third) :
    ∃ held, needs first = some held ∧ rank held < rank needed := by
  induction hpath generalizing needed third with
  | single hedge =>
      obtain ⟨held, hwaits⟩ := hedge
      exact ⟨held, hwaits.1, hordered _ _ _ _ _ hwaits hlast⟩
  | tail _ hedge ih =>
      obtain ⟨middle, hwaits⟩ := hedge
      obtain ⟨held, hneeds, hlower⟩ := ih hwaits
      exact ⟨held, hneeds,
        lt_trans hlower (hordered _ _ _ _ _ hwaits hlast)⟩

/-- Resources taken in increasing order never close a cycle. -/
theorem not_deadlock_of_ordered [Preorder Rank] {rank : Resource → Rank}
    (hordered : ∀ first second third held needed,
      WaitsOn needs holds first held second →
        WaitsOn needs holds second needed third → rank held < rank needed) :
    ¬ Deadlock needs holds := by
  rintro ⟨owner, hcycle⟩
  obtain ⟨next, ⟨needed, hwaits⟩, _⟩ :=
    Relation.TransGen.head'_iff.mp hcycle
  obtain ⟨held, hneeds, hlower⟩ :=
    rank_lt_of_transGen hordered hcycle hwaits
  rw [hwaits.1, Option.some.injEq] at hneeds
  subst hneeds
  exact lt_irrefl _ hlower

end OrderFlow
