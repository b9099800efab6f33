import Mathlib.Logic.Function.Basic

/-!
# Exclusive lock tables

A lock table records for each resource the owner that holds it, if any.  An
owner may take a resource that is free or already its own, and gives all its
resources back at once.  The lemmas say that neither operation is seen by any
other owner, which is all that strict two-phase locking needs.
-/

namespace OrderFlow

variable {Resource Owner : Type*} [DecidableEq Resource] [DecidableEq Owner]

/-- For each resource the owner holding it. -/
abbrev LockTable (Resource Owner : Type*) := Resource → Option Owner

namespace LockTable

/-- No resource is held. -/
def unlocked : LockTable Resource Owner := fun _ => none

/-- `owner` holds `resource`. -/
def Holds (locks : LockTable Resource Owner) (owner : Owner)
    (resource : Resource) : Prop :=
  locks resource = some owner

/-- `owner` can take `resource` without waiting. -/
def Grantable (locks : LockTable Resource Owner) (owner : Owner)
    (resource : Resource) : Prop :=
  locks resource = none ∨ locks resource = some owner

instance (locks : LockTable Resource Owner) (owner : Owner)
    (resource : Resource) : Decidable (locks.Holds owner resource) :=
  inferInstanceAs (Decidable (locks resource = some owner))

instance (locks : LockTable Resource Owner) (owner : Owner)
    (resource : Resource) : Decidable (locks.Grantable owner resource) :=
  inferInstanceAs
    (Decidable (locks resource = none ∨ locks resource = some owner))

/-- Take `resource` for `owner`. -/
def acquire (locks : LockTable Resource Owner) (owner : Owner)
    (resource : Resource) : LockTable Resource Owner :=
  Function.update locks resource (some owner)

/-- Give back everything `owner` holds. -/
def releaseAll (locks : LockTable Resource Owner) (owner : Owner) :
    LockTable Resource Owner :=
  fun resource =>
    if locks resource = some owner then none else locks resource

omit [DecidableEq Resource] [DecidableEq Owner] in
theorem Holds.owner_eq {locks : LockTable Resource Owner}
    {owner other : Owner} {resource : Resource}
    (howner : locks.Holds owner resource)
    (hother : locks.Holds other resource) : owner = other :=
  Option.some.inj (howner.symm.trans hother)

omit [DecidableEq Owner] in
@[simp]
theorem holds_acquire (locks : LockTable Resource Owner) (owner : Owner)
    (resource : Resource) :
    (locks.acquire owner resource).Holds owner resource := by
  simp [Holds, acquire]

omit [DecidableEq Owner] in
/-- Taking a resource keeps what the owner already holds. -/
theorem Holds.acquire {locks : LockTable Resource Owner} {owner : Owner}
    {held : Resource} (hheld : locks.Holds owner held) (resource : Resource) :
    (locks.acquire owner resource).Holds owner held := by
  by_cases hsame : held = resource
  · subst held
    simp
  · simpa [Holds, LockTable.acquire, hsame] using hheld

omit [DecidableEq Owner] in
/-- Taking a grantable resource is invisible to every other owner. -/
theorem Holds.acquire_other {locks : LockTable Resource Owner}
    {owner other : Owner} {held : Resource} (hheld : locks.Holds other held)
    (hne : other ≠ owner) {resource : Resource}
    (hgrant : locks.Grantable owner resource) :
    (locks.acquire owner resource).Holds other held := by
  have hdifferent : held ≠ resource := by
    rintro rfl
    rcases hgrant with hfree | howned
    · exact Option.some_ne_none other (hheld.symm.trans hfree)
    · exact hne (Holds.owner_eq hheld howned)
  simpa [Holds, LockTable.acquire, hdifferent] using hheld

omit [DecidableEq Resource] in
/-- Giving locks back is invisible to every other owner. -/
theorem Holds.releaseAll_other {locks : LockTable Resource Owner}
    {owner other : Owner} {held : Resource} (hheld : locks.Holds other held)
    (hne : other ≠ owner) : (locks.releaseAll owner).Holds other held := by
  have hlock : locks held = some other := hheld
  simp [Holds, LockTable.releaseAll, hlock, hne]

end LockTable

end OrderFlow
