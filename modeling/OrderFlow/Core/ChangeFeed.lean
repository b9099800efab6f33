import Mathlib.Data.List.Basic
import Mathlib.Logic.Function.Basic
import Mathlib.Order.Basic

/-!
# What row triggers announce

A transaction changes rows one after the other.  A trigger puts a notice into
the queue of the transaction for every change that changes something, and the
queue drops a notice it already has.  So a value that comes back in one
transaction is announced once, in the place of its first appearance, and the
notices can end with an outdated one.  When the values of a row only ever move
in one direction nothing is dropped, and the last notice about a row carries
the value that the transaction leaves.
-/

namespace OrderFlow.ChangeFeed

variable {Key Value Notice : Type*}

/-- One statement that changes the row `key`. -/
structure Change (Key Value : Type*) where
  key : Key
  old : Value
  new : Value
  deriving DecidableEq

/-- Queue a notice, unless it is queued already. -/
def queue [DecidableEq Notice] (pending : List Notice) (notice : Notice) :
    List Notice :=
  if notice ∈ pending then pending else pending ++ [notice]

/-- The trigger, with its guard. -/
def announce [DecidableEq Value] [DecidableEq Notice]
    (notice : Key → Value → Notice) (pending : List Notice)
    (change : Change Key Value) : List Notice :=
  if change.old = change.new then pending
  else queue pending (notice change.key change.new)

/-- The notices delivered when the changes are committed. -/
def feed [DecidableEq Value] [DecidableEq Notice]
    (notice : Key → Value → Notice) (changes : List (Change Key Value)) :
    List Notice :=
  changes.foldl (announce notice) []

/-- A value that comes back is not announced again. -/
example : feed Prod.mk [(⟨"a", 5, 4⟩ : Change String ℕ), ⟨"a", 4, 5⟩,
    ⟨"a", 5, 4⟩] = [("a", 4), ("a", 5)] := by
  decide

/-- The changes lead from one table to another one: each finds the value that
the one before it has left. -/
inductive Leads [DecidableEq Key] :
    (Key → Option Value) → List (Change Key Value) → (Key → Option Value) →
      Prop
  | nil (table : Key → Option Value) : Leads table [] table
  | cons {table after : Key → Option Value} {change : Change Key Value}
      {changes : List (Change Key Value)}
      (hold : table change.key = some change.old)
      (hrest : Leads (Function.update table change.key (some change.new))
        changes after) :
      Leads table (change :: changes) after

section Leads

variable [DecidableEq Key] {before middle after : Key → Option Value}

theorem Leads.append {first second : List (Change Key Value)}
    (hfirst : Leads before first middle) (hsecond : Leads middle second after) :
    Leads before (first ++ second) after := by
  induction hfirst with
  | nil => exact hsecond
  | cons hold _ ih => exact .cons hold (ih hsecond)

/-- No row appears or disappears. -/
theorem Leads.isSome {changes : List (Change Key Value)}
    (hleads : Leads before changes after) (key : Key) :
    (after key).isSome = (before key).isSome := by
  induction hleads with
  | nil => rfl
  | @cons table after change changes hold hrest ih =>
      rw [ih]
      by_cases hkey : key = change.key
      · subst hkey
        rw [Function.update_self, hold]
        rfl
      · rw [Function.update_of_ne hkey]

/-- A row has the value it had, or one that a change has given it. -/
theorem Leads.value {changes : List (Change Key Value)}
    (hleads : Leads before changes after) {key : Key} {value : Value}
    (hvalue : after key = some value) :
    before key = some value ∨
      ∃ change ∈ changes, change.key = key ∧ change.new = value := by
  induction hleads with
  | nil => exact .inl hvalue
  | @cons table after change changes hold hrest ih =>
      rcases ih hvalue with hbefore | ⟨other, hmem, hother⟩
      · by_cases hkey : key = change.key
        · subst hkey
          rw [Function.update_self, Option.some.injEq] at hbefore
          exact .inr ⟨change, List.mem_cons_self, rfl, hbefore⟩
        · rw [Function.update_of_ne hkey] at hbefore
          exact .inl hbefore
      · exact .inr ⟨other, List.mem_cons_of_mem change hmem, hother⟩

end Leads

/-! ## Any changes -/

section Any

variable [DecidableEq Value] [DecidableEq Notice]
variable {notice : Key → Value → Notice}

theorem mem_queue {pending : List Notice} {queued wanted : Notice} :
    wanted ∈ queue pending queued ↔ wanted ∈ pending ∨ wanted = queued := by
  rw [queue]
  split_ifs with hqueued
  · exact ⟨.inl, fun hmem => hmem.elim id fun hsame => hsame ▸ hqueued⟩
  · simp

theorem mem_announce {pending : List Notice} {change : Change Key Value}
    {wanted : Notice} :
    wanted ∈ announce notice pending change ↔
      wanted ∈ pending ∨
        change.old ≠ change.new ∧ wanted = notice change.key change.new := by
  rw [announce]
  split_ifs with hsame
  · simp [hsame]
  · simp [mem_queue, hsame]

theorem mem_foldl_announce {pending : List Notice}
    {changes : List (Change Key Value)} {wanted : Notice} :
    wanted ∈ changes.foldl (announce notice) pending ↔
      wanted ∈ pending ∨ ∃ change ∈ changes, change.old ≠ change.new ∧
        wanted = notice change.key change.new := by
  induction changes generalizing pending with
  | nil => simp
  | cons change changes ih =>
      rw [List.foldl_cons, ih, mem_announce, List.exists_mem_cons_iff, or_assoc]

/-- The notices are those of the changes that change something. -/
theorem mem_feed {changes : List (Change Key Value)} {wanted : Notice} :
    wanted ∈ feed notice changes ↔
      ∃ change ∈ changes, change.old ≠ change.new ∧
        wanted = notice change.key change.new := by
  rw [feed, mem_foldl_announce]
  simp

/-- A row that has changed is announced, whatever happened to it in between. -/
theorem Leads.announced [DecidableEq Key] {before after : Key → Option Value}
    {changes : List (Change Key Value)} (hleads : Leads before changes after)
    {key : Key} (hchanged : after key ≠ before key) :
    ∃ value, notice key value ∈ feed notice changes := by
  suffices hexists : ∃ change ∈ changes, change.key = key ∧
      change.old ≠ change.new by
    obtain ⟨change, hmem, rfl, heffective⟩ := hexists
    exact ⟨change.new, mem_feed.mpr ⟨change, hmem, heffective, rfl⟩⟩
  induction hleads with
  | nil => exact absurd rfl hchanged
  | @cons table after change changes hold hrest ih =>
      by_cases hkey : key = change.key
      · subst hkey
        by_cases heffective : change.old = change.new
        · have hkept : table change.key = some change.new :=
            hold.trans (congrArg some heffective)
          obtain ⟨other, hmem, hother⟩ := ih (by
            rw [Function.update_self, ← hkept]
            exact hchanged)
          exact ⟨other, List.mem_cons_of_mem change hmem, hother⟩
        · exact ⟨change, List.mem_cons_self, rfl, heffective⟩
      · obtain ⟨other, hmem, hother⟩ := ih (by
          rw [Function.update_of_ne hkey]
          exact hchanged)
        exact ⟨other, List.mem_cons_of_mem change hmem, hother⟩

end Any

/-! ## Changes in one direction -/

section Ranked

variable [DecidableEq Key] {Rank : Type*} [PartialOrder Rank]
variable {rank : Value → Rank}

/-- Every change leaves the value or lowers its rank. -/
def Falling (rank : Value → Rank) (changes : List (Change Key Value)) : Prop :=
  ∀ change ∈ changes, change.old = change.new ∨
    rank change.new < rank change.old

theorem Leads.rank_le {before after : Key → Option Value}
    {changes : List (Change Key Value)} (hleads : Leads before changes after)
    (hfalling : Falling rank changes) {key : Key} {old : Value}
    (hold : before key = some old) :
    ∃ new, after key = some new ∧ rank new ≤ rank old := by
  induction hleads generalizing old with
  | nil => exact ⟨old, hold, le_rfl⟩
  | @cons table after change changes hchange hrest ih =>
      rw [Falling, List.forall_mem_cons] at hfalling
      by_cases hkey : key = change.key
      · subst hkey
        obtain rfl := Option.some.inj (hold.symm.trans hchange)
        obtain ⟨new, hnew, hrank⟩ :=
          ih hfalling.2 (Function.update_self ..)
        refine ⟨new, hnew, hrank.trans ?_⟩
        exact hfalling.1.elim (fun hsame => hsame ▸ le_rfl) le_of_lt
      · exact ih hfalling.2 ((Function.update_of_ne hkey _ _).trans hold)

/-- No change leaves the range between the first and the last value. -/
theorem Leads.between {before after : Key → Option Value}
    {changes : List (Change Key Value)} (hleads : Leads before changes after)
    (hfalling : Falling rank changes) {change : Change Key Value}
    (hchange : change ∈ changes) :
    ∃ old new, before change.key = some old ∧ after change.key = some new ∧
      rank new ≤ rank change.new ∧ rank change.new ≤ rank old := by
  induction hleads with
  | nil => exact absurd hchange List.not_mem_nil
  | @cons table after first changes hfirst hrest ih =>
      rw [Falling, List.forall_mem_cons] at hfalling
      have hlower : rank first.new ≤ rank first.old :=
        hfalling.1.elim (fun hsame => hsame ▸ le_rfl) le_of_lt
      rcases List.mem_cons.mp hchange with rfl | hlater
      · obtain ⟨new, hnew, hrank⟩ := hrest.rank_le hfalling.2
          (Function.update_self ..)
        exact ⟨change.old, new, hfirst, hnew, hrank, hlower⟩
      · obtain ⟨old, new, hold, hnew, hlow, hhigh⟩ := ih hfalling.2 hlater
        by_cases hkey : change.key = first.key
        · rw [hkey, Function.update_self, Option.some.injEq] at hold
          subst hold
          exact ⟨first.old, new, hkey ▸ hfirst, hnew, hlow,
            hhigh.trans hlower⟩
        · rw [Function.update_of_ne hkey] at hold
          exact ⟨old, new, hold, hnew, hlow, hhigh⟩

variable [DecidableEq Value]

/-- The values announced for a row. -/
def valuesTold (changes : List (Change Key Value)) (key : Key) : List Value :=
  (changes.filter fun change =>
    change.key = key ∧ change.old ≠ change.new).map Change.new

theorem valuesTold_cons_other {change : Change Key Value}
    {changes : List (Change Key Value)} {key : Key}
    (hother : ¬ (change.key = key ∧ change.old ≠ change.new)) :
    valuesTold (change :: changes) key = valuesTold changes key := by
  rw [valuesTold, List.filter_cons_of_neg (by simpa using hother), valuesTold]

theorem valuesTold_cons_self {change : Change Key Value}
    {changes : List (Change Key Value)} (heffective : change.old ≠ change.new) :
    valuesTold (change :: changes) change.key =
      change.new :: valuesTold changes change.key := by
  rw [valuesTold, List.filter_cons_of_pos (by simpa using heffective),
    List.map_cons, valuesTold]

/-- The row ends with the last value announced, which is below the value it
began with. -/
theorem Leads.last_valuesTold {before after : Key → Option Value}
    {changes : List (Change Key Value)} (hleads : Leads before changes after)
    (hfalling : Falling rank changes) (key : Key) :
    after key = ((valuesTold changes key).getLast?).or (before key) ∧
      ∀ old, before key = some old →
        ∀ value ∈ valuesTold changes key, rank value < rank old := by
  induction hleads with
  | nil table => exact ⟨rfl, fun _ _ _ hvalue => absurd hvalue List.not_mem_nil⟩
  | @cons table after change changes hold hrest ih =>
      rw [Falling, List.forall_mem_cons] at hfalling
      obtain ⟨hlast, hbelow⟩ := ih hfalling.2
      by_cases hown : change.key = key ∧ change.old ≠ change.new
      · obtain ⟨rfl, heffective⟩ := hown
        have hlower := hfalling.1.resolve_left heffective
        rw [Function.update_self] at hlast hbelow
        rw [valuesTold_cons_self heffective]
        refine ⟨?_, fun old hbefore value hvalue => ?_⟩
        · rw [hlast, List.getLast?_cons]
          cases (valuesTold changes change.key).getLast? <;> rfl
        · rw [hold, Option.some.injEq] at hbefore
          subst hbefore
          rcases List.mem_cons.mp hvalue with rfl | hlater
          · exact hlower
          · exact (hbelow change.new rfl value hlater).trans hlower
      · have hkept : Function.update table change.key (some change.new) key =
            table key := by
          by_cases hkey : key = change.key
          · subst hkey
            have hsame : change.old = change.new := by
              by_contra heffective
              exact hown ⟨rfl, heffective⟩
            rw [Function.update_self, hold, hsame]
          · exact Function.update_of_ne hkey _ _
        rw [hkept] at hlast hbelow
        rw [valuesTold_cons_other hown]
        exact ⟨hlast, hbelow⟩

variable [DecidableEq Notice]

/-- Nothing that is queued is in the way of a value still to come. -/
theorem Leads.foldl_announce {notice : Key → Value → Notice}
    (hinjective : ∀ key value other otherValue,
      notice key value = notice other otherValue →
        key = other ∧ value = otherValue)
    {before after : Key → Option Value} {changes : List (Change Key Value)}
    (hleads : Leads before changes after) (hfalling : Falling rank changes)
    {pending : List Notice}
    (hpending : ∀ key value, notice key value ∈ pending →
      ∃ now, before key = some now ∧ rank now ≤ rank value) :
    changes.foldl (announce notice) pending = pending ++
      (changes.filter fun change => change.old ≠ change.new).map
        (fun change => notice change.key change.new) := by
  induction hleads generalizing pending with
  | nil => simp
  | @cons table after change changes hold hrest ih =>
      rw [Falling, List.forall_mem_cons] at hfalling
      by_cases hsame : change.old = change.new
      · have hkept : Function.update table change.key (some change.new) =
            table := by
          rw [← hsame, ← hold, Function.update_eq_self]
        rw [List.foldl_cons, announce, if_pos hsame,
          List.filter_cons_of_neg (by simpa using hsame)]
        exact ih hfalling.2 (by
          rw [hkept]
          exact hpending)
      · have hlower := hfalling.1.resolve_left hsame
        have hnew : notice change.key change.new ∉ pending := by
          intro hqueued
          obtain ⟨now, hnow, hrank⟩ := hpending _ _ hqueued
          rw [hold, Option.some.injEq] at hnow
          subst hnow
          exact absurd (hlower.trans_le hrank) (lt_irrefl _)
        rw [List.foldl_cons, announce, if_neg hsame, queue, if_neg hnew,
          List.filter_cons_of_pos (by simpa using hsame), ih hfalling.2,
          List.map_cons, List.append_assoc]
        · rfl
        · intro key value hqueued
          rcases List.mem_append.mp hqueued with hearlier | hlast
          · obtain ⟨now, hnow, hrank⟩ := hpending key value hearlier
            by_cases hkey : key = change.key
            · subst hkey
              rw [hold, Option.some.injEq] at hnow
              subst hnow
              exact ⟨change.new, Function.update_self .., hlower.le.trans hrank⟩
            · exact ⟨now, (Function.update_of_ne hkey _ _).trans hnow, hrank⟩
          · obtain ⟨rfl, rfl⟩ :=
              hinjective _ _ _ _ (List.mem_singleton.mp hlast)
            exact ⟨change.new, Function.update_self .., le_rfl⟩

/-- The last notice about a row: there is one exactly if the row has changed,
and it carries the value that the row has now. -/
theorem Leads.getLast?_feed {notice : Key → Value → Notice}
    (hinjective : ∀ key value other otherValue,
      notice key value = notice other otherValue →
        key = other ∧ value = otherValue)
    {before after : Key → Option Value} {changes : List (Change Key Value)}
    (hleads : Leads before changes after) (hfalling : Falling rank changes)
    {key : Key} {about : Notice → Bool}
    (habout : ∀ change ∈ changes,
      about (notice change.key change.new) = decide (change.key = key)) :
    ((feed notice changes).filter about).getLast? =
      if after key = before key then none
      else (after key).map (notice key) := by
  have hfeed : feed notice changes =
      (changes.filter fun change => change.old ≠ change.new).map
        (fun change => notice change.key change.new) := by
    rw [feed, hleads.foldl_announce hinjective hfalling (by simp),
      List.nil_append]
  have hfilter : (feed notice changes).filter about =
      (valuesTold changes key).map (notice key) := by
    rw [hfeed, valuesTold, List.filter_map, List.filter_filter, List.map_map]
    have hsame : changes.filter (fun change =>
        (about ∘ fun change => notice change.key change.new) change &&
          decide (change.old ≠ change.new)) =
        changes.filter fun change =>
          change.key = key ∧ change.old ≠ change.new := by
      apply List.filter_congr
      intro change hchange
      rw [Function.comp_apply, habout change hchange, Bool.decide_and]
    rw [hsame]
    apply List.map_congr_left
    intro change hchange
    obtain ⟨_, hboth⟩ := List.mem_filter.mp hchange
    rw [Function.comp_apply, (of_decide_eq_true hboth).1]
  obtain ⟨hlast, hbelow⟩ := hleads.last_valuesTold hfalling key
  rw [hfilter, List.getLast?_map]
  cases htold : (valuesTold changes key).getLast? with
  | none =>
      rw [htold, Option.none_or] at hlast
      rw [if_pos hlast]
      rfl
  | some value =>
      rw [htold, Option.some_or] at hlast
      have hne : after key ≠ before key := by
        intro hsame
        have hmem := List.mem_of_getLast? htold
        exact absurd (hbelow value (hsame ▸ hlast) value hmem) (lt_irrefl _)
      rw [if_neg hne, hlast]

end Ranked

end OrderFlow.ChangeFeed
