import OrderFlow.Core.TransitionSystem
import Mathlib.Logic.Function.Basic
import Mathlib.Data.List.Basic

/-!
# Registers that are written once

Values are saved under keys, each key once only, and read back.  An operation
carries what it was answered, so that the histories a `run` accepts are the
legal sequential ones, and a system that simulates `step` linearizes to them.
-/

namespace OrderFlow.WriteOnce

open OrderFlow.TransitionSystem

variable {Key Value : Type*} [DecidableEq Key]

abbrev Table (Key Value : Type*) := Key → Option Value

/-- One operation and its answer. -/
inductive Op (Key Value : Type*) where
  /-- all of the entries, at once -/
  | save (entries : List (Key × Value))
  | read (key : Key) (seen : Option Value)

/-- Save all of the entries; `none` when a key is taken. -/
def Table.save? (table : Table Key Value) :
    List (Key × Value) → Option (Table Key Value)
  | [] => some table
  | entry :: rest =>
      if table entry.1 = none then
        save? (Function.update table entry.1 (some entry.2)) rest
      else none

/-! ## One save -/

theorem Table.save?_cons {table next : Table Key Value}
    {entry : Key × Value} {rest : List (Key × Value)}
    (hsave : table.save? (entry :: rest) = some next) :
    table entry.1 = none ∧
      Table.save? (Function.update table entry.1 (some entry.2)) rest =
        some next := by
  rw [save?] at hsave
  by_cases hfresh : table entry.1 = none
  · rw [if_pos hfresh] at hsave
    exact ⟨hfresh, hsave⟩
  · rw [if_neg hfresh] at hsave
    exact absurd hsave (by simp)

theorem Table.save?_stable {table next : Table Key Value}
    {entries : List (Key × Value)} (hsave : table.save? entries = some next)
    {key : Key} {value : Value} (hfound : table key = some value) :
    next key = some value := by
  induction entries generalizing table with
  | nil => exact Option.some.inj hsave ▸ hfound
  | cons entry rest ih =>
      obtain ⟨hfresh, hrest⟩ := save?_cons hsave
      apply ih hrest
      rw [Function.update_of_ne _ _ _, hfound]
      rintro rfl
      rw [hfresh] at hfound
      exact absurd hfound (by simp)

theorem Table.save?_mem {table next : Table Key Value}
    {entries : List (Key × Value)} (hsave : table.save? entries = some next)
    {entry : Key × Value} (hentry : entry ∈ entries) :
    next entry.1 = some entry.2 := by
  induction entries generalizing table with
  | nil => exact absurd hentry List.not_mem_nil
  | cons first rest ih =>
      obtain ⟨hfresh, hrest⟩ := save?_cons hsave
      rcases List.mem_cons.mp hentry with rfl | htail
      · exact save?_stable hrest (Function.update_self ..)
      · exact ih hrest htail

/-- What is there after a save was there before it or is one of its entries. -/
theorem Table.save?_origin {table next : Table Key Value}
    {entries : List (Key × Value)} (hsave : table.save? entries = some next)
    {key : Key} {value : Value} (hfound : next key = some value) :
    table key = some value ∨ (key, value) ∈ entries := by
  induction entries generalizing table with
  | nil => exact .inl (Option.some.inj hsave ▸ hfound)
  | cons entry rest ih =>
      obtain ⟨hfresh, hrest⟩ := save?_cons hsave
      rcases ih hrest with hbefore | htail
      · by_cases hkey : key = entry.1
        · subst hkey
          rw [Function.update_self, Option.some.injEq] at hbefore
          subst hbefore
          exact .inr List.mem_cons_self
        · rw [Function.update_of_ne hkey] at hbefore
          exact .inl hbefore
      · exact .inr (List.mem_cons_of_mem entry htail)

/-! ## Legal histories -/

variable [DecidableEq Value]

def step (table : Table Key Value) : Op Key Value → Option (Table Key Value)
  | .save entries => table.save? entries
  | .read key seen => if table key = seen then some table else none

theorem step_stable {table next : Table Key Value} {op : Op Key Value}
    (hstep : step table op = some next) {key : Key} {value : Value}
    (hfound : table key = some value) : next key = some value := by
  cases op with
  | save entries => exact Table.save?_stable hstep hfound
  | read other seen =>
      rw [step] at hstep
      split_ifs at hstep
      exact Option.some.inj hstep ▸ hfound

/-- What has been saved stays. -/
theorem run_stable {table final : Table Key Value}
    {history : List (Op Key Value)} (hrun : run step table history = some final)
    {key : Key} {value : Value} (hfound : table key = some value) :
    final key = some value :=
  @run_invariant _ _ step (fun table => table key = some value)
    (fun _ _ _ hkept hstep => step_stable hstep hkept) _ _ _ hfound hrun

end OrderFlow.WriteOnce
