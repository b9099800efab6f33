import Mathlib.Data.List.Basic
import Mathlib.Data.List.Nodup

/-!
# Regrouping a flattened list

A list of groups is flattened into one list, group after group, and every
entry keeps the key of its group.  When no key repeats, selecting by key gives
the groups back, and selecting for every key in turn gives back the list.
-/

namespace OrderFlow

variable {Group Key Value Entry : Type*} [DecidableEq Key]

/-- The entries with the given key, in their order. -/
def selected (key : Entry → Key) (entries : List Entry) (wanted : Key) :
    List Entry :=
  entries.filter fun entry => key entry = wanted

/-- The flattened list of the groups. -/
def flattened (key : Group → Key) (values : Group → List Value)
    (groups : List Group) : List (Key × Value) :=
  groups.flatMap fun group => (values group).map fun value => (key group, value)

namespace selected

@[simp]
theorem append (key : Entry → Key) (first second : List Entry) (wanted : Key) :
    selected key (first ++ second) wanted =
      selected key first wanted ++ selected key second wanted :=
  List.filter_append _ _

theorem eq_self {key : Entry → Key} {entries : List Entry} {wanted : Key}
    (hall : ∀ entry ∈ entries, key entry = wanted) :
    selected key entries wanted = entries :=
  List.filter_eq_self.mpr fun entry hentry => decide_eq_true (hall entry hentry)

theorem eq_nil {key : Entry → Key} {entries : List Entry} {wanted : Key}
    (hnone : ∀ entry ∈ entries, key entry ≠ wanted) :
    selected key entries wanted = [] :=
  List.filter_eq_nil_iff.mpr fun entry hentry hsame =>
    hnone entry hentry (of_decide_eq_true hsame)

theorem map {Source : Type*} (key : Entry → Key) (image : Source → Entry)
    (sources : List Source) (wanted : Key) :
    selected key (sources.map image) wanted =
      (selected (key ∘ image) sources wanted).map image :=
  List.filter_map

end selected

section Groups

variable {key : Group → Key} {values : Group → List Value}

omit [DecidableEq Key] in
theorem flattened_cons (head : Group) (tail : List Group) :
    flattened key values (head :: tail) =
      ((values head).map fun value => (key head, value)) ++
        flattened key values tail := rfl

omit [DecidableEq Key] in
/-- The keys of a flattened list are keys of its groups. -/
theorem mem_keys_of_mem_flattened {groups : List Group} {entry : Key × Value}
    (hentry : entry ∈ flattened key values groups) :
    entry.1 ∈ groups.map key := by
  obtain ⟨group, hgroup, hvalue⟩ := List.mem_flatMap.mp hentry
  obtain ⟨value, _, rfl⟩ := List.mem_map.mp hvalue
  exact List.mem_map_of_mem hgroup

/-- Selecting the key of a group gives its values. -/
theorem selected_flattened {groups : List Group}
    (hkeys : (groups.map key).Nodup) {group : Group} (hgroup : group ∈ groups) :
    selected Prod.fst (flattened key values groups) (key group) =
      (values group).map fun value => (key group, value) := by
  induction groups with
  | nil => exact absurd hgroup List.not_mem_nil
  | cons head tail ih =>
      rw [List.map_cons, List.nodup_cons] at hkeys
      have hhead : ∀ entry ∈ (values head).map fun value => (key head, value),
          entry.1 = key head := by
        intro entry hentry
        obtain ⟨value, _, rfl⟩ := List.mem_map.mp hentry
        rfl
      rw [flattened_cons, selected.append]
      rcases List.mem_cons.mp hgroup with rfl | htail
      · have hrest : selected Prod.fst (flattened key values tail)
            (key group) = [] := by
          apply selected.eq_nil
          intro entry hentry hsame
          exact hkeys.1 (hsame ▸ mem_keys_of_mem_flattened hentry)
        rw [hrest, selected.eq_self hhead, List.append_nil]
      · have hne : key head ≠ key group := fun hsame =>
          hkeys.1 (hsame ▸ List.mem_map_of_mem htail)
        rw [selected.eq_nil fun entry hentry hsame =>
          hne ((hhead entry hentry).symm.trans hsame)]
        exact ih hkeys.2 htail

/-- Entries that follow the groups, selected for one group after the other,
are all of the entries. -/
theorem flatMap_selected {groups : List Group}
    (hkeys : (groups.map key).Nodup) {entryKey : Entry → Key}
    {entryValue : Entry → Value} {entries : List Entry}
    (hentries : entries.map (fun entry => (entryKey entry, entryValue entry)) =
      flattened key values groups) :
    (groups.flatMap fun group => selected entryKey entries (key group)) =
      entries := by
  induction groups generalizing entries with
  | nil => exact (List.map_eq_nil_iff.mp hentries).symm
  | cons head tail ih =>
      rw [List.map_cons, List.nodup_cons] at hkeys
      rw [flattened_cons] at hentries
      obtain ⟨own, rest, rfl, hown, hrest⟩ := List.map_eq_append_iff.mp hentries
      have hownKey : ∀ entry ∈ own, entryKey entry = key head := by
        intro entry hentry
        have hmem : (entryKey entry, entryValue entry) ∈
            (values head).map fun value => (key head, value) := by
          rw [← hown]
          exact List.mem_map_of_mem hentry
        obtain ⟨value, _, hsame⟩ := List.mem_map.mp hmem
        exact (congrArg Prod.fst hsame).symm
      have hrestKey : ∀ entry ∈ rest, entryKey entry ≠ key head := by
        intro entry hentry hsame
        have hmem : (entryKey entry, entryValue entry) ∈
            flattened key values tail := by
          rw [← hrest]
          exact List.mem_map_of_mem hentry
        exact hkeys.1 (hsame ▸ mem_keys_of_mem_flattened hmem)
      have htail : (tail.flatMap fun group =>
            selected entryKey (own ++ rest) (key group)) =
          tail.flatMap fun group => selected entryKey rest (key group) := by
        apply List.flatMap_congr
        intro group hgroup
        rw [selected.append, selected.eq_nil fun entry hentry hsame =>
          hkeys.1 ((hownKey entry hentry).symm.trans hsame ▸
            List.mem_map_of_mem hgroup), List.nil_append]
      rw [List.flatMap_cons, htail, ih hkeys.2 hrest, selected.append,
        selected.eq_self hownKey, selected.eq_nil hrestKey, List.append_nil]

/-- The values selected for one group are its own, in order. -/
theorem map_selected {groups : List Group} (hkeys : (groups.map key).Nodup)
    {entryKey : Entry → Key} {entryValue : Entry → Value}
    {entries : List Entry}
    (hentries : entries.map (fun entry => (entryKey entry, entryValue entry)) =
      flattened key values groups) {group : Group} (hgroup : group ∈ groups) :
    (selected entryKey entries (key group)).map entryValue = values group := by
  have hselected := congrArg (fun list => selected Prod.fst list (key group))
    hentries
  simp only [selected.map, selected_flattened hkeys hgroup] at hselected
  have hvalues := congrArg (List.map Prod.snd) hselected
  rw [List.map_map, List.map_map] at hvalues
  simpa [Function.comp_def] using hvalues

end Groups

/-- A key that does not repeat finds its entry. -/
theorem find?_of_nodup_keys {key : Entry → Key} {entries : List Entry}
    (hkeys : (entries.map key).Nodup) {entry : Entry}
    (hentry : entry ∈ entries) :
    (entries.find? fun other => key other = key entry) = some entry := by
  cases hfound : entries.find? fun other => key other = key entry with
  | none =>
      rw [List.find?_eq_none] at hfound
      exact absurd (decide_eq_true rfl) (hfound entry hentry)
  | some other =>
      have hsame : key other = key entry := by
        simpa using List.find?_some hfound
      exact congrArg some (List.inj_on_of_nodup_map hkeys
        (List.mem_of_find?_eq_some hfound) hentry hsame)

end OrderFlow
