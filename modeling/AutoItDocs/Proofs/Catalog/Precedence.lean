import AutoItDocs.Proofs.Catalog.Run
import AutoItDocs.Proofs.Signature.Union
/-!
Which records a merge keeps, said without the merge: for each lowercase name, in the order in which
the names first appear among the records of all sources, the last of its records or the first one.
-/
namespace AutoItDocs.Merged

/-- The state holds one record for each lowercase name in `order`, the one of `choice`, and knows
the spelling and the source of that record. -/
structure Selects (m : Merged) (order : List String) (choice : String → Option Sourced) : Prop where
  distinct : order.Nodup
  names : m.table.names.map Text.foldCase = order
  entries : m.table.entries = order.filterMap fun key => (choice key).map (·.record)
  found : ∀ key r, choice key = some r → m.table.get? r.record.name = some r.record
  spellings : ∀ key, m.spellings.get? key = (choice key).map (·.record.name)
  origins : ∀ key, m.origins.get? key = (choice key).map (·.source)

/-- The record that counts for a lowercase name. -/
def winner (policy : MergePolicy) (records : List Sourced) (key : String) : Option Sourced :=
  match policy with
  | .lastWins => records.findRev? (·.key = key)
  | .firstWins | .refuse => records.find? (·.key = key)

variable {m next : Merged} {kept : List Sourced} {policy : MergePolicy}

theorem winner_concat (policy : MergePolicy) (records : List Sourced) (r : Sourced) (key : String) :
    winner policy (records ++ [r]) key =
      if key = r.key ∧ (policy = .lastWins ∨ r.key ∉ records.map Sourced.key) then some r
      else winner policy records key := by
  cases policy with
  | lastWins =>
    simp only [winner, List.findRev?_eq_find?_reverse, List.reverse_append, List.reverse_singleton,
      List.singleton_append, true_or, and_true]
    by_cases hkey : key = r.key
    · simp [hkey]
    · simp [hkey, Ne.symm hkey]
  | firstWins | refuse =>
    simp only [winner, List.find?_append, reduceCtorEq, false_or]
    by_cases hkey : key = r.key
    · subst hkey
      by_cases present : r.key ∈ records.map Sourced.key
      · have hsome : (records.find? (·.key = r.key)).isSome := by
          rw [Option.isSome_iff_ne_none, ne_eq, find?_key_eq_none_iff, not_not]
          exact present
        obtain ⟨q, hq⟩ := Option.isSome_iff_exists.mp hsome
        simp [present, hq]
      · simp [present, find?_key_eq_none_iff.mpr present]
    · simp [hkey, Ne.symm hkey]

theorem map_key_foldl_keep (policy : MergePolicy) (records : List Sourced) :
    (records.foldl (keep policy) []).map Sourced.key = (records.map Sourced.key).eraseDups := by
  induction records using List.reverseRecOn with
  | nil => rfl
  | append_singleton records r ih =>
    rw [List.foldl_append, List.foldl_cons, List.foldl_nil, map_key_keep, ih, List.map_append,
      List.map_singleton, eraseDups_concat]
    simp only [List.mem_eraseDups]

theorem find?_foldl_keep (policy : MergePolicy) (records : List Sourced) (key : String) :
    (records.foldl (keep policy) []).find? (·.key = key) = winner policy records key := by
  -- From the right, since the record that `keep` takes last is the last one of the list.
  induction records using List.reverseRecOn with
  | nil => cases policy <;> rfl
  | append_singleton records r ih =>
    rw [List.foldl_append, List.foldl_cons, List.foldl_nil, find?_keep, ih, winner_concat,
      map_key_foldl_keep]
    simp only [List.mem_eraseDups]

theorem Keeps.selects (h : m.Keeps kept) :
    m.Selects (kept.map Sourced.key) fun key => kept.find? (·.key = key) where
  distinct := h.distinct
  names := h.map_foldCase_names
  entries := by
    rw [h.entries, List.filterMap_map, ← List.filterMap_eq_map]
    apply List.filterMap_congr
    intro r hr
    have hfind := (find?_key_eq_some_iff h.distinct).mpr ⟨hr, rfl⟩
    simp only [Function.comp_apply, hfind, Option.map_some]
  found key r hr := by
    have hmem := ((find?_key_eq_some_iff h.distinct).mp hr).1
    exact h.indexed.get?_eq_some_iff.mpr ⟨h.record_mem hmem, rfl⟩
  spellings := h.spellings
  origins := h.origins

theorem selects_of_addAll {tables : List (String × SignatureTable)}
    (hok : empty.addAll policy tables = .ok next) :
    next.Selects ((sourced 0 tables).map Sourced.key).eraseDups
      (winner policy (sourced 0 tables)) := by
  have h := (Keeps.empty.addAll hok).selects
  rw [map_key_foldl_keep] at h
  simp only [find?_foldl_keep] at h
  exact h

/-- Both permissive policies merge everything, into the same order of names; they differ in which
of the records of a name they keep. -/
theorem addAll_selects (tables : List (String × SignatureTable)) :
    let records := sourced 0 tables
    let order := (records.map Sourced.key).eraseDups
    ∃ last first : Merged,
      empty.addAll .lastWins tables = .ok last ∧ empty.addAll .firstWins tables = .ok first ∧
      last.sources = tables.map (·.1) ∧ first.sources = tables.map (·.1) ∧
      last.Selects order (fun key => records.findRev? (·.key = key)) ∧
      first.Selects order (fun key => records.find? (·.key = key)) := by
  obtain ⟨last, hlast⟩ := exists_addAll (by decide : MergePolicy.lastWins ≠ .refuse) empty tables
  obtain ⟨first, hfirst⟩ := exists_addAll (by decide : MergePolicy.firstWins ≠ .refuse) empty tables
  exact ⟨last, first, hlast, hfirst, addAll_sources hlast, addAll_sources hfirst,
    selects_of_addAll hlast, selects_of_addAll hfirst⟩

end AutoItDocs.Merged
