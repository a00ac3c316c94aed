import AutoItDocs.Proofs.Catalog.Kept
/-!
Runs of merges. The sources that a state lists change by one at each merge, whatever it answers;
the kept records go through `keep` once for each record that is taken, so that a run without a clash
is a fold of `keep` over the records of all sources.
-/
namespace AutoItDocs.Merged

/-- The records of some sources in order, where the first source has the index `first`. -/
def sourced (first : Nat) (tables : List (String × SignatureTable)) : List Sourced :=
  (tables.zipIdx first).flatMap fun (call, id) => call.2.entries.map (⟨·, id⟩)

/-- The answer's state keeps what a first part of the records makes of `kept`, and what all of them
make of it when there is no clash. -/
def TakesFrom (policy : MergePolicy) (id : Nat) (kept : List Sourced) (records : List Signature)
    (answer : Merged × Option Clash) : Prop :=
  ∃ accepted, accepted <+: records ∧
    answer.1.Keeps ((accepted.map (⟨·, id⟩)).foldl (keep policy) kept) ∧
    (answer.2 = none → accepted = records)

variable {m next : Merged} {kept : List Sourced} {policy : MergePolicy} {source : String} {id : Nat}
  {s : Signature} {records : List Signature} {tables : List (String × SignatureTable)}

theorem sourced_cons (first : Nat) (call : String × SignatureTable)
    (tables : List (String × SignatureTable)) :
    sourced first (call :: tables) =
      call.2.entries.map (⟨·, first⟩) ++ sourced (first + 1) tables := by
  simp [sourced, List.zipIdx_cons]

theorem takeAll_cons_ok (hok : m.take policy source id s = .ok next) :
    takeAll policy source id (s :: records) m = takeAll policy source id records next := by
  simp only [takeAll, hok]

theorem takeAll_cons_error {clash : Clash} (herror : m.take policy source id s = .error clash) :
    takeAll policy source id (s :: records) m = (m, some clash) := by
  simp only [takeAll, herror]

theorem take_sources (hok : m.take policy source id s = .ok next) : next.sources = m.sources := by
  simp only [take] at hok
  split at hok
  · cases hok
    rfl
  · cases policy with
    | lastWins | firstWins =>
      cases hok
      rfl
    | refuse => cases hok

theorem takeAll_sources (policy : MergePolicy) (source : String) (id : Nat)
    (records : List Signature) (m : Merged) :
    (takeAll policy source id records m).1.sources = m.sources := by
  induction records generalizing m with
  | nil => rfl
  | cons s records ih =>
    cases htake : m.take policy source id s with
    | error clash => rw [takeAll_cons_error htake]
    | ok next => rw [takeAll_cons_ok htake, ih, take_sources htake]

/-- A source is listed even if its merge is refused. -/
theorem add_sources (policy : MergePolicy) (m : Merged) (source : String) (t : SignatureTable) :
    (m.add policy source t).1.sources = m.sources ++ [source] := by
  rw [add, takeAll_sources]

theorem addAll_cons_ok {t : SignatureTable}
    (hok : m.addAll policy ((source, t) :: tables) = .ok next) :
    ∃ middle, m.add policy source t = (middle, none) ∧ middle.addAll policy tables = .ok next := by
  cases hadd : m.add policy source t with
  | mk middle answer =>
    simp only [addAll, hadd] at hok
    cases answer with
    | none => exact ⟨middle, rfl, hok⟩
    | some clash => cases hok

theorem addAll_sources (hok : m.addAll policy tables = .ok next) :
    next.sources = m.sources ++ tables.map (·.1) := by
  induction tables generalizing m with
  | nil =>
    cases hok
    exact (List.append_nil _).symm
  | cons call tables ih =>
    obtain ⟨middle, hadd, hrest⟩ := addAll_cons_ok hok
    have hmiddle := add_sources policy m call.1 call.2
    rw [hadd] at hmiddle
    rw [ih hrest, hmiddle, List.map_cons, List.append_assoc, List.singleton_append]

/-! Only the policy that refuses collisions can refuse anything. -/

theorem exists_take (hpolicy : policy ≠ .refuse) (m : Merged) (source : String) (id : Nat)
    (s : Signature) : ∃ next, m.take policy source id s = .ok next := by
  cases hfound : m.origins.get? (Text.foldCase s.name) with
  | none => exact ⟨_, take_of_fresh hfound⟩
  | some previous =>
    cases policy with
    | lastWins => simp only [take, hfound, Except.ok.injEq, exists_eq']
    | firstWins => exact ⟨_, take_firstWins hfound⟩
    | refuse => exact absurd rfl hpolicy

theorem exists_takeAll (hpolicy : policy ≠ .refuse) (source : String) (id : Nat)
    (records : List Signature) (m : Merged) :
    ∃ next, takeAll policy source id records m = (next, none) := by
  induction records generalizing m with
  | nil => exact ⟨m, rfl⟩
  | cons s records ih =>
    obtain ⟨next, hnext⟩ := exists_take hpolicy m source id s
    rw [takeAll_cons_ok hnext]
    exact ih next

theorem exists_addAll (hpolicy : policy ≠ .refuse) (m : Merged)
    (tables : List (String × SignatureTable)) : ∃ next, m.addAll policy tables = .ok next := by
  induction tables generalizing m with
  | nil => exact ⟨m, rfl⟩
  | cons call tables ih =>
    obtain ⟨middle, hmiddle⟩ := exists_takeAll hpolicy call.1 m.sources.length call.2.entries
      { m with sources := m.sources ++ [call.1] }
    obtain ⟨next, hnext⟩ := ih middle
    refine ⟨next, ?_⟩
    rw [addAll, add, hmiddle]
    exact hnext

namespace Keeps

theorem takeAll (h : m.Keeps kept) (hid : id < m.sources.length) (policy : MergePolicy)
    (source : String) (records : List Signature) :
    TakesFrom policy id kept records (takeAll policy source id records m) := by
  induction records generalizing m kept with
  | nil => exact ⟨[], List.nil_prefix, h, fun _ => rfl⟩
  | cons s records ih =>
    cases htake : m.take policy source id s with
    | error clash =>
      -- The run ends here, and what was kept stays.
      rw [takeAll_cons_error htake]
      exact ⟨[], List.nil_prefix, h, by simp⟩
    | ok next =>
      rw [takeAll_cons_ok htake]
      have hid' : id < next.sources.length := by rwa [take_sources htake]
      obtain ⟨accepted, hprefix, hkeeps, hall⟩ := ih (h.take hid htake) hid'
      refine ⟨s :: accepted, List.cons_prefix_cons.mpr ⟨rfl, hprefix⟩, hkeeps, ?_⟩
      intro hnone
      rw [hall hnone]

/-- The records of the next source are taken into a state that lists that source already. -/
theorem takeNext (h : m.Keeps kept) (policy : MergePolicy) (source : String)
    (records : List Signature) :
    TakesFrom policy m.sources.length kept records
      (Merged.takeAll policy source m.sources.length records
        { m with sources := m.sources ++ [source] }) := by
  have hid : m.sources.length < (m.sources ++ [source]).length := by simp
  exact (h.addSource source).takeAll hid policy source records

theorem add (h : m.Keeps kept) (policy : MergePolicy) (source : String) (t : SignatureTable) :
    TakesFrom policy m.sources.length kept t.entries (m.add policy source t) :=
  h.takeNext policy source t.entries

/-- Sources that merge without a clash leave what all of their records in order leave. -/
theorem addAll (h : m.Keeps kept) (hok : m.addAll policy tables = .ok next) :
    next.Keeps ((sourced m.sources.length tables).foldl (keep policy) kept) := by
  induction tables generalizing m kept with
  | nil =>
    cases hok
    exact h
  | cons call tables ih =>
    obtain ⟨middle, hadd, hrest⟩ := addAll_cons_ok hok
    obtain ⟨accepted, -, hkeeps, hall⟩ := h.add policy call.1 call.2
    have hsources := add_sources policy m call.1 call.2
    rw [hadd] at hkeeps hall hsources
    have hnext := ih hkeeps hrest
    rw [hall rfl, hsources, List.length_append, List.length_singleton] at hnext
    rw [sourced_cons, List.foldl_append]
    exact hnext

end Keeps

end AutoItDocs.Merged
