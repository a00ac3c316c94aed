import AutoItDocs.Proofs.Catalog.Run
/-!
The invariant of merge states. After any merges, refused ones included, and also before each record
that a merge takes, the parts of the state describe the same functions.
-/
namespace AutoItDocs.Merged

/-- The parts of a merge state agree on which functions there are and how they are spelled. -/
structure Coherent (m : Merged) : Prop where
  /-- No two records are of one function. -/
  distinct : (m.table.names.map Text.foldCase).Nodup
  originKeys : ∀ key, key ∈ m.origins.keys ↔ key ∈ m.table.names.map Text.foldCase
  spellingKeys : ∀ key, key ∈ m.spellings.keys ↔ key ∈ m.table.names.map Text.foldCase
  spelled : ∀ s ∈ m.table.entries, m.spellings.get? (Text.foldCase s.name) = some s.name
  found : ∀ s ∈ m.table.entries, m.table.get? s.name = some s
  /-- The index has no name besides those of the records. -/
  indexed : m.table.Coherent
  valid : ∀ key id, m.origins.get? key = some id → id < m.sources.length

/-- The state after merges one after the other, whatever each of them answered. -/
def merges (policy : MergePolicy) (m : Merged) (calls : List (String × SignatureTable)) : Merged :=
  calls.foldl (fun m call => (m.add policy call.1 call.2).1) m

/-- A merge that follows some others comes to take the record `s` when the state is `m`. -/
def Visits (policy : MergePolicy) (m : Merged) (s : Signature) : Prop :=
  ∃ (calls : List (String × SignatureTable)) (source : String) (t : SignatureTable)
      (before after : List Signature),
    let start := empty.merges policy calls
    t.entries = before ++ s :: after ∧
      takeAll policy source start.sources.length before
        { start with sources := start.sources ++ [source] } = (m, none)

/-- The record collides and there is no spelling by which to find the slot that it takes over, so
that it would be inserted as if it were new. -/
def Strands (m : Merged) (s : Signature) : Prop :=
  (m.origins.get? (Text.foldCase s.name)).isSome ∧ m.spellings.get? (Text.foldCase s.name) = none

variable {m : Merged} {kept : List Sourced} {s : Signature}

namespace Keeps

theorem originKeys (h : m.Keeps kept) (key : String) :
    key ∈ m.origins.keys ↔ key ∈ m.table.names.map Text.foldCase := by
  rw [Dictionary.mem_keys_iff, Option.isSome_iff_ne_none, ne_eq, h.origins_eq_none_iff, not_not,
    h.map_foldCase_names]

theorem spellingKeys (h : m.Keeps kept) (key : String) :
    key ∈ m.spellings.keys ↔ key ∈ m.table.names.map Text.foldCase := by
  rw [Dictionary.mem_keys_iff, Option.isSome_iff_ne_none, ne_eq, h.spellings,
    Option.map_eq_none_iff, find?_key_eq_none_iff, not_not, h.map_foldCase_names]

theorem coherent (h : m.Keeps kept) : m.Coherent where
  distinct := h.map_foldCase_names ▸ h.distinct
  originKeys := h.originKeys
  spellingKeys := h.spellingKeys
  spelled s hs := by
    obtain ⟨r, hr, rfl⟩ := h.exists_kept hs
    exact h.spelling_of_mem hr
  found s hs := h.indexed.get?_eq_some_iff.mpr ⟨hs, rfl⟩
  indexed := h.indexed
  valid key id hid := by
    rw [h.origins] at hid
    obtain ⟨r, hr, rfl⟩ := Option.map_eq_some_iff.mp hid
    exact h.valid r (List.mem_of_find?_eq_some hr)

theorem merges (h : m.Keeps kept) (policy : MergePolicy) (calls : List (String × SignatureTable)) :
    ∃ kept', (m.merges policy calls).Keeps kept' := by
  induction calls generalizing m kept with
  | nil => exact ⟨kept, h⟩
  | cons call calls ih =>
    obtain ⟨accepted, -, hadd, -⟩ := h.add policy call.1 call.2
    exact ih hadd

theorem of_visits {policy : MergePolicy} (hvisits : Visits policy m s) : ∃ kept, m.Keeps kept := by
  obtain ⟨calls, source, t, before, after, -, htake⟩ := hvisits
  obtain ⟨kept, hstart⟩ := Keeps.empty.merges policy calls
  obtain ⟨accepted, -, htaken, -⟩ := hstart.takeNext policy source before
  rw [htake] at htaken
  exact ⟨_, htaken⟩

end Keeps

theorem Coherent.not_strands (h : m.Coherent) (s : Signature) : ¬ m.Strands s := by
  rintro ⟨hsome, hnone⟩
  have hkey := (h.originKeys _).mp ((Dictionary.mem_keys_iff _ _).mpr hsome)
  have hspelled := (Dictionary.mem_keys_iff _ _).mp ((h.spellingKeys _).mpr hkey)
  rw [hnone] at hspelled
  cases hspelled

/-- Every state that merges lead to is coherent, and so is every state in between in which a record
is taken; in none of them a colliding record would be inserted anew. -/
theorem coherent_of_merges (policy : MergePolicy) :
    (∀ calls, (empty.merges policy calls).Coherent) ∧
      ∀ m s, Visits policy m s → m.Coherent ∧ ¬ m.Strands s := by
  refine ⟨fun calls => ?_, fun m s hvisits => ?_⟩
  · obtain ⟨kept, h⟩ := Keeps.empty.merges policy calls
    exact h.coherent
  · obtain ⟨kept, h⟩ := Keeps.of_visits hvisits
    exact ⟨h.coherent, h.coherent.not_strands s⟩

/-- A merge does come to take records that collide. -/
example : ∃ m, Visits .lastWins m { name := "_max" } ∧ (m.origins.get? "_max").isSome := by
  refine ⟨_, ⟨[("Math", .ofList [{ name := "_Max" }])], "Mine", .ofList [{ name := "_max" }],
    [], [], rfl, rfl⟩, ?_⟩
  decide

end AutoItDocs.Merged
