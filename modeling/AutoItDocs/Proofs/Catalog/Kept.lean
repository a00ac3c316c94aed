import AutoItDocs.Catalog.Merge
import AutoItDocs.Proofs.Signature.Table
/-!
What a merge keeps, as one list of records in slot order, each with the index of its source. The
parts of a merge state are views of that list, and a further record changes it by `keep`.
-/
namespace AutoItDocs

/-- A record and the index of the source that it comes from. -/
structure Sourced where
  record : Signature
  source : Nat
  deriving DecidableEq, Repr

/-- The lowercase form of the record's name, by which it collides. -/
def Sourced.key (r : Sourced) : String := Text.foldCase r.record.name

namespace Merged

/-- What is kept once a further record has been taken. -/
def keep (policy : MergePolicy) (kept : List Sourced) (r : Sourced) : List Sourced :=
  if r.key ∈ kept.map Sourced.key then
    match policy with
    | .lastWins => kept.map fun q => if q.key = r.key then r else q
    | .firstWins | .refuse => kept
  else kept ++ [r]

/-- The state keeps exactly the given records, in slot order, and every part of it says so. -/
structure Keeps (m : Merged) (kept : List Sourced) : Prop where
  entries : m.table.entries = kept.map (·.record)
  indexed : m.table.Coherent
  distinct : (kept.map Sourced.key).Nodup
  origins : ∀ key, m.origins.get? key = (kept.find? (·.key = key)).map (·.source)
  spellings : ∀ key, m.spellings.get? key = (kept.find? (·.key = key)).map (·.record.name)
  valid : ∀ r ∈ kept, r.source < m.sources.length

variable {m next : Merged} {kept : List Sourced} {policy : MergePolicy} {source : String} {id : Nat}
  {s : Signature} {r : Sourced} {key : String}

theorem find?_key_eq_none_iff : kept.find? (·.key = key) = none ↔ key ∉ kept.map Sourced.key := by
  simp

theorem find?_key_eq_some_iff (distinct : (kept.map Sourced.key).Nodup) :
    kept.find? (·.key = key) = some r ↔ r ∈ kept ∧ r.key = key := by
  constructor
  · intro hfind
    exact ⟨List.mem_of_find?_eq_some hfind, by simpa using List.find?_some hfind⟩
  · rintro ⟨hmem, rfl⟩
    cases hfind : kept.find? (·.key = r.key) with
    | none => exact absurd (List.mem_map_of_mem hmem) (find?_key_eq_none_iff.mp hfind)
    | some q =>
      have hq : q ∈ kept := List.mem_of_find?_eq_some hfind
      have hkey : q.key = r.key := by simpa using List.find?_some hfind
      rw [List.inj_on_of_nodup_map distinct hq hmem hkey]

theorem keep_of_absent (absent : r.key ∉ kept.map Sourced.key) :
    keep policy kept r = kept ++ [r] := by
  simp only [keep, absent, if_false]

theorem keep_lastWins_of_present (present : r.key ∈ kept.map Sourced.key) :
    keep .lastWins kept r = kept.map fun q => if q.key = r.key then r else q := by
  simp only [keep, present, if_true]

theorem keep_of_present (present : r.key ∈ kept.map Sourced.key) (hpolicy : policy ≠ .lastWins) :
    keep policy kept r = kept := by
  cases policy with
  | lastWins => exact absurd rfl hpolicy
  | firstWins | refuse => simp only [keep, present, if_true]

theorem mem_of_mem_keep {q : Sourced} (hq : q ∈ keep policy kept r) : q ∈ kept ∨ q = r := by
  by_cases present : r.key ∈ kept.map Sourced.key
  · cases policy with
    | lastWins =>
      rw [keep_lastWins_of_present present] at hq
      obtain ⟨p, hp, rfl⟩ := List.mem_map.mp hq
      by_cases hkey : p.key = r.key
      · simp [hkey]
      · simp [hkey, hp]
    | firstWins | refuse =>
      rw [keep_of_present present (by decide)] at hq
      exact .inl hq
  · rw [keep_of_absent present] at hq
    simpa using hq

theorem mem_of_mem_foldl_keep {records : List Sourced} {q : Sourced}
    (hq : q ∈ records.foldl (keep policy) kept) : q ∈ kept ∨ q ∈ records := by
  induction records generalizing kept with
  | nil => exact .inl hq
  | cons r records ih =>
    rcases ih hq with hkept | hrest
    · rcases mem_of_mem_keep hkept with hkept | rfl
      · exact .inl hkept
      · exact .inr List.mem_cons_self
    · exact .inr (List.mem_cons_of_mem r hrest)

/-- A replacement changes records but no key, so it leaves the order of the keys alone. -/
theorem map_key_replace (kept : List Sourced) (r : Sourced) :
    (kept.map fun q => if q.key = r.key then r else q).map Sourced.key = kept.map Sourced.key := by
  rw [List.map_map]
  apply List.map_congr_left
  intro q _
  by_cases hkey : q.key = r.key <;> simp [hkey]

theorem map_key_keep (policy : MergePolicy) (kept : List Sourced) (r : Sourced) :
    (keep policy kept r).map Sourced.key =
      if r.key ∈ kept.map Sourced.key then kept.map Sourced.key
      else kept.map Sourced.key ++ [r.key] := by
  by_cases present : r.key ∈ kept.map Sourced.key
  · rw [if_pos present]
    cases policy with
    | lastWins => rw [keep_lastWins_of_present present, map_key_replace]
    | firstWins | refuse => rw [keep_of_present present (by decide)]
  · rw [if_neg present, keep_of_absent present, List.map_append, List.map_singleton]

theorem nodup_keep (distinct : (kept.map Sourced.key).Nodup) :
    ((keep policy kept r).map Sourced.key).Nodup := by
  rw [map_key_keep]
  by_cases present : r.key ∈ kept.map Sourced.key
  · rwa [if_pos present]
  · rw [if_neg present]
    exact List.nodup_append_comm.mp (List.nodup_cons.mpr ⟨present, distinct⟩)

/-- A look-up finds the new record where that one counts, else what it found before. -/
theorem find?_keep (policy : MergePolicy) (kept : List Sourced) (r : Sourced) (key : String) :
    (keep policy kept r).find? (·.key = key) =
      if key = r.key ∧ (policy = .lastWins ∨ r.key ∉ kept.map Sourced.key) then some r
      else kept.find? (·.key = key) := by
  by_cases present : r.key ∈ kept.map Sourced.key
  · cases policy with
    | lastWins =>
      -- The test is on keys, which a replacement leaves alone; only what is found can be replaced.
      rw [keep_lastWins_of_present present, List.find?_map]
      have hsame : ((fun q : Sourced => decide (q.key = key)) ∘
          fun q => if q.key = r.key then r else q) = fun q => decide (q.key = key) := by
        funext q
        by_cases hq : q.key = r.key <;> simp [hq]
      rw [hsame]
      cases hfind : kept.find? (·.key = key) with
      | none =>
        have hne : key ≠ r.key := by
          rintro rfl
          exact find?_key_eq_none_iff.mp hfind present
        simp [hne]
      | some q =>
        have hq : q.key = key := by simpa using List.find?_some hfind
        by_cases hkey : key = r.key <;> simp [hq, hkey]
    | firstWins | refuse => simp [keep_of_present present, present]
  · rw [keep_of_absent present, List.find?_append]
    by_cases hkey : key = r.key
    · subst hkey
      simp [find?_key_eq_none_iff.mpr present, present]
    · have hne : ¬ r.key = key := fun he => hkey he.symm
      simp [hkey, hne]

theorem take_of_fresh (fresh : m.origins.get? (Text.foldCase s.name) = none) :
    m.take policy source id s = .ok { m with
      table := (m.table.insert s).2
      origins := m.origins.put (Text.foldCase s.name) id
      spellings := m.spellings.put (Text.foldCase s.name) s.name } := by
  simp only [take, fresh]

theorem take_firstWins {previous : Nat}
    (known : m.origins.get? (Text.foldCase s.name) = some previous) :
    m.take .firstWins source id s = .ok { m with
      collisions := m.collisions ++ [⟨s.name, source, (m.sources[previous]?).getD ""⟩] } := by
  simp only [take, known]

theorem take_refuse {previous : Nat}
    (known : m.origins.get? (Text.foldCase s.name) = some previous) :
    m.take .refuse source id s =
      .error ⟨s.name, (m.sources[previous]?).getD "", source⟩ := by
  simp only [take, known]

theorem take_lastWins {previous : Nat} {stored : String}
    (known : m.origins.get? (Text.foldCase s.name) = some previous)
    (spelled : m.spellings.get? (Text.foldCase s.name) = some stored) :
    m.take .lastWins source id s = .ok { m with
      table := (m.table.replace stored s).2
      origins := m.origins.put (Text.foldCase s.name) id
      spellings := m.spellings.put (Text.foldCase s.name) s.name
      collisions := m.collisions ++ [⟨s.name, (m.sources[previous]?).getD "", source⟩] } := by
  simp only [take, known, spelled]

namespace Keeps

theorem empty : Merged.empty.Keeps [] where
  entries := rfl
  indexed := SignatureTable.coherent_empty
  distinct := List.nodup_nil
  origins _ := rfl
  spellings _ := rfl
  valid _ hr := absurd hr List.not_mem_nil

theorem names_eq (h : m.Keeps kept) : m.table.names = kept.map (·.record.name) := by
  rw [SignatureTable.names, h.entries, List.map_map]
  rfl

theorem map_foldCase_names (h : m.Keeps kept) :
    m.table.names.map Text.foldCase = kept.map Sourced.key := by
  rw [h.names_eq, List.map_map]
  rfl

/-- No function is stored twice, in whatever spelling. -/
theorem nodup_names (h : m.Keeps kept) : m.table.names.Nodup := by
  have hdistinct := h.distinct
  rw [← h.map_foldCase_names] at hdistinct
  exact hdistinct.of_map Text.foldCase

theorem record_mem (h : m.Keeps kept) (hr : r ∈ kept) : r.record ∈ m.table.entries := by
  rw [h.entries]
  exact List.mem_map_of_mem hr

theorem name_mem (h : m.Keeps kept) (hr : r ∈ kept) : r.record.name ∈ m.table.names :=
  List.mem_map_of_mem (h.record_mem hr)

theorem exists_kept (h : m.Keeps kept) (hs : s ∈ m.table.entries) : ∃ r ∈ kept, r.record = s := by
  rw [h.entries] at hs
  exact List.mem_map.mp hs

theorem origins_eq_none_iff (h : m.Keeps kept) :
    m.origins.get? key = none ↔ key ∉ kept.map Sourced.key := by
  rw [h.origins, Option.map_eq_none_iff, find?_key_eq_none_iff]

theorem origin_of_mem (h : m.Keeps kept) (hr : r ∈ kept) :
    m.origins.get? r.key = some r.source := by
  rw [h.origins, (find?_key_eq_some_iff h.distinct).mpr ⟨hr, rfl⟩, Option.map_some]

theorem spelling_of_mem (h : m.Keeps kept) (hr : r ∈ kept) :
    m.spellings.get? r.key = some r.record.name := by
  rw [h.spellings, (find?_key_eq_some_iff h.distinct).mpr ⟨hr, rfl⟩, Option.map_some]

/-- The origins and the spellings follow a record that counts from now on, whatever table holds
it. -/
theorem put (h : m.Keeps kept) (hid : id < m.sources.length) {table : SignatureTable}
    (counts : policy = .lastWins ∨ Text.foldCase s.name ∉ kept.map Sourced.key)
    (entries : table.entries = (keep policy kept ⟨s, id⟩).map (·.record))
    (indexed : table.Coherent) :
    Keeps { m with
      table
      origins := m.origins.put (Text.foldCase s.name) id
      spellings := m.spellings.put (Text.foldCase s.name) s.name }
      (keep policy kept ⟨s, id⟩) := by
  have hfind : ∀ key, (keep policy kept ⟨s, id⟩).find? (·.key = key) =
      if key = Text.foldCase s.name then some ⟨s, id⟩ else kept.find? (·.key = key) := by
    intro key
    rw [find?_keep]
    simp only [Sourced.key] at counts ⊢
    simp only [counts, and_true]
  constructor
  · exact entries
  · exact indexed
  · exact nodup_keep h.distinct
  · intro key
    rw [Dictionary.get?_put, hfind, h.origins, apply_ite (Option.map _)]
    rfl
  · intro key
    rw [Dictionary.get?_put, hfind, h.spellings, apply_ite (Option.map _)]
    rfl
  · intro q hq
    rcases mem_of_mem_keep hq with hq | rfl
    · exact h.valid q hq
    · exact hid

/-- A new name is added at the end. -/
theorem insert (h : m.Keeps kept) (hid : id < m.sources.length)
    (absent : Text.foldCase s.name ∉ kept.map Sourced.key) :
    Keeps { m with
      table := (m.table.insert s).2
      origins := m.origins.put (Text.foldCase s.name) id
      spellings := m.spellings.put (Text.foldCase s.name) s.name }
      (keep policy kept ⟨s, id⟩) := by
  have habsent : s.name ∉ m.table.names := by
    intro hmem
    rw [← h.map_foldCase_names] at absent
    exact absent (List.mem_map_of_mem hmem)
  have hkeep : keep policy kept ⟨s, id⟩ = kept ++ [⟨s, id⟩] := keep_of_absent absent
  refine h.put hid (.inr absent) ?_ (h.indexed.insert s)
  rw [h.indexed.entries_insert habsent, h.entries, hkeep, List.map_append, List.map_singleton]

theorem setCollisions (h : m.Keeps kept) (collisions : List Collision) :
    Keeps { m with collisions } kept :=
  ⟨h.entries, h.indexed, h.distinct, h.origins, h.spellings, h.valid⟩

theorem addSource (h : m.Keeps kept) (source : String) :
    Keeps { m with sources := m.sources ++ [source] } kept where
  entries := h.entries
  indexed := h.indexed
  distinct := h.distinct
  origins := h.origins
  spellings := h.spellings
  valid r hr := by
    rw [List.length_append]
    exact Nat.lt_add_right 1 (h.valid r hr)

/-- A record takes over the slot of the kept one with its lowercase name, under its own spelling. -/
theorem replace (h : m.Keeps kept) (hid : id < m.sources.length) (hr : r ∈ kept)
    (hkey : r.key = Text.foldCase s.name) :
    Keeps { m with
      table := (m.table.replace r.record.name s).2
      origins := m.origins.put (Text.foldCase s.name) id
      spellings := m.spellings.put (Text.foldCase s.name) s.name }
      (keep .lastWins kept ⟨s, id⟩) := by
  have present : Sourced.key ⟨s, id⟩ ∈ kept.map Sourced.key := by
    rw [Sourced.key, ← hkey]
    exact List.mem_map_of_mem hr
  have hstored := h.name_mem hr
  -- Among the kept records, to have the stored spelling is to have the lowercase name.
  have hsame : ∀ q ∈ kept, q.record.name = r.record.name ↔ q.key = Text.foldCase s.name := by
    intro q hq
    constructor
    · intro he
      rw [← hkey, Sourced.key, Sourced.key, he]
    · intro he
      rw [List.inj_on_of_nodup_map h.distinct hq hr (he.trans hkey.symm)]
  have hfree : s.name = r.record.name ∨ s.name ∉ m.table.names := by
    by_cases hmem : s.name ∈ m.table.names
    · rw [h.names_eq] at hmem
      obtain ⟨q, hq, hname⟩ := List.mem_map.mp hmem
      have he : q.key = Text.foldCase s.name := by rw [Sourced.key, hname]
      exact .inl (hname ▸ (hsame q hq).mpr he)
    · exact .inr hmem
  refine h.put hid (.inl rfl) ?_ (h.indexed.replace hstored hfree)
  rw [h.indexed.entries_replace hstored, h.entries, keep_lastWins_of_present present,
    List.map_map, List.map_map]
  apply List.map_congr_left
  intro q hq
  change (if q.record.name = r.record.name then s else q.record) =
    (if q.key = Text.foldCase s.name then (⟨s, id⟩ : Sourced) else q).record
  by_cases hq' : q.key = Text.foldCase s.name
  · rw [if_pos hq', if_pos ((hsame q hq).mpr hq')]
  · rw [if_neg hq', if_neg fun he => hq' ((hsame q hq).mp he)]

/-- What one record does to the kept records, whatever the policy. -/
theorem take (h : m.Keeps kept) (hid : id < m.sources.length)
    (hok : m.take policy source id s = .ok next) : next.Keeps (keep policy kept ⟨s, id⟩) := by
  by_cases present : Text.foldCase s.name ∈ kept.map Sourced.key
  · obtain ⟨r, hr, hkey⟩ := List.mem_map.mp present
    have horigin := h.origin_of_mem hr
    have hspelling := h.spelling_of_mem hr
    rw [hkey] at horigin hspelling
    cases policy with
    | lastWins =>
      rw [take_lastWins horigin hspelling, Except.ok.injEq] at hok
      subst hok
      exact (h.replace hid hr hkey).setCollisions _
    | firstWins =>
      rw [take_firstWins horigin, Except.ok.injEq] at hok
      subst hok
      have hkeep : keep .firstWins kept ⟨s, id⟩ = kept := keep_of_present present (by decide)
      rw [hkeep]
      exact h.setCollisions _
    | refuse =>
      rw [take_refuse horigin] at hok
      cases hok
  · rw [take_of_fresh (h.origins_eq_none_iff.mpr present), Except.ok.injEq] at hok
    subst hok
    exact h.insert hid present

end Keeps

end Merged

end AutoItDocs
