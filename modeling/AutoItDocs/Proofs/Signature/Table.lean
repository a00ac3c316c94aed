import AutoItDocs.Signature.Table
import Mathlib.Data.List.Nodup
/-!
Tables whose index is exact. Insertion always keeps the index exact, replacement does as long as no
other slot holds the new name; an exact index makes every look-up a question about the records.
-/
namespace AutoItDocs.SignatureTable

/-- The names with a slot are those of the records, each with the slot of its own record. -/
def Coherent (t : SignatureTable) : Prop :=
  ∀ name slot, t.slots.get? name = some slot ↔ t.names[slot]? = some name

/-- Built from nothing by insertions alone. -/
def Built (t : SignatureTable) : Prop := ∃ records, t = ofList records

variable {t : SignatureTable} {s : Signature} {name stored : String}

theorem names_getElem? (t : SignatureTable) (slot : Nat) :
    t.names[slot]? = t.entries[slot]?.map (·.name) := by
  simp [names]

theorem concat_getElem?_eq_some {α : Type} (l : List α) (a b : α) (i : Nat) :
    (l ++ [a])[i]? = some b ↔ l[i]? = some b ∨ i = l.length ∧ a = b := by
  rcases Nat.lt_trichotomy i l.length with hlt | heq | hgt
  · have hne : i ≠ l.length := Nat.ne_of_lt hlt
    simp [List.getElem?_append_left hlt, hne]
  · subst heq
    simp
  · have hne : i ≠ l.length := Nat.ne_of_gt hgt
    have hpast : (l ++ [a]).length ≤ i := by rw [List.length_append]; exact hgt
    have hpast' : l.length ≤ i := Nat.le_of_lt hgt
    simp [List.getElem?_eq_none hpast, List.getElem?_eq_none hpast', hne]

theorem coherent_empty : empty.Coherent := by
  intro name slot
  simp [empty, names, Dictionary.get?, Dictionary.empty]

namespace Coherent

/-- One name cannot be in two slots, since the index knows only one. -/
theorem nodup (h : t.Coherent) : t.names.Nodup := by
  rw [List.nodup_iff_getElem?_ne_getElem?]
  intro i j hij hj heq
  have hn : t.names[j]? = some t.names[j] := List.getElem?_eq_getElem hj
  have hi := (h t.names[j] i).mpr (heq.trans hn)
  rw [(h t.names[j] j).mpr hn] at hi
  cases hi
  exact Nat.lt_irrefl _ hij

theorem get?_eq_some_iff (h : t.Coherent) :
    t.get? name = some s ↔ s ∈ t.entries ∧ s.name = name := by
  constructor
  · intro hget
    obtain ⟨slot, hslot, hs⟩ := Option.bind_eq_some_iff.mp hget
    have hname := (h name slot).mp hslot
    rw [names_getElem?, hs] at hname
    exact ⟨List.mem_of_getElem? hs, by simpa using hname⟩
  · rintro ⟨hmem, rfl⟩
    obtain ⟨slot, hs⟩ := List.getElem?_of_mem hmem
    have hslot : t.slots.get? s.name = some slot := by
      rw [h, names_getElem?, hs, Option.map_some]
    rw [get?, hslot, Option.bind_some, hs]

theorem slots_eq_none_iff (h : t.Coherent) : t.slots.get? name = none ↔ name ∉ t.names := by
  constructor
  · intro hnone hmem
    obtain ⟨slot, hslot⟩ := List.getElem?_of_mem hmem
    rw [(h name slot).mpr hslot] at hnone
    cases hnone
  · intro hmem
    cases hslot : t.slots.get? name with
    | none => rfl
    | some slot => exact absurd (List.mem_of_getElem? ((h name slot).mp hslot)) hmem

theorem contains_iff (h : t.Coherent) : t.contains name = true ↔ name ∈ t.names := by
  rw [contains, Dictionary.contains, Option.isSome_iff_ne_none, ne_eq, h.slots_eq_none_iff, not_not]

theorem entries_insert (h : t.Coherent) (absent : s.name ∉ t.names) :
    (t.insert s).2.entries = t.entries ++ [s] := by
  simp only [SignatureTable.insert, h.slots_eq_none_iff.mpr absent]

theorem insert (h : t.Coherent) (s : Signature) : (t.insert s).2.Coherent := by
  intro name slot
  cases hslot : t.slots.get? s.name with
  | some i =>
    -- The record stays under its name, so neither the index nor the names change.
    obtain ⟨hlt, hname⟩ := List.getElem?_eq_some_iff.mp ((h s.name i).mp hslot)
    have hslots : (t.insert s).2.slots = t.slots := by simp only [SignatureTable.insert, hslot]
    have hnames : (t.insert s).2.names = t.names := by
      simp only [SignatureTable.insert, hslot, SignatureTable.names, List.map_set]
      rw [← hname]
      exact List.set_getElem_self hlt
    rw [hslots, hnames]
    exact h name slot
  | none =>
    have hslots : (t.insert s).2.slots = t.slots.put s.name t.names.length := by
      simp [SignatureTable.insert, hslot, SignatureTable.names]
    have hnames : (t.insert s).2.names = t.names ++ [s.name] := by
      simp [SignatureTable.insert, hslot, SignatureTable.names]
    rw [hslots, hnames, Dictionary.get?_put, concat_getElem?_eq_some]
    by_cases hn : name = s.name
    · subst hn
      have hold : t.names[slot]? ≠ some s.name :=
        fun hi => h.slots_eq_none_iff.mp hslot (List.mem_of_getElem? hi)
      simp [hold, eq_comm]
    · simp [hn, h name slot, Ne.symm hn]

theorem insertAll (h : t.Coherent) (records : List Signature) : (t.insertAll records).Coherent := by
  induction records generalizing t with
  | nil => exact h
  | cons s records ih => exact ih (h.insert s)

/-- Replacement fills the slot of the name and leaves every other slot alone. -/
theorem entries_replace (h : t.Coherent) (present : stored ∈ t.names) (s : Signature) :
    (t.replace stored s).2.entries = t.entries.map fun r => if r.name = stored then s else r := by
  obtain ⟨i, hi⟩ := List.getElem?_of_mem present
  have hslot := (h stored i).mpr hi
  simp only [SignatureTable.replace, hslot]
  apply List.ext_getElem?
  intro j
  rw [List.getElem?_set, List.getElem?_map]
  cases hj : t.entries[j]? with
  | none =>
    have hpast : t.entries.length ≤ j := List.getElem?_eq_none_iff.mp hj
    by_cases hij : i = j
    · simp [hij, hpast]
    · simp [hij]
  | some r =>
    have hlt : j < t.entries.length := (List.getElem?_eq_some_iff.mp hj).1
    have hr : r.name = stored ↔ i = j := by
      have hname : t.slots.get? r.name = some j := by rw [h, names_getElem?, hj, Option.map_some]
      constructor
      · intro he
        rw [he, hslot] at hname
        exact Option.some.inj hname
      · intro he
        rw [names_getElem?, he, hj] at hi
        simpa using hi
    by_cases hij : i = j
    · subst hij
      simp [hr, hlt]
    · simp [hr, hij]

theorem replace (h : t.Coherent) (present : stored ∈ t.names)
    (free : s.name = stored ∨ s.name ∉ t.names) : (t.replace stored s).2.Coherent := by
  obtain ⟨i, hi⟩ := List.getElem?_of_mem present
  have hslot := (h stored i).mpr hi
  have hlt : i < t.names.length := (List.getElem?_eq_some_iff.mp hi).1
  have unique : ∀ slot, t.names[slot]? = some stored → slot = i := by
    intro slot hs
    rw [← h, hslot] at hs
    exact (Option.some.inj hs).symm
  have hslots : (t.replace stored s).2.slots = (t.slots.erase stored).put s.name i := by
    simp only [SignatureTable.replace, hslot]
  have hnames : (t.replace stored s).2.names = t.names.set i s.name := by
    simp only [SignatureTable.replace, hslot, SignatureTable.names, List.map_set]
  intro name slot
  rw [hslots, hnames, Dictionary.get?_put, Dictionary.get?_erase, List.getElem?_set]
  by_cases hs : i = slot
  · subst hs
    by_cases hn : name = s.name
    · simp [hn, hlt]
    · have hold : name ≠ stored → t.slots.get? name ≠ some i := by
        intro hne hget
        rw [h, hi] at hget
        exact hne (Option.some.inj hget).symm
      by_cases ho : name = stored
      · subst ho
        simp [hn, hlt, Ne.symm hn]
      · simp [hn, hlt, ho, hold ho, Ne.symm hn]
  · by_cases hn : name = s.name
    · have hother : t.names[slot]? ≠ some s.name := by
        intro hm
        rcases free with he | habsent
        · exact hs (unique slot (he ▸ hm)).symm
        · exact habsent (List.mem_of_getElem? hm)
      simp only [hn, hs, if_true, if_false, hother, Option.some.injEq]
    · by_cases ho : name = stored
      · have hother : t.names[slot]? ≠ some stored := fun hm => hs (unique slot hm).symm
        simp only [ho, ho ▸ hn, hs, if_true, if_false, hother, reduceCtorEq]
      · simp only [hn, ho, hs, if_false, h name slot]

end Coherent

theorem coherent_ofList (records : List Signature) : (ofList records).Coherent :=
  coherent_empty.insertAll records

theorem Built.coherent (h : t.Built) : t.Coherent := by
  obtain ⟨records, rfl⟩ := h
  exact coherent_ofList records

end AutoItDocs.SignatureTable
