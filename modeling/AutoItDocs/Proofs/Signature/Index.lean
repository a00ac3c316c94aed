import AutoItDocs.Proofs.Signature.OrderedMap
/-!
Tables after any edits, replacements by a name that another slot has among them. Such a replacement
leaves a slot behind that no name leads to, so names repeat and a look-up says nothing about the
records as a whole. Main statement: each name of the index still leads to a slot of its own, which
holds a record of that name, and no edit touches another slot than that.
-/
namespace AutoItDocs.SignatureTable

/-- The index of the table can be trusted: what it leads to is there and has the name that was
looked up, and an operation changes only the slot that it gives. -/
structure IsIndexed (t : SignatureTable) : Prop where
  slot_lt : ∀ name slot, t.slots.get? name = some slot → slot < t.size
  named : ∀ name slot, t.slots.get? name = some slot →
    ∃ s, t.entries[slot]? = some s ∧ s.name = name
  apart : ∀ name other slot, t.slots.get? name = some slot → t.slots.get? other = some slot →
    name = other
  get? : ∀ name, (t.contains name = true ∧ ∃ s, t.get? name = some s ∧ s.name = name) ∨
    t.contains name = false ∧ t.get? name = none
  insert_held : ∀ s slot, t.slots.get? s.name = some slot → ∃ old,
    (t.insert s).1 = some old ∧ t.Fills s.name slot old s (t.insert s).2
  insert_new : ∀ s, t.slots.get? s.name = none →
    (t.insert s).1 = none ∧ t.Appends s (t.insert s).2
  replace_held : ∀ name s slot, t.slots.get? name = some slot → ∃ old,
    (t.replace name s).1 = some old ∧ t.Fills name slot old s (t.replace name s).2
  replace_missing : ∀ name s, t.slots.get? name = none → t.replace name s = (none, t)
  size_insert : ∀ s, t.size ≤ (t.insert s).2.size
  size_replace : ∀ name s, (t.replace name s).2.size = t.size

variable {t next : SignatureTable} {old s : Signature} {e : Edit} {name other : String}
  {slot : Nat}

theorem Fills.size_eq (h : t.Fills name slot old s next) : next.size = t.size := by
  rw [size, h.entries, List.length_set, size]

theorem Appends.size_eq (h : t.Appends s next) : next.size = t.size + 1 := by
  rw [size, h.entries, List.length_append, size]
  rfl

/-- A slot that is filled has the name that leads to it from then on, and only that one. -/
theorem Fills.sound (h : t.Fills name slot old s next) (hsound : t.Sound) : next.Sound := by
  intro other i hother
  have hlt : slot < t.entries.length := (List.getElem?_eq_some_iff.mp h.old_eq).1
  rw [h.slots] at hother
  rw [names_getElem?, h.entries]
  by_cases hs : other = s.name
  · obtain rfl : slot = i := by simpa [hs] using hother
    simp [hlt, hs]
  · rw [if_neg hs] at hother
    by_cases hn : other = name
    · simp [hn] at hother
    · rw [if_neg hn] at hother
      have hheld := hsound other i hother
      rw [names_getElem?] at hheld
      -- The slot that is filled was that of `name` alone.
      have hne : slot ≠ i := by
        rintro rfl
        rw [h.old_eq, Option.map_some, h.name_eq, Option.some.injEq] at hheld
        exact hn hheld.symm
      rwa [List.getElem?_set_ne hne]

theorem Appends.sound (h : t.Appends s next) (hsound : t.Sound) : next.Sound := by
  intro other i hother
  rw [h.slots] at hother
  rw [names, h.entries, List.map_append, List.map_singleton, concat_getElem?_eq_some,
    List.length_map]
  by_cases hs : other = s.name
  · rw [if_pos hs, Option.some.injEq] at hother
    exact .inr ⟨hother.symm, hs.symm⟩
  · rw [if_neg hs] at hother
    exact .inl (hsound other i hother)

namespace Sound

theorem exists_entry (h : t.Sound) (hslot : t.slots.get? name = some slot) :
    ∃ s, t.entries[slot]? = some s ∧ s.name = name := by
  have hname := h name slot hslot
  rwa [names_getElem?, Option.map_eq_some_iff] at hname

theorem insert (h : t.Sound) (s : Signature) : (t.insert s).2.Sound := by
  cases hslot : t.slots.get? s.name with
  | some slot =>
    obtain ⟨old, -, hfills⟩ := h.insert_of_slot hslot
    exact hfills.sound h
  | none => exact (h.insert_of_none hslot).2.sound h

/-- The new name may be one that another slot has: the index then leads to the replaced slot. -/
theorem replace (h : t.Sound) (name : String) (s : Signature) : (t.replace name s).2.Sound := by
  cases hslot : t.slots.get? name with
  | some slot =>
    obtain ⟨old, -, hfills⟩ := h.replace_of_slot hslot s
    exact hfills.sound h
  | none =>
    rw [replace_of_none hslot]
    exact h

theorem edit (h : t.Sound) (e : Edit) : (t.edit e).Sound := by
  cases e with
  | insert s => exact h.insert s
  | replace name s => exact h.replace name s
  | collect => exact (coherent_ofList t.entries).sound

theorem editAll (h : t.Sound) (edits : List Edit) : (t.editAll edits).Sound := by
  induction edits generalizing t with
  | nil => exact h
  | cons e edits ih => exact ih (h.edit e)

theorem size_le_insert (h : t.Sound) (s : Signature) : t.size ≤ (t.insert s).2.size := by
  cases hslot : t.slots.get? s.name with
  | some slot =>
    obtain ⟨old, -, hfills⟩ := h.insert_of_slot hslot
    exact Nat.le_of_eq hfills.size_eq.symm
  | none =>
    rw [(h.insert_of_none hslot).2.size_eq]
    exact Nat.le_succ _

theorem size_replace (h : t.Sound) (name : String) (s : Signature) :
    (t.replace name s).2.size = t.size := by
  cases hslot : t.slots.get? name with
  | some slot =>
    obtain ⟨old, -, hfills⟩ := h.replace_of_slot hslot s
    exact hfills.size_eq
  | none => rw [replace_of_none hslot]

end Sound

/-- A table of any records has an index to trust after any edits. Since this holds for every
beginning of a run, no edit in it looks for a record where there is none. -/
theorem isIndexed_editAll (records : List Signature) (edits : List Edit) :
    ((ofList records).editAll edits).IsIndexed := by
  have hsound := (coherent_ofList records).sound.editAll edits
  constructor
  case slot_lt =>
    intro name slot hslot
    obtain ⟨s, hs, -⟩ := hsound.exists_entry hslot
    exact (List.getElem?_eq_some_iff.mp hs).1
  case named => exact fun name slot hslot => hsound.exists_entry hslot
  case apart =>
    intro name other slot hname hother
    have hsame := hsound name slot hname
    rw [hsound other slot hother, Option.some.injEq] at hsame
    exact hsame.symm
  case get? =>
    intro name
    rw [contains, Dictionary.contains, SignatureTable.get?]
    cases hslot : ((ofList records).editAll edits).slots.get? name with
    | some slot => exact .inl ⟨rfl, hsound.exists_entry hslot⟩
    | none => exact .inr ⟨rfl, rfl⟩
  case insert_held => exact fun s slot hslot => hsound.insert_of_slot hslot
  case insert_new => exact fun s hslot => hsound.insert_of_none hslot
  case replace_held => exact fun name s slot hslot => hsound.replace_of_slot hslot s
  case replace_missing => exact fun name s hslot => replace_of_none hslot s
  case size_insert => exact hsound.size_le_insert
  case size_replace => exact hsound.size_replace

/-- A slot that no name leads to any more, and a name that was free and has a further slot now. -/
example : ((ofList [{ name := "_Max" }, { name := "_Min" }]).editAll
    [.replace "_Max" { name := "_Min" }, .insert { name := "_Max" }]).names =
      ["_Min", "_Min", "_Max"] := by decide

end AutoItDocs.SignatureTable
