import AutoItDocs.Proofs.Signature.Table
import Mathlib.Data.Finset.Card
/-!
Tables as maps in insertion order. Main statement: as long as no replacement takes a name that
another slot has, a table is the map that its records list, and every operation changes one slot and
what is found under the names of that slot.
-/
namespace AutoItDocs.SignatureTable

inductive Edit where
  | insert (s : Signature)
  | replace (name : String) (s : Signature)
  /-- Builds the table anew from its own records. -/
  | collect
  deriving DecidableEq, Repr

def edit (t : SignatureTable) : Edit → SignatureTable
  | .insert s => (t.insert s).2
  | .replace name s => (t.replace name s).2
  | .collect => ofList t.entries

def editAll (t : SignatureTable) : List Edit → SignatureTable
  | [] => t
  | e :: edits => (t.edit e).editAll edits

/-- The edit does not move a slot to a name that another slot has. -/
def Fits (t : SignatureTable) : Edit → Prop
  | .insert _ => True
  | .replace name s => t.contains name → s.name = name ∨ ¬ t.contains s.name
  | .collect => True

/-- Each edit fits the table that it changes. -/
def FitAll (t : SignatureTable) : List Edit → Prop
  | [] => True
  | e :: edits => t.Fits e ∧ (t.edit e).FitAll edits

/-- No name leads to a slot with another name. -/
def Sound (t : SignatureTable) : Prop :=
  ∀ name slot, t.slots.get? name = some slot → t.names[slot]? = some name

/-- The tables have the same records and the same index. -/
structure Same (t other : SignatureTable) : Prop where
  entries : t.entries = other.entries
  slots : ∀ name, t.slots.get? name = other.slots.get? name

/-- The slot of `name`, where `old` was, holds `s` from now on, which is found under its own name.
Other slots stay as they are, and so does what is found under other names. -/
structure Fills (t : SignatureTable) (name : String) (slot : Nat) (old s : Signature)
    (next : SignatureTable) : Prop where
  old_eq : t.entries[slot]? = some old
  name_eq : old.name = name
  entries : next.entries = t.entries.set slot s
  slots : ∀ other, next.slots.get? other =
    if other = s.name then some slot else if other = name then none else t.slots.get? other
  get? : ∀ other, next.get? other =
    if other = s.name then some s else if other = name then none else t.get? other

/-- A further slot holds `s`, all else stays as it is. -/
structure Appends (t : SignatureTable) (s : Signature) (next : SignatureTable) : Prop where
  entries : next.entries = t.entries ++ [s]
  slots : ∀ other, next.slots.get? other =
    if other = s.name then some t.entries.length else t.slots.get? other
  get? : ∀ other, next.get? other = if other = s.name then some s else t.get? other

/-- The table is the map from names to records that its entries list, in their order, and each
operation acts on it as on such a map. -/
structure IsOrderedMap (t : SignatureTable) : Prop where
  nodup : t.names.Nodup
  get? : ∀ name s, t.get? name = some s ↔ s ∈ t.entries ∧ s.name = name
  contains : ∀ name, t.contains name = true ↔ name ∈ t.names
  size : t.size = t.names.toFinset.card
  insert_present : ∀ s, s.name ∈ t.names → ∃ slot old,
    (t.insert s).1 = some old ∧ t.Fills s.name slot old s (t.insert s).2
  insert_absent : ∀ s, s.name ∉ t.names → (t.insert s).1 = none ∧ t.Appends s (t.insert s).2
  replace_present : ∀ name s, name ∈ t.names → ∃ slot old,
    (t.replace name s).1 = some old ∧ t.Fills name slot old s (t.replace name s).2
  replace_absent : ∀ name s, name ∉ t.names → t.replace name s = (none, t)
  collect : (ofList t.entries).Same t

variable {t other next : SignatureTable} {s : Signature} {e : Edit} {edits : List Edit}
  {records : List Signature} {name : String} {slot : Nat}

theorem replace_of_none (h : t.slots.get? name = none) (s : Signature) :
    t.replace name s = (none, t) := by
  simp only [replace, h]

namespace Sound

/-- Two names do not share a slot, so only the names of the slot notice what is put there. -/
theorem fills (h : t.Sound) (hslot : t.slots.get? name = some slot)
    (hentries : next.entries = t.entries.set slot s)
    (hslots : ∀ other, next.slots.get? other =
      if other = s.name then some slot else if other = name then none else t.slots.get? other) :
    ∃ old, t.entries[slot]? = some old ∧ t.Fills name slot old s next := by
  have hname := h name slot hslot
  rw [names_getElem?, Option.map_eq_some_iff] at hname
  obtain ⟨old, hold, hname⟩ := hname
  have hlt : slot < t.entries.length := (List.getElem?_eq_some_iff.mp hold).1
  refine ⟨old, hold, hold, hname, hentries, hslots, fun other => ?_⟩
  rw [SignatureTable.get?, hslots, hentries]
  by_cases hs : other = s.name
  · simp [hs, hlt]
  · rw [if_neg hs, if_neg hs]
    by_cases hn : other = name
    · simp [hn]
    · rw [if_neg hn, if_neg hn, SignatureTable.get?]
      cases hother : t.slots.get? other with
      | none => rfl
      | some i =>
        have hne : slot ≠ i := by
          intro heq
          have hsame := h other i hother
          rw [← heq, h name slot hslot] at hsame
          exact hn (Option.some.inj hsame).symm
        simp [hne]

theorem insert_of_slot (h : t.Sound) (hslot : t.slots.get? s.name = some slot) :
    ∃ old, (t.insert s).1 = some old ∧ t.Fills s.name slot old s (t.insert s).2 := by
  simp only [SignatureTable.insert, hslot]
  apply h.fills hslot rfl
  intro other
  by_cases hs : other = s.name
  · rw [if_pos hs, hs, hslot]
  · rw [if_neg hs, if_neg hs]

theorem replace_of_slot (h : t.Sound) (hslot : t.slots.get? name = some slot) (s : Signature) :
    ∃ old, (t.replace name s).1 = some old ∧ t.Fills name slot old s (t.replace name s).2 := by
  simp only [SignatureTable.replace, hslot]
  apply h.fills hslot rfl
  intro other
  rw [Dictionary.get?_put, Dictionary.get?_erase]

theorem insert_of_none (h : t.Sound) (hslot : t.slots.get? s.name = none) :
    (t.insert s).1 = none ∧ t.Appends s (t.insert s).2 := by
  have hinsert : t.insert s = (none, ⟨t.entries ++ [s], t.slots.put s.name t.entries.length⟩) := by
    simp only [SignatureTable.insert, hslot]
  rw [hinsert]
  refine ⟨rfl, rfl, fun other => Dictionary.get?_put _ _ other _, fun other => ?_⟩
  rw [SignatureTable.get?, Dictionary.get?_put]
  by_cases hs : other = s.name
  · simp [hs]
  · rw [if_neg hs, if_neg hs, SignatureTable.get?]
    cases hother : t.slots.get? other with
    | none => rfl
    | some i =>
      have hi := h other i hother
      rw [names_getElem?, Option.map_eq_some_iff] at hi
      obtain ⟨r, hr, -⟩ := hi
      have hlt : i < t.entries.length := (List.getElem?_eq_some_iff.mp hr).1
      simp [List.getElem?_append_left hlt]

end Sound

namespace Coherent

theorem sound (h : t.Coherent) : t.Sound := fun name slot hslot => (h name slot).mp hslot

theorem exists_slot (h : t.Coherent) (present : name ∈ t.names) :
    ∃ slot, t.slots.get? name = some slot := by
  obtain ⟨slot, hslot⟩ := List.getElem?_of_mem present
  exact ⟨slot, (h name slot).mpr hslot⟩

/-- An exact index is determined by the records. -/
theorem same (h : t.Coherent) (hother : other.Coherent) (heq : t.entries = other.entries) :
    t.Same other := by
  refine ⟨heq, fun name => Option.ext fun slot => ?_⟩
  rw [h, hother, names, names, heq]

theorem entries_insertAll (h : t.Coherent) (records : List Signature)
    (hnodup : (t.names ++ records.map (·.name)).Nodup) :
    (t.insertAll records).entries = t.entries ++ records := by
  induction records generalizing t with
  | nil => simp
  | cons s records ih =>
    have habsent : s.name ∉ t.names := by
      intro hmem
      exact (List.nodup_append.mp hnodup).2.2 s.name hmem s.name (by simp) rfl
    have hentries := h.entries_insert habsent
    rw [insertAll_cons, ih (h.insert s), hentries, List.append_assoc, List.singleton_append]
    simpa [names, hentries] using hnodup

theorem same_collect (h : t.Coherent) : (ofList t.entries).Same t := by
  apply (coherent_ofList t.entries).same h
  exact coherent_empty.entries_insertAll t.entries h.nodup

theorem edit (h : t.Coherent) (fits : t.Fits e) : (t.edit e).Coherent := by
  cases e with
  | insert s => exact h.insert s
  | replace name s =>
    by_cases hpresent : name ∈ t.names
    · have hfree := fits (h.contains_iff.mpr hpresent)
      rw [h.contains_iff] at hfree
      exact h.replace hpresent hfree
    · rw [SignatureTable.edit, replace_of_none (h.slots_eq_none_iff.mpr hpresent)]
      exact h
  | collect => exact coherent_ofList t.entries

theorem editAll (h : t.Coherent) (fits : t.FitAll edits) : (t.editAll edits).Coherent := by
  induction edits generalizing t with
  | nil => exact h
  | cons e edits ih => exact ih (h.edit fits.1) fits.2

end Coherent

/-- A table of any records, or of none, is an ordered map after any edits that fit. Since this holds
for every beginning of a run, each edit in it has the effect that it has on an ordered map. -/
theorem isOrderedMap_editAll (h : (ofList records).FitAll edits) :
    ((ofList records).editAll edits).IsOrderedMap := by
  have hcoherent := (coherent_ofList records).editAll h
  constructor
  case nodup => exact hcoherent.nodup
  case get? => exact fun name s => hcoherent.get?_eq_some_iff
  case contains => exact fun name => hcoherent.contains_iff
  case size =>
    rw [List.toFinset_card_of_nodup hcoherent.nodup, names, List.length_map]
    rfl
  case insert_present =>
    intro s hpresent
    obtain ⟨slot, hslot⟩ := hcoherent.exists_slot hpresent
    exact ⟨slot, hcoherent.sound.insert_of_slot hslot⟩
  case insert_absent =>
    intro s habsent
    exact hcoherent.sound.insert_of_none (hcoherent.slots_eq_none_iff.mpr habsent)
  case replace_present =>
    intro name s hpresent
    obtain ⟨slot, hslot⟩ := hcoherent.exists_slot hpresent
    exact ⟨slot, hcoherent.sound.replace_of_slot hslot s⟩
  case replace_absent =>
    intro name s habsent
    exact replace_of_none (hcoherent.slots_eq_none_iff.mpr habsent) s
  case collect => exact hcoherent.same_collect

/-- A slot that gets another spelling of its name, and then a new record under that spelling. -/
theorem isOrderedMap_editAll_respelled :
    ((ofList [{ name := "_Max" }, { name := "_Min" }]).editAll
      [.replace "_Max" { name := "_max" }, .collect, .insert { name := "_max", label := "new" }]
        ).IsOrderedMap ∧
    ((ofList [{ name := "_Max" }, { name := "_Min" }]).editAll
      [.replace "_Max" { name := "_max" }, .collect, .insert { name := "_max", label := "new" }]
        ).names = ["_max", "_Min"] := by
  refine ⟨isOrderedMap_editAll ⟨fun _ => .inr (by decide), trivial, trivial, trivial⟩, by decide⟩

end AutoItDocs.SignatureTable
