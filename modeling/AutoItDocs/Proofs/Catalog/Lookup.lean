import AutoItDocs.Catalog
import AutoItDocs.Proofs.Catalog.Run
/-!
Look-ups in a catalog. They go through the table, the rendered markdown, the spellings and the
origins, and they agree on every name, since all of these describe the same kept records.
-/
namespace AutoItDocs

open Merged

/-- Every record of an exact table has its own markdown under its name. -/
theorem SignatureTable.Coherent.markdown_get? {t : SignatureTable} (h : t.Coherent) {s : Signature}
    (hs : s ∈ t.entries) : t.markdown.get? s.name = some s.markdown := by
  apply Dictionary.get?_ofList_eq_some
  · exact List.mem_map_of_mem hs
  · intro other hother
    obtain ⟨q, hq, he⟩ := List.mem_map.mp hother
    have hname : q.name = s.name := congrArg Prod.fst he
    have hmarkdown : q.markdown = other := congrArg Prod.snd he
    rw [← hmarkdown, List.inj_on_of_nodup_map h.nodup hq hs hname]

namespace Catalog

/-- Every look-up of the name answers, and what they answer is about the record `s`. -/
structure Answers (c : Catalog) (name : String) (s : Signature) : Prop where
  resolve : c.resolve? name = some s.name
  signature : c.signature? name = some s
  hover : c.hover? name = some s.markdown
  origin : ∃ source, c.originOf? name = some source

/-- No look-up of the name answers. -/
structure Silent (c : Catalog) (name : String) : Prop where
  resolve : c.resolve? name = none
  signature : c.signature? name = none
  hover : c.hover? name = none
  origin : c.originOf? name = none

/-- The look-ups agree on every name, and the case of the name does not matter to them. -/
structure Consistent (c : Catalog) : Prop where
  known : ∀ name, ∀ s ∈ c.merged.table.entries, Text.foldCase s.name = Text.foldCase name →
    c.Answers name s
  unknown : ∀ name, (∀ stored ∈ c.names, Text.foldCase stored ≠ Text.foldCase name) → c.Silent name
  /-- A name that is stored as it is leads to itself without regard to case, too. -/
  stored : ∀ name, c.merged.table.contains name = true → c.merged.storedName? name = some name
  folded : ∀ a b, Text.foldCase a = Text.foldCase b →
    c.resolve? a = c.resolve? b ∧ c.signature? a = c.signature? b ∧ c.hover? a = c.hover? b ∧
      c.originOf? a = c.originOf? b

variable {m : Merged} {kept : List Sourced} {policy : MergePolicy} {modules : List Library}
  {c : Catalog} {r : Sourced}

theorem exists_merged_of_build (hok : build policy modules = .ok c) :
    ∃ m, Merged.empty.addAll policy (modules.map fun l => (l.name, l.table)) = .ok m ∧
      c = ofMerged m modules := by
  rw [build] at hok
  cases hadd : Merged.empty.addAll policy (modules.map fun l => (l.name, l.table)) with
  | error clash =>
    rw [hadd] at hok
    cases hok
  | ok m =>
    rw [hadd] at hok
    cases hok
    exact ⟨m, rfl, rfl⟩

theorem storedName?_of_contains (h : m.Keeps kept) {name : String}
    (hname : m.table.contains name = true) : m.storedName? name = some name := by
  rw [h.indexed.contains_iff, h.names_eq] at hname
  obtain ⟨r, hr, rfl⟩ := List.mem_map.mp hname
  exact h.spelling_of_mem hr

/-- The look-up of the name as it is only saves the look-up by its lowercase form. -/
theorem resolve?_eq_storedName? (h : m.Keeps kept) (modules : List Library) (name : String) :
    (ofMerged m modules).resolve? name = m.storedName? name := by
  by_cases hname : m.table.contains name = true
  · rw [storedName?_of_contains h hname]
    exact if_pos hname
  · exact if_neg hname

theorem answers_of_find? (h : m.Keeps kept) (modules : List Library) {name : String}
    (hfind : kept.find? (·.key = Text.foldCase name) = some r) :
    (ofMerged m modules).Answers name r.record := by
  have hr : r ∈ kept := List.mem_of_find?_eq_some hfind
  have hrecord := h.record_mem hr
  have hresolve : (ofMerged m modules).resolve? name = some r.record.name := by
    rw [resolve?_eq_storedName? h, storedName?, h.spellings, hfind, Option.map_some]
  refine ⟨hresolve, ?_, ?_, ?_⟩
  · rw [signature?, hresolve, Option.bind_some]
    exact h.indexed.get?_eq_some_iff.mpr ⟨hrecord, rfl⟩
  · rw [hover?, hresolve, Option.bind_some]
    exact h.indexed.markdown_get? hrecord
  · have hvalid := h.valid r hr
    refine ⟨m.sources[r.source], ?_⟩
    change (m.origins.get? (Text.foldCase name)).bind (m.sources[·]?) = _
    rw [h.origins, hfind, Option.map_some, Option.bind_some]
    exact List.getElem?_eq_getElem hvalid

theorem silent_of_find? (h : m.Keeps kept) (modules : List Library) {name : String}
    (hfind : kept.find? (·.key = Text.foldCase name) = none) :
    (ofMerged m modules).Silent name := by
  have hresolve : (ofMerged m modules).resolve? name = none := by
    rw [resolve?_eq_storedName? h, storedName?, h.spellings, hfind, Option.map_none]
  refine ⟨hresolve, ?_, ?_, ?_⟩
  · rw [signature?, hresolve, Option.bind_none]
  · rw [hover?, hresolve, Option.bind_none]
  · change (m.origins.get? (Text.foldCase name)).bind (m.sources[·]?) = none
    rw [h.origins, hfind, Option.map_none, Option.bind_none]

theorem consistent_of_keeps (h : m.Keeps kept) (modules : List Library) :
    (ofMerged m modules).Consistent where
  known name s hs hname := by
    obtain ⟨r, hr, rfl⟩ := h.exists_kept hs
    exact answers_of_find? h modules ((find?_key_eq_some_iff h.distinct).mpr ⟨hr, hname⟩)
  unknown name hname := by
    apply silent_of_find? h modules
    rw [find?_key_eq_none_iff, ← h.map_foldCase_names]
    intro hmem
    obtain ⟨stored, hstored, he⟩ := List.mem_map.mp hmem
    exact hname stored hstored he
  stored _ hname := storedName?_of_contains h hname
  folded a b hab := by
    have hresolve : (ofMerged m modules).resolve? a = (ofMerged m modules).resolve? b := by
      rw [resolve?_eq_storedName? h, resolve?_eq_storedName? h, storedName?, storedName?, hab]
    refine ⟨hresolve, ?_, ?_, ?_⟩
    · rw [signature?, signature?, hresolve]
    · rw [hover?, hover?, hresolve]
    · rw [originOf?, originOf?, Merged.originOf?, Merged.originOf?, hab]

/-- What a look-up finds is a record of the catalog, about which all the others answer, too. -/
theorem Consistent.answers_of_signature? (h : c.Consistent) {name : String} {s : Signature}
    (hname : c.signature? name = some s) :
    s ∈ c.merged.table.entries ∧ c.Answers name s := by
  by_cases hstored : ∃ stored ∈ c.names, Text.foldCase stored = Text.foldCase name
  · obtain ⟨stored, hmem, hfold⟩ := hstored
    obtain ⟨s', hs', rfl⟩ := List.mem_map.mp hmem
    have hanswers := h.known name s' hs' hfold
    obtain rfl : s' = s := Option.some.inj (hanswers.signature.symm.trans hname)
    exact ⟨hs', hanswers⟩
  · have hsilent := h.unknown name fun stored hmem hfold => hstored ⟨stored, hmem, hfold⟩
    rw [hsilent.signature] at hname
    cases hname

/-- The look-ups of a catalog agree, whichever modules it is built from. -/
theorem consistent_of_build (hok : build policy modules = .ok c) : c.Consistent := by
  obtain ⟨m, hadd, rfl⟩ := exists_merged_of_build hok
  exact consistent_of_keeps (Keeps.empty.addAll hadd) modules

/-- Two modules, where the second spells a function of the first in two further ways. -/
def respelled : List Library :=
  [.ofSignatures "Math" (some "Math.au3") [{ name := "_Max", label := "_Max ( $a, $b )" },
      { name := "_Min", label := "_Min ( $a, $b )" }],
    .ofSignatures "Mine" none [{ name := "_max", label := "_max ( $a )" },
      { name := "_MAX", label := "_MAX ( $a, $b, $c )" }]]

theorem consistent_respelled :
    build .lastWins respelled = .ok (buildOrEmpty .lastWins respelled) ∧
      (buildOrEmpty .lastWins respelled).Consistent := by
  have hok : build .lastWins respelled = .ok (buildOrEmpty .lastWins respelled) := rfl
  exact ⟨hok, consistent_of_build hok⟩

end Catalog

end AutoItDocs
