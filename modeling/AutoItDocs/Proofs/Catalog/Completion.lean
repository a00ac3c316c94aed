import AutoItDocs.Proofs.Catalog.Lookup
import Mathlib.Data.List.Forall2
/-!
The completion entries of a catalog. They are rendered module by module and then picked by origin
and spelling; what comes out is one entry for each record of the merged table, in table order.
-/
namespace AutoItDocs

open Merged

/-- Taking out is looking up where no key comes twice. -/
theorem Dictionary.takeOut_eq_filterMap {α β : Type} [DecidableEq α] {keys : List α}
    (h : keys.Nodup) (d : Dictionary α β) :
    d.takeOut keys = keys.filterMap d.get? := by
  induction keys generalizing d with
  | nil => rfl
  | cons key keys ih =>
    obtain ⟨hkey, hkeys⟩ := List.nodup_cons.mp h
    cases hvalue : d.get? key with
    | none => simp only [takeOut, hvalue, List.filterMap_cons, ih hkeys]
    | some value =>
      have hrest : keys.filterMap (d.erase key).get? = keys.filterMap d.get? := by
        apply List.filterMap_congr
        intro other hother
        have hne : other ≠ key := by
          rintro rfl
          exact hkey hother
        rw [get?_erase, if_neg hne]
      simp only [takeOut, hvalue, List.filterMap_cons, ih hkeys, hrest]

namespace Catalog

/-- The entry is the one for the record `s`, with the hover text of the catalog and the detail of
the module that the record comes from. -/
structure Shows (c : Catalog) (modules : List Library) (s : Signature) (e : CompletionEntry) :
    Prop where
  name : e.name = s.name
  insertText : e.insertText = s.name
  kind : e.kind = CompletionEntry.functionKind
  documentation : c.hover? s.name = some e.documentation
  detail : ∃ id l, c.merged.origins.get? (Text.foldCase s.name) = some id ∧
    modules[id]? = some l ∧ l.table.get? s.name = some s ∧ e.detail = l.detail

variable {m : Merged} {kept : List Sourced} {policy : MergePolicy} {modules : List Library}
  {c : Catalog} {r : Sourced} {l : Library}

theorem forall₂_filterMap {α β : Type} {R : α → β → Prop} {f : α → Option β} {xs : List α}
    (h : ∀ x ∈ xs, ∃ y, f x = some y ∧ R x y) : List.Forall₂ R xs (xs.filterMap f) := by
  induction xs with
  | nil => exact .nil
  | cons x xs ih =>
    obtain ⟨y, hy, hxy⟩ := h x List.mem_cons_self
    rw [List.filterMap_cons, hy]
    exact .cons hxy (ih fun z hz => h z (List.mem_cons_of_mem x hz))

/-- A record carries the index of a module that has it. -/
theorem exists_module_of_mem_sourced
    (hr : r ∈ sourced 0 (modules.map fun l => (l.name, l.table))) :
    ∃ l, modules[r.source]? = some l ∧ r.record ∈ l.table.entries := by
  obtain ⟨⟨call, id⟩, hcall, hrecord⟩ := List.mem_flatMap.mp hr
  obtain ⟨s, hs, rfl⟩ := List.mem_map.mp hrecord
  rw [List.mem_zipIdx_iff_getElem?, List.getElem?_map] at hcall
  obtain ⟨l, hl, rfl⟩ := Option.map_eq_some_iff.mp hcall
  exact ⟨l, hl, hs⟩

theorem provides_iff {id : Nat} {e : CompletionEntry} :
    provides m id e = true ↔
      m.origins.get? (Text.foldCase e.name) = some id ∧ m.table.contains e.name = true := by
  rw [provides, Bool.and_eq_true, beq_iff_eq]

/-- The rendered entries that are picked, with their origins. -/
theorem mem_winners_entries {name : String} {e : CompletionEntry} :
    (name, e) ∈ (modules.zipIdx.flatMap fun (l, id) =>
        ((l.table.completions CompletionEntry.functionKind l.detail).filter (provides m id)).map
          fun e => (e.name, e)) ↔
      ∃ l id s, modules[id]? = some l ∧ s ∈ l.table.entries ∧
        e = .ofSignature CompletionEntry.functionKind l.detail s ∧ name = s.name ∧
        m.origins.get? (Text.foldCase s.name) = some id ∧ m.table.contains s.name = true := by
  constructor
  · intro hmem
    obtain ⟨⟨l, id⟩, hl, hentry⟩ := List.mem_flatMap.mp hmem
    obtain ⟨e, he, hpair⟩ := List.mem_map.mp hentry
    cases hpair
    obtain ⟨hrendered, hprovides⟩ := List.mem_filter.mp he
    obtain ⟨s, hs, rfl⟩ := List.mem_map.mp hrendered
    obtain ⟨horigin, hcontains⟩ := provides_iff.mp hprovides
    exact ⟨l, id, s, List.mem_zipIdx_iff_getElem?.mp hl, hs, rfl, rfl, horigin, hcontains⟩
  · rintro ⟨l, id, s, hl, hs, rfl, rfl, horigin, hcontains⟩
    refine List.mem_flatMap.mpr ⟨(l, id), List.mem_zipIdx_iff_getElem?.mpr hl, ?_⟩
    refine List.mem_map.mpr ⟨_, List.mem_filter.mpr ⟨List.mem_map_of_mem hs, ?_⟩, rfl⟩
    exact provides_iff.mpr ⟨horigin, hcontains⟩

/-- Of all entries for a kept name, just the one of the kept record itself is picked: its origin
fixes the module, and in one module a name is spelled in one way only once. -/
theorem winners_get? (h : m.Keeps kept) (hr : r ∈ kept) (hl : modules[r.source]? = some l)
    (hexact : l.table.Coherent) (hmem : r.record ∈ l.table.entries) :
    (winners m modules).get? r.record.name =
      some (.ofSignature CompletionEntry.functionKind l.detail r.record) := by
  have horigin : m.origins.get? (Text.foldCase r.record.name) = some r.source := h.origin_of_mem hr
  have hcontains : m.table.contains r.record.name = true :=
    h.indexed.contains_iff.mpr (h.name_mem hr)
  apply Dictionary.get?_ofList_eq_some
  · exact mem_winners_entries.mpr
      ⟨l, r.source, r.record, hl, hmem, rfl, rfl, horigin, hcontains⟩
  · intro other hother
    obtain ⟨l', id, s, hl', hs, rfl, hname, horigin', -⟩ := mem_winners_entries.mp hother
    rw [← hname, horigin] at horigin'
    cases horigin'
    rw [hl] at hl'
    cases hl'
    rw [List.inj_on_of_nodup_map hexact.nodup hs hmem hname.symm]

/-- No stored name comes twice, so that each finds its entry still there. -/
theorem completions_of_keeps (h : m.Keeps kept) (modules : List Library) :
    (ofMerged m modules).completions = m.table.names.filterMap (winners m modules).get? :=
  Dictionary.takeOut_eq_filterMap h.nodup_names _

/-- The completions of a catalog are its records in table order, one entry each, with the texts of
the module that provides the record. -/
theorem completions_of_build (built : ∀ l ∈ modules, l.table.Built)
    (hok : build policy modules = .ok c) :
    List.Forall₂ (c.Shows modules) c.merged.table.entries c.completions := by
  obtain ⟨m, hadd, rfl⟩ := exists_merged_of_build hok
  have h := Keeps.empty.addAll hadd
  have hconsistent := consistent_of_keeps h modules
  rw [completions_of_keeps h, SignatureTable.names, List.filterMap_map]
  apply forall₂_filterMap
  intro s hs
  obtain ⟨r, hr, rfl⟩ := h.exists_kept hs
  have hsourced := (mem_of_mem_foldl_keep hr).resolve_left List.not_mem_nil
  obtain ⟨l, hl, hmem⟩ := exists_module_of_mem_sourced hsourced
  have hexact := (built l (List.mem_of_getElem? hl)).coherent
  have hhover := (hconsistent.known r.record.name r.record hs rfl).hover
  have hfound : l.table.get? r.record.name = some r.record :=
    hexact.get?_eq_some_iff.mpr ⟨hmem, rfl⟩
  exact ⟨_, winners_get? h hr hl hexact hmem, rfl, rfl, rfl, hhover, r.source, l,
    h.origin_of_mem hr, hl, hfound, rfl⟩

theorem completions_respelled :
    (∀ l ∈ respelled, l.table.Built) ∧
      build .lastWins respelled = .ok (buildOrEmpty .lastWins respelled) ∧
      List.Forall₂ ((buildOrEmpty .lastWins respelled).Shows respelled)
        (buildOrEmpty .lastWins respelled).merged.table.entries
        (buildOrEmpty .lastWins respelled).completions := by
  have built : ∀ l ∈ respelled, l.table.Built := by
    intro l hl
    rcases List.mem_pair.mp hl with rfl | rfl
    · exact ⟨_, rfl⟩
    · exact ⟨_, rfl⟩
  have hok : build .lastWins respelled = .ok (buildOrEmpty .lastWins respelled) := rfl
  exact ⟨built, hok, completions_of_build built hok⟩

end Catalog

end AutoItDocs
