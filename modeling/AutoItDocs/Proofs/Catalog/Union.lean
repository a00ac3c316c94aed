import AutoItDocs.Proofs.Catalog.Run
import AutoItDocs.Proofs.Signature.Union
/-!
Merging next to uniting. A merge compares names by their lowercase forms, a union as they are. Main
statement: where the last record wins, the merged table is the union of the tables exactly when no
two names among the records differ by case alone.
-/
namespace AutoItDocs

theorem SignatureTable.Coherent.entries_insert_of_present {t : SignatureTable} {s : Signature}
    (h : t.Coherent) (present : s.name ∈ t.names) :
    (t.insert s).2.entries = t.entries.map fun r => if r.name = s.name then s else r := by
  obtain ⟨slot, hslot⟩ := h.exists_slot present
  have hsame : (t.insert s).2.entries = (t.replace s.name s).2.entries := by
    simp only [SignatureTable.insert, SignatureTable.replace, hslot]
  rw [hsame, h.entries_replace present]

namespace Merged

/-- Records of one function spell its name in one way. -/
def SpelledAlike (records : List Signature) : Prop :=
  ∀ r ∈ records, ∀ s ∈ records, Text.foldCase r.name = Text.foldCase s.name → r.name = s.name

variable {kept records : List Sourced} {r : Sourced} {table : SignatureTable}

/-- A merge keeps a record as an insertion does when its function has no other spelling. -/
theorem map_record_keep (h : table.Coherent) (hentries : table.entries = kept.map (·.record))
    (alike : ∀ q ∈ kept, q.key = r.key → q.record.name = r.record.name) :
    (keep .lastWins kept r).map (·.record) = (table.insert r.record).2.entries := by
  -- Here names are compared as they are and by case folding to the same effect.
  have hkey : ∀ q ∈ kept, q.record.name = r.record.name ↔ q.key = r.key := by
    intro q hq
    refine ⟨fun hname => ?_, alike q hq⟩
    rw [Sourced.key, hname, Sourced.key]
  have hnames : table.names = kept.map (·.record.name) := by
    rw [SignatureTable.names, hentries, List.map_map]
    rfl
  by_cases present : r.key ∈ kept.map Sourced.key
  · have hpresent : r.record.name ∈ table.names := by
      obtain ⟨q, hq, hsame⟩ := List.mem_map.mp present
      rw [hnames, ← alike q hq hsame]
      exact List.mem_map_of_mem hq
    rw [keep_lastWins_of_present present, h.entries_insert_of_present hpresent, hentries,
      List.map_map, List.map_map]
    apply List.map_congr_left
    intro q hq
    change (if q.key = r.key then r else q).record =
      if q.record.name = r.record.name then r.record else q.record
    rw [apply_ite Sourced.record]
    simp only [hkey q hq]
  · have habsent : r.record.name ∉ table.names := by
      rw [hnames]
      intro hmem
      obtain ⟨q, hq, hname⟩ := List.mem_map.mp hmem
      exact present ((hkey q hq).mp hname ▸ List.mem_map_of_mem hq)
    rw [keep_of_absent present, h.entries_insert habsent, hentries, List.map_append,
      List.map_singleton]

theorem map_record_foldl_keep (alike : SpelledAlike (records.map (·.record))) :
    (records.foldl (keep .lastWins) []).map (·.record) =
      (SignatureTable.ofList (records.map (·.record))).entries := by
  induction records using List.reverseRecOn with
  | nil => rfl
  | append_singleton records r ih =>
    rw [List.map_append, List.map_singleton] at alike ⊢
    have hkept := ih fun q hq s hs =>
      alike q (List.mem_append_left _ hq) s (List.mem_append_left _ hs)
    rw [List.foldl_append, List.foldl_cons, List.foldl_nil, SignatureTable.ofList_concat]
    apply map_record_keep (SignatureTable.coherent_ofList _) hkept.symm
    intro q hq
    have hmem := (mem_of_mem_foldl_keep hq).resolve_left List.not_mem_nil
    exact alike q.record (List.mem_append_left _ (List.mem_map_of_mem hmem)) r.record
      (List.mem_append_right _ List.mem_cons_self)

theorem map_record_sourced (first : Nat) (tables : List (String × SignatureTable)) :
    (sourced first tables).map (·.record) = tables.flatMap (·.2.entries) := by
  induction tables generalizing first with
  | nil => rfl
  | cons call tables ih =>
    rw [sourced_cons, List.map_append, ih, List.map_map, List.flatMap_cons]
    congr 1
    exact List.map_id _

/-- A merged table knows a function under one name only, the union of the tables under each of its
spellings; when there is just one spelling of each function, the two are the same. -/
theorem addAll_same_union_iff (tables : List (String × SignatureTable)) :
    ∃ m, empty.addAll .lastWins tables = .ok m ∧
      (m.table.Same (SignatureTable.union (tables.map (·.2))) ↔
        SpelledAlike (tables.flatMap (·.2.entries))) := by
  obtain ⟨m, hok⟩ := exists_addAll (by decide : MergePolicy.lastWins ≠ .refuse) empty tables
  have h : m.Keeps ((sourced 0 tables).foldl (keep .lastWins) []) := Keeps.empty.addAll hok
  have hunion : SignatureTable.union (tables.map (·.2)) =
      .ofList (tables.flatMap (·.2.entries)) := by
    rw [SignatureTable.union, List.flatMap_map]
  refine ⟨m, hok, ?_⟩
  rw [hunion]
  constructor
  · intro hsame r hr s hs hfold
    have hlisted : ∀ q ∈ tables.flatMap (·.2.entries), q.name ∈ m.table.names := by
      intro q hq
      rw [SignatureTable.names, hsame.entries]
      change q.name ∈ (SignatureTable.ofList _).names
      rw [SignatureTable.names_ofList, List.mem_eraseDups]
      exact List.mem_map_of_mem hq
    have hdistinct : (m.table.names.map Text.foldCase).Nodup := h.map_foldCase_names ▸ h.distinct
    exact List.inj_on_of_nodup_map hdistinct (hlisted r hr) (hlisted s hs) hfold
  · intro alike
    apply h.indexed.same (SignatureTable.coherent_ofList _)
    rw [← map_record_sourced 0] at alike
    rw [h.entries, map_record_foldl_keep alike, map_record_sourced]

end Merged

end AutoItDocs
