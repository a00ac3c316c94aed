import AutoItDocs.Proofs.Signature.OrderedMap
import Mathlib.Data.List.Induction
/-!
The union of tables. It lists each name where the name first appears and with the record that comes
last, and both are read off the records of all tables. Main statement: tables can be united in
groups, since a group shows the same first appearances and the same last records as its tables.
-/
namespace AutoItDocs

theorem eraseDups_concat {α : Type} [DecidableEq α] (keys : List α) (key : α) :
    (keys ++ [key]).eraseDups = if key ∈ keys then keys.eraseDups else keys.eraseDups ++ [key] := by
  rw [List.eraseDups_append]
  by_cases hmem : key ∈ keys
  · simp [List.removeAll, hmem]
  · simp [List.removeAll, hmem, List.eraseDups_cons]

theorem eraseDups_eraseDups {α : Type} [DecidableEq α] (keys : List α) :
    keys.eraseDups.eraseDups = keys.eraseDups := by
  induction keys using List.reverseRecOn with
  | nil => rfl
  | append_singleton keys key ih =>
    rw [eraseDups_concat]
    by_cases hmem : key ∈ keys
    · rw [if_pos hmem, ih]
    · rw [if_neg hmem, eraseDups_concat, if_neg (mt List.mem_eraseDups.mp hmem), ih]

/-- First appearances in a whole are those in the first appearances of its parts. -/
theorem eraseDups_append_eraseDups {α : Type} [DecidableEq α] (left right : List α) :
    (left.eraseDups ++ right.eraseDups).eraseDups = (left ++ right).eraseDups := by
  induction right using List.reverseRecOn with
  | nil =>
    rw [List.eraseDups_nil, List.append_nil, List.append_nil, eraseDups_eraseDups]
  | append_singleton right key ih =>
    rw [← List.append_assoc, eraseDups_concat, eraseDups_concat, ← ih]
    by_cases hright : key ∈ right
    · rw [if_pos hright, if_pos (List.mem_append_right left hright)]
    · rw [if_neg hright, ← List.append_assoc, eraseDups_concat]
      simp only [List.mem_append, List.mem_eraseDups]

theorem eraseDups_append_self {α : Type} [DecidableEq α] (keys : List α) :
    (keys ++ keys).eraseDups = keys.eraseDups := by
  have hnone : keys.removeAll keys = [] := by simp [List.removeAll]
  rw [List.eraseDups_append, hnone, List.eraseDups_nil, List.append_nil]

theorem findRev?_append {α : Type} (p : α → Bool) (left right : List α) :
    (left ++ right).findRev? p = (right.findRev? p).or (left.findRev? p) := by
  simp only [List.findRev?_eq_find?_reverse, List.reverse_append, List.find?_append]

namespace SignatureTable

/-- The table lists each name of the records once, in the order in which the names first appear and
with the last record of the name; the names and no others can be looked up. -/
structure Lists (t : SignatureTable) (records : List Signature) : Prop where
  names : t.names = (records.map (·.name)).eraseDups
  nodup : t.names.Nodup
  entries : t.entries = t.names.filterMap fun name => records.findRev? (·.name = name)
  get? : ∀ name, t.get? name = records.findRev? (·.name = name)
  indexed : t.Coherent

variable {t other : SignatureTable} {s : Signature} {name : String} {records : List Signature}

namespace Coherent

theorem names_insert (h : t.Coherent) (s : Signature) :
    (t.insert s).2.names = if s.name ∈ t.names then t.names else t.names ++ [s.name] := by
  by_cases hpresent : s.name ∈ t.names
  · obtain ⟨slot, hslot⟩ := h.exists_slot hpresent
    obtain ⟨hlt, hname⟩ := List.getElem?_eq_some_iff.mp ((h s.name slot).mp hslot)
    rw [if_pos hpresent]
    simp only [SignatureTable.insert, hslot, names, List.map_set]
    rw [← hname]
    exact List.set_getElem_self hlt
  · rw [if_neg hpresent, names, h.entries_insert hpresent, List.map_append, List.map_singleton]
    rfl

theorem get?_insert (h : t.Coherent) (s : Signature) (name : String) :
    (t.insert s).2.get? name = if name = s.name then some s else t.get? name := by
  by_cases hpresent : s.name ∈ t.names
  · obtain ⟨slot, hslot⟩ := h.exists_slot hpresent
    obtain ⟨old, -, hfills⟩ := h.sound.insert_of_slot hslot
    rw [hfills.get?]
    by_cases hname : name = s.name
    · rw [if_pos hname, if_pos hname]
    · rw [if_neg hname, if_neg hname, if_neg hname]
  · exact (h.sound.insert_of_none (h.slots_eq_none_iff.mpr hpresent)).2.get? name

/-- A table lists what is found under its names. -/
theorem filterMap_get?_names (h : t.Coherent) : t.names.filterMap t.get? = t.entries := by
  have hfound : ∀ s ∈ t.entries, t.get? s.name = some s := fun s hs =>
    h.get?_eq_some_iff.mpr ⟨hs, rfl⟩
  calc
    t.names.filterMap t.get? = t.entries.filterMap fun s => t.get? s.name := by
      rw [names, List.filterMap_map]
      rfl
    _ = t.entries.filterMap some := List.filterMap_congr hfound
    _ = t.entries := List.filterMap_some

theorem findRev?_entries (h : t.Coherent) (name : String) :
    t.entries.findRev? (·.name = name) = t.get? name := by
  rw [List.findRev?_eq_find?_reverse]
  cases hfind : t.entries.reverse.find? (·.name = name) with
  | none =>
    rw [eq_comm, Option.eq_none_iff_forall_ne_some]
    intro s hs
    obtain ⟨hmem, hname⟩ := h.get?_eq_some_iff.mp hs
    have hnot := List.find?_eq_none.mp hfind s (List.mem_reverse.mpr hmem)
    simp [hname] at hnot
  | some s =>
    have hmem : s ∈ t.entries := List.mem_reverse.mp (List.mem_of_find?_eq_some hfind)
    have hname : s.name = name := by simpa using List.find?_some hfind
    exact (h.get?_eq_some_iff.mpr ⟨hmem, hname⟩).symm

end Coherent

theorem ofList_concat (records : List Signature) (s : Signature) :
    ofList (records ++ [s]) = ((ofList records).insert s).2 :=
  insertAll_append empty records [s]

/-- Names are listed in the order in which they first appear. -/
theorem names_ofList (records : List Signature) :
    (ofList records).names = (records.map (·.name)).eraseDups := by
  induction records using List.reverseRecOn with
  | nil => rfl
  | append_singleton records s ih =>
    rw [ofList_concat, (coherent_ofList records).names_insert, ih, List.map_append,
      List.map_singleton, eraseDups_concat]
    simp only [List.mem_eraseDups]

/-- Under a name the last of its records is found. -/
theorem get?_ofList (records : List Signature) (name : String) :
    (ofList records).get? name = records.findRev? (·.name = name) := by
  induction records using List.reverseRecOn with
  | nil => rfl
  | append_singleton records s ih =>
    rw [ofList_concat, (coherent_ofList records).get?_insert, ih]
    simp only [List.findRev?_eq_find?_reverse, List.reverse_append, List.reverse_singleton,
      List.singleton_append]
    by_cases hname : name = s.name
    · simp [hname]
    · simp [hname, Ne.symm hname]

/-- The index has the names in the order of their slots. -/
theorem slots_ofList (records : List Signature) :
    (ofList records).slots = ⟨(ofList records).names.zipIdx⟩ := by
  induction records using List.reverseRecOn with
  | nil => rfl
  | append_singleton records s ih =>
    have h := coherent_ofList records
    rw [ofList_concat, h.names_insert]
    by_cases hpresent : s.name ∈ (ofList records).names
    · obtain ⟨slot, hslot⟩ := h.exists_slot hpresent
      rw [if_pos hpresent, ← ih]
      simp only [insert, hslot]
    · have hslot := h.slots_eq_none_iff.mpr hpresent
      rw [if_neg hpresent, List.zipIdx_append]
      simp only [insert, hslot]
      rw [Dictionary.put_of_get?_eq_none hslot, ih]
      simp [names]

theorem eq_of_parts (hentries : t.entries = other.entries) (hslots : t.slots = other.slots) :
    t = other := by
  cases t
  cases other
  rw [mk.injEq]
  exact ⟨hentries, hslots⟩

/-- A table of insertions is determined by where names first appear and which records come last. -/
theorem ofList_eq_ofList {a b : List Signature}
    (hfirst : (a.map (·.name)).eraseDups = (b.map (·.name)).eraseDups)
    (hlast : ∀ name, a.findRev? (·.name = name) = b.findRev? (·.name = name)) :
    ofList a = ofList b := by
  have hnames : (ofList a).names = (ofList b).names := by
    rw [names_ofList, names_ofList, hfirst]
  apply eq_of_parts
  · rw [← (coherent_ofList a).filterMap_get?_names, ← (coherent_ofList b).filterMap_get?_names,
      hnames]
    apply List.filterMap_congr
    intro name _
    rw [get?_ofList, get?_ofList, hlast]
  · rw [slots_ofList, slots_ofList, hnames]

/-- Nothing is lost when the records of either part are put into a table first. -/
theorem ofList_entries_append (a b : List Signature) :
    ofList ((ofList a).entries ++ (ofList b).entries) = ofList (a ++ b) := by
  apply ofList_eq_ofList
  · rw [List.map_append, List.map_append]
    change ((ofList a).names ++ (ofList b).names).eraseDups = _
    rw [names_ofList, names_ofList, eraseDups_append_eraseDups]
  · intro name
    rw [findRev?_append, findRev?_append, (coherent_ofList a).findRev?_entries,
      (coherent_ofList b).findRev?_entries, get?_ofList, get?_ofList]

theorem ofList_entries (records : List Signature) :
    ofList (ofList records).entries = ofList records := by
  have hnil : (ofList []).entries = [] := rfl
  have h := ofList_entries_append records []
  rwa [hnil, List.append_nil, List.append_nil] at h

theorem ofList_append_self (records : List Signature) :
    ofList (records ++ records) = ofList records := by
  apply ofList_eq_ofList
  · rw [List.map_append, eraseDups_append_self]
  · intro name
    rw [findRev?_append, Option.or_self]

theorem lists_ofList (records : List Signature) : (ofList records).Lists records where
  names := names_ofList records
  nodup := (coherent_ofList records).nodup
  entries := by
    rw [← (coherent_ofList records).filterMap_get?_names]
    simp only [get?_ofList]
  get? := get?_ofList records
  indexed := coherent_ofList records

theorem flatMap_entries_filter (tables : List SignatureTable) :
    (tables.filter (!·.isEmpty)).flatMap (·.entries) = tables.flatMap (·.entries) := by
  induction tables with
  | nil => rfl
  | cons t tables ih =>
    rw [List.flatMap_cons, ← ih]
    by_cases hempty : t.entries = []
    · simp [isEmpty, hempty]
    · simp [isEmpty, hempty]

/-- Tables can be united in groups, empty ones can be left out, and a table of insertions united
with itself stays as it is. A union lists the records of its tables. -/
theorem union_regroup (xs ys : List SignatureTable) (records : List Signature) :
    union (xs ++ ys) = union [union xs, union ys] ∧
      union (xs.filter (!·.isEmpty)) = union xs ∧
      union [ofList records] = ofList records ∧
      union [ofList records, ofList records] = ofList records ∧
      (union xs).Lists (xs.flatMap (·.entries)) := by
  refine ⟨?_, ?_, ?_, ?_, lists_ofList _⟩
  · simp only [union, List.flatMap_append, List.flatMap_cons, List.flatMap_nil, List.append_nil]
    exact (ofList_entries_append _ _).symm
  · rw [union, flatMap_entries_filter, union]
  · simp only [union, List.flatMap_cons, List.flatMap_nil, List.append_nil]
    exact ofList_entries records
  · simp only [union, List.flatMap_cons, List.flatMap_nil, List.append_nil]
    rw [ofList_append_self, ofList_entries]

/-- A name stays where the first table has it and takes the record of the second one. -/
example :
    (union [ofList [{ name := "_A" }, { name := "_Shared", label := "a" }],
      ofList [{ name := "_Shared", label := "b" }, { name := "_B" }]]).entries =
        [{ name := "_A" }, { name := "_Shared", label := "b" }, { name := "_B" }] := by
  decide

end SignatureTable

end AutoItDocs
