import AutoItDocs.Proofs.Catalog.Invariant
import AutoItDocs.Proofs.Catalog.Refusal
import AutoItDocs.Proofs.Signature.Union
/-!
Merges where no function may come twice. A merge ends at the first record that repeats a function.
Main statement: what it leaves is what the records before that one lead to, it changes nothing that
was there, and its answer names the record and the source that the function comes from.
-/
namespace AutoItDocs

theorem SignatureTable.Coherent.entries_ofList_of_isPrefix {t : SignatureTable}
    {before : List Signature} (h : t.Coherent) (hfront : before <+: t.entries) :
    (SignatureTable.ofList before).entries = before := by
  apply coherent_empty.entries_insertAll
  exact List.Nodup.sublist (hfront.map Signature.name).sublist h.nodup

namespace Merged

/-- The record is of a function that the table or one of the records before it is of. -/
def Repeats (m : Merged) (before : List Signature) (s : Signature) : Prop :=
  Text.foldCase s.name ∈ (m.table.entries ++ before).map fun r => Text.foldCase r.name

/-- Of the records in order `s` is the first that repeats a function, and `before` come before it. -/
structure IsFirstRepeat (m : Merged) (records before : List Signature) (s : Signature) : Prop where
  isPrefix : before ++ [s] <+: records
  repeats : m.Repeats before s
  first : ∀ front r, front ++ [r] <+: before → ¬ m.Repeats front r

/-- Everything that the state knows is still so in the next one. -/
structure Extends (m next : Merged) : Prop where
  entries : m.table.entries <+: next.table.entries
  slots : ∀ name slot, m.table.slots.get? name = some slot →
    next.table.slots.get? name = some slot
  origins : ∀ key id, m.origins.get? key = some id → next.origins.get? key = some id
  spellings : ∀ key name, m.spellings.get? key = some name → next.spellings.get? key = some name
  sources : m.sources <+: next.sources

/-- The record has been in the table since the call with the source. -/
def BroughtBy (calls : List (String × SignatureTable)) (r : Signature) (source : String) : Prop :=
  ∃ before t after, calls = before ++ (source, t) :: after ∧
    r ∉ (empty.merges .refuse before).table.entries ∧
    r ∈ (empty.merges .refuse (before ++ [(source, t)])).table.entries

/-- A merge after `calls` has ended at the record `s` with a clash. The state is that of a merge of
the records before it alone, and the clash tells who brought the kept record `r` of its function. -/
structure EndsAt (calls : List (String × SignatureTable)) (source : String) (next : Merged)
    (clash : Clash) (before : List Signature) (s r : Signature) : Prop where
  state : (empty.merges .refuse calls).add .refuse source (.ofList before) = (next, none)
  entries : next.table.entries = (empty.merges .refuse calls).table.entries ++ before
  kept : r ∈ next.table.entries
  collides : Text.foldCase r.name = Text.foldCase s.name
  first : BroughtBy (calls ++ [(source, .ofList before)]) r clash.first
  name : clash.name = s.name
  second : clash.second = source

variable {m next stopped : Merged} {kept more : List Sourced} {policy : MergePolicy}
  {source : String} {id : Nat} {s r : Signature} {records before : List Signature}
  {calls : List (String × SignatureTable)} {clash : Clash}

theorem takeAll_append (policy : MergePolicy) (source : String) (id : Nat)
    (before rest : List Signature) (m : Merged) :
    takeAll policy source id (before ++ rest) m =
      match takeAll policy source id before m with
      | (next, none) => takeAll policy source id rest next
      | (stopped, some clash) => (stopped, some clash) := by
  induction before generalizing m with
  | nil => rfl
  | cons s before ih =>
    rw [List.cons_append]
    cases htake : m.take policy source id s with
    | error clash => rw [takeAll_cons_error htake, takeAll_cons_error htake]
    | ok next => rw [takeAll_cons_ok htake, takeAll_cons_ok htake, ih]

/-- A clash comes from one record, and the records before it have been taken. -/
theorem exists_take_of_clash
    (hclash : takeAll policy source id records m = (stopped, some clash)) :
    ∃ before s after, records = before ++ s :: after ∧
      takeAll policy source id before m = (stopped, none) ∧
      stopped.take policy source id s = .error clash := by
  induction records generalizing m with
  | nil => cases hclash
  | cons s records ih =>
    cases htake : m.take policy source id s with
    | error other =>
      rw [takeAll_cons_error htake] at hclash
      cases hclash
      exact ⟨[], s, records, rfl, rfl, htake⟩
    | ok next =>
      rw [takeAll_cons_ok htake] at hclash
      obtain ⟨before, last, after, rfl, hbefore, hlast⟩ := ih hclash
      exact ⟨s :: before, last, after, rfl, (takeAll_cons_ok htake).trans hbefore, hlast⟩

theorem merges_concat (policy : MergePolicy) (m : Merged)
    (calls : List (String × SignatureTable)) (call : String × SignatureTable) :
    m.merges policy (calls ++ [call]) = ((m.merges policy calls).add policy call.1 call.2).1 := by
  rw [merges, List.foldl_append]
  rfl

theorem merges_sources (policy : MergePolicy) (calls : List (String × SignatureTable)) :
    (empty.merges policy calls).sources = calls.map (·.1) := by
  induction calls using List.reverseRecOn with
  | nil => rfl
  | append_singleton calls call ih =>
    rw [merges_concat, add_sources, ih, List.map_append, List.map_singleton]

theorem BroughtBy.concat (h : BroughtBy calls r source) (call : String × SignatureTable) :
    BroughtBy (calls ++ [call]) r source := by
  obtain ⟨before, t, after, rfl, habsent, hpresent⟩ := h
  exact ⟨before, t, after ++ [call], by simp, habsent, hpresent⟩

namespace Keeps

theorem repeats_iff (h : m.Keeps kept) (id : Nat) :
    m.Repeats before s ↔
      Text.foldCase s.name ∈ (kept ++ before.map (Sourced.mk · id)).map Sourced.key := by
  rw [Repeats, h.entries, List.map_append, List.map_append, List.map_map, List.map_map]
  rfl

theorem take_refuse_of_present (h : m.Keeps kept) {q : Sourced} (hq : q ∈ kept)
    (hkey : q.key = Text.foldCase s.name) :
    m.take .refuse source id s = .error ⟨s.name, (m.sources[q.source]?).getD "", source⟩ :=
  take_refuse (hkey ▸ h.origin_of_mem hq)

theorem not_mem_of_take_refuse (h : m.Keeps kept)
    (hok : m.take .refuse source id s = .ok next) :
    Text.foldCase s.name ∉ kept.map Sourced.key := by
  intro hmem
  obtain ⟨q, hq, hkey⟩ := List.mem_map.mp hmem
  rw [h.take_refuse_of_present hq hkey] at hok
  cases hok

/-- Records that are taken where nothing may come twice are all added. -/
theorem takeAll_refuse (h : m.Keeps kept) (hid : id < m.sources.length)
    (hok : Merged.takeAll .refuse source id records m = (next, none)) :
    next.Keeps (kept ++ records.map (⟨·, id⟩)) := by
  induction records generalizing m kept with
  | nil =>
    cases hok
    simpa using h
  | cons s records ih =>
    cases htake : m.take .refuse source id s with
    | error clash =>
      rw [takeAll_cons_error htake] at hok
      cases hok
    | ok middle =>
      rw [takeAll_cons_ok htake] at hok
      have hmiddle := h.take hid htake
      have habsent : Sourced.key ⟨s, id⟩ ∉ kept.map Sourced.key := h.not_mem_of_take_refuse htake
      rw [keep_of_absent habsent] at hmiddle
      have hnext := ih hmiddle (by rwa [take_sources htake]) hok
      rwa [List.append_assoc] at hnext

theorem takeAll_refuse_eq_none_iff (h : m.Keeps kept) (hid : id < m.sources.length) :
    (Merged.takeAll .refuse source id records m).2 = none ↔
      ∀ before s, before ++ [s] <+: records → ¬ m.Repeats before s := by
  constructor
  -- A record that is taken behind `before` is of none of the functions kept until then.
  · rintro hnone before s ⟨after, rfl⟩
    rw [List.append_assoc, List.singleton_append, Merged.takeAll_append] at hnone
    cases hbefore : Merged.takeAll .refuse source id before m with
    | mk middle answer =>
      cases answer with
      | some clash => simp [hbefore] at hnone
      | none =>
        simp only [hbefore] at hnone
        rw [h.repeats_iff id]
        cases htake : middle.take .refuse source id s with
        | error clash => simp [takeAll_cons_error htake] at hnone
        | ok next => exact (h.takeAll_refuse hid hbefore).not_mem_of_take_refuse htake
  · intro hfresh
    cases hall : Merged.takeAll .refuse source id records m with
    | mk stopped answer =>
      cases answer with
      | none => rfl
      | some clash =>
        obtain ⟨before, s, after, rfl, hbefore, htake⟩ := exists_take_of_clash hall
        have hstopped := h.takeAll_refuse hid hbefore
        have hnot := hfresh before s ⟨after, by simp⟩
        rw [h.repeats_iff id, ← hstopped.origins_eq_none_iff] at hnot
        rw [take_of_fresh hnot] at htake
        cases htake

theorem extends_append (h : m.Keeps kept) (hnext : next.Keeps (kept ++ more))
    (hsources : m.sources <+: next.sources) : m.Extends next where
  entries := by
    rw [h.entries, hnext.entries, List.map_append]
    exact List.prefix_append _ _
  slots name slot hslot := by
    rw [h.indexed, h.names_eq] at hslot
    have hlt := (List.getElem?_eq_some_iff.mp hslot).1
    rw [hnext.indexed, hnext.names_eq, List.map_append, List.getElem?_append_left hlt, hslot]
  origins key id hid := by
    rw [h.origins, Option.map_eq_some_iff] at hid
    obtain ⟨q, hq, rfl⟩ := hid
    rw [hnext.origins, List.find?_append, hq]
    rfl
  spellings key name hname := by
    rw [h.spellings, Option.map_eq_some_iff] at hname
    obtain ⟨q, hq, rfl⟩ := hname
    rw [hnext.spellings, List.find?_append, hq]
    rfl
  sources := hsources

/-- A merge adds a first part of the records, all of the next source's. -/
theorem add_refuse (h : m.Keeps kept) (source : String) (t : SignatureTable) :
    ∃ accepted, accepted <+: t.entries ∧
      (m.add .refuse source t).1.Keeps (kept ++ accepted.map (⟨·, m.sources.length⟩)) ∧
      (m.add .refuse source t).1.collisions = m.collisions := by
  have hstart := h.addSource source
  rw [Merged.add]
  cases hall : Merged.takeAll .refuse source m.sources.length t.entries
      { m with sources := m.sources ++ [source] } with
  | mk stopped answer =>
    cases answer with
    | none =>
      exact ⟨t.entries, List.prefix_rfl, hstart.takeAll_refuse (by simp) hall,
        (takeAll_of_refuse hall .refuse).2⟩
    | some clash =>
      obtain ⟨before, s, after, hentries, hbefore, -⟩ := exists_take_of_clash hall
      exact ⟨before, ⟨s :: after, hentries.symm⟩, hstart.takeAll_refuse (by simp) hbefore,
        (takeAll_of_refuse hbefore .refuse).2⟩

/-- No record is of a function that others before it are of, so it was not in the table before. -/
theorem not_mem_of_append (h : m.Keeps kept) (hnext : next.Keeps (kept ++ more)) {q : Sourced}
    (hq : q ∈ more) : q.record ∉ m.table.entries := by
  intro hmem
  obtain ⟨p, hp, hrecord⟩ := h.exists_kept hmem
  have hdistinct := hnext.distinct
  rw [List.map_append, List.nodup_append] at hdistinct
  apply hdistinct.2.2 p.key (List.mem_map_of_mem hp) q.key (List.mem_map_of_mem hq)
  rw [Sourced.key, hrecord, Sourced.key]

end Keeps

/-- Where nothing may come twice, the index that a kept record carries leads to the source of the
call that brought it. -/
theorem exists_keeps_merges (calls : List (String × SignatureTable)) :
    ∃ kept, (empty.merges .refuse calls).Keeps kept ∧
      (empty.merges .refuse calls).collisions = [] ∧
      ∀ q ∈ kept, ∃ source, (calls.map (·.1))[q.source]? = some source ∧
        BroughtBy calls q.record source := by
  induction calls using List.reverseRecOn with
  | nil => exact ⟨[], Keeps.empty, rfl, fun q hq => absurd hq List.not_mem_nil⟩
  | append_singleton calls call ih =>
    obtain ⟨kept, hkeeps, hcollisions, hbrought⟩ := ih
    obtain ⟨accepted, -, hnext, hsame⟩ := hkeeps.add_refuse call.1 call.2
    rw [← merges_concat] at hnext hsame
    refine ⟨_, hnext, hsame.trans hcollisions, fun q hq => ?_⟩
    rw [List.map_append, List.map_singleton]
    rcases List.mem_append.mp hq with hold | hnew
    · obtain ⟨source, hsource, hcall⟩ := hbrought q hold
      have hlt := (List.getElem?_eq_some_iff.mp hsource).1
      exact ⟨source, by rw [List.getElem?_append_left hlt, hsource], hcall.concat call⟩
    · have habsent := hkeeps.not_mem_of_append hnext hnew
      have hpresent := hnext.record_mem hq
      obtain ⟨s, -, rfl⟩ := List.mem_map.mp hnew
      refine ⟨call.1, ?_, calls, call.2, [], rfl, habsent, hpresent⟩
      simp only [merges_sources, List.getElem?_concat_length]

/-- A record is refused because of a kept one, and the clash names the source of that one. -/
theorem exists_brought_of_take
    (hclash : (empty.merges .refuse calls).take .refuse source id s = .error clash) :
    ∃ r ∈ (empty.merges .refuse calls).table.entries,
      Text.foldCase r.name = Text.foldCase s.name ∧ BroughtBy calls r clash.first ∧
        clash.name = s.name ∧ clash.second = source := by
  obtain ⟨kept, hkeeps, -, hbrought⟩ := exists_keeps_merges calls
  have hpresent : Text.foldCase s.name ∈ kept.map Sourced.key := by
    by_contra habsent
    rw [take_of_fresh (hkeeps.origins_eq_none_iff.mpr habsent)] at hclash
    cases hclash
  obtain ⟨q, hq, hkey⟩ := List.mem_map.mp hpresent
  obtain ⟨first, hfirst, hcall⟩ := hbrought q hq
  rw [hkeeps.take_refuse_of_present hq hkey, merges_sources, hfirst, Option.getD_some] at hclash
  cases hclash
  exact ⟨q.record, hkeeps.record_mem hq, hkey, hcall, rfl, rfl⟩

/-- A clash comes at the first record that repeats a function. -/
theorem exists_endsAt (hclash : (empty.merges .refuse calls).add .refuse source (.ofList records) =
      (stopped, some clash)) :
    ∃ before s r,
      (empty.merges .refuse calls).IsFirstRepeat (SignatureTable.ofList records).entries before s ∧
        EndsAt calls source stopped clash before s r := by
  obtain ⟨kept, hkeeps, -⟩ := exists_keeps_merges calls
  have hstart := hkeeps.addSource source
  obtain ⟨before, s, after, hrecords, hbefore, htake⟩ := exists_take_of_clash hclash
  have hcollected : (SignatureTable.ofList before).entries = before :=
    (SignatureTable.coherent_ofList records).entries_ofList_of_isPrefix ⟨s :: after, hrecords.symm⟩
  have hstate : (empty.merges .refuse calls).add .refuse source (.ofList before) =
      (stopped, none) := by
    rw [add, hcollected, hbefore]
  have hentries : stopped.table.entries = (empty.merges .refuse calls).table.entries ++ before := by
    have hadded := hstart.takeAll_refuse (by simp) hbefore
    rw [hadded.entries, List.map_append, hkeeps.entries, List.map_map]
    congr 1
    exact List.map_id before
  -- The state is the one after a further call, so its records have their sources from the calls.
  have hcalls : empty.merges .refuse (calls ++ [(source, .ofList before)]) = stopped := by
    rw [merges_concat, hstate]
  rw [← hcalls] at htake
  obtain ⟨r, hr, hcollides, hfirst, hname, hsecond⟩ := exists_brought_of_take htake
  rw [hcalls] at hr
  refine ⟨before, s, r, ?_, ⟨hstate, hentries, hr, hcollides, hfirst, hname, hsecond⟩⟩
  exact {
    isPrefix := ⟨after, by simp [hrecords]⟩
    repeats := List.mem_map.mpr ⟨r, hentries ▸ hr, hcollides⟩
    first :=
      (hstart.takeAll_refuse_eq_none_iff (by simp)).mp (congrArg Prod.snd hbefore) }

/-- A merge goes through when no record of the table repeats a function. Otherwise it ends at the
first that does, and leaves just what the records before it add. Whatever it answers, it changes
nothing that was there before and records no collision. -/
theorem add_refuse_accepts (calls : List (String × SignatureTable)) (source : String)
    (records : List Signature) :
    let m := empty.merges .refuse calls
    let t := SignatureTable.ofList records
    let next := (m.add .refuse source t).1
    ((m.add .refuse source t).2 = none ↔
        ∀ before s, before ++ [s] <+: t.entries → ¬ m.Repeats before s) ∧
      (∀ clash, (m.add .refuse source t).2 = some clash → ∃ before s r,
        m.IsFirstRepeat t.entries before s ∧ EndsAt calls source next clash before s r) ∧
      m.Extends next ∧ next.collisions = [] := by
  obtain ⟨kept, hkeeps, hcollisions, -⟩ := exists_keeps_merges calls
  obtain ⟨accepted, -, hnext, hsame⟩ := hkeeps.add_refuse source (.ofList records)
  refine ⟨?_, ?_, ?_, hsame.trans hcollisions⟩
  · exact (hkeeps.addSource source).takeAll_refuse_eq_none_iff (by simp)
  · intro clash hclash
    exact exists_endsAt (Prod.ext rfl hclash)
  · apply hkeeps.extends_append hnext
    rw [add_sources]
    exact List.prefix_append _ _

/-- Two merges, of which the second one is refused at its second record. -/
def refused : List (String × SignatureTable) :=
  [("Generic", .ofList [{ name := "_X" }]), ("Again", .ofList [{ name := "_Y" }, { name := "_x" }])]

/-- A third merge is refused for a function that the refused one has brought. -/
theorem add_refuse_accepts_behindClash :
    let records : List Signature := [{ name := "_Z" }, { name := "_y" }, { name := "_W" }]
    let answer := (empty.merges .refuse refused).add .refuse "Specific" (.ofList records)
    answer.2 = some ⟨"_y", "Again", "Specific"⟩ ∧ answer.1.table.names = ["_X", "_Y", "_Z"] ∧
      ∃ before s r, (empty.merges .refuse refused).IsFirstRepeat
          (SignatureTable.ofList records).entries before s ∧
        EndsAt refused "Specific" answer.1 ⟨"_y", "Again", "Specific"⟩ before s r := by
  intro records answer
  have hclash : answer.2 = some ⟨"_y", "Again", "Specific"⟩ := by decide
  obtain ⟨-, hends, -⟩ := add_refuse_accepts refused "Specific" records
  exact ⟨hclash, by decide, hends _ hclash⟩

end Merged

end AutoItDocs
