import AutoItDocs.Proofs.Catalog.Precedence
import AutoItDocs.Proofs.Catalog.Refusal
/-!
The collisions that a merge records, said without the merge: one for each record whose function came
before, with the sources of that record and of the one that it collides with. Main statements: what
the log holds, and which of its entries name the source that provides the function in the end.
-/
namespace AutoItDocs

namespace Merged

def sourceName (sources : List String) (r : Sourced) : String := (sources[r.source]?).getD ""

/-- The collision of a record with an earlier one of its function. -/
def collisionOf (policy : MergePolicy) (sources : List String) (r earlier : Sourced) : Collision :=
  (⟨r.record.name, sourceName sources earlier, sourceName sources r⟩ : Clash).recorded policy

/-- The collisions of some records in order. A record collides with the one of its function that
counts among those before it. -/
def collisionsOf (policy : MergePolicy) (sources : List String) (records : List Sourced) :
    List Collision :=
  records.zipIdx.filterMap fun (r, i) =>
    (winner policy (records.take i) r.key).map (collisionOf policy sources r)

/-- The state is one that the records lead to, taken in order without a clash. -/
structure Logs (policy : MergePolicy) (m : Merged) (records : List Sourced) : Prop where
  keeps : m.Keeps (records.foldl (keep policy) [])
  listed : ∀ r ∈ records, r.source < m.sources.length
  collisions : m.collisions = collisionsOf policy m.sources records

/-- Whoever an entry names as the winner is the provider of its function, unless a later entry is of
the function: the first of these says that it is shadowed. -/
def HandsOn (log : List Collision) (provider : String → Option String) : Prop :=
  ∀ before c after, log = before ++ c :: after →
    match after.find? fun d => Text.foldCase d.name = Text.foldCase c.name with
    | none => provider c.name = some c.winner
    | some d => d.shadowed = c.winner

variable {m next : Merged} {policy : MergePolicy} {source : String} {sources : List String}
  {id : Nat} {s : Signature} {r : Sourced} {records : List Sourced} {key : String}
  {tables : List (String × SignatureTable)} {c : Collision}
  {provider provider' : String → Option String} {log : List Collision}

theorem winner_eq_none_iff : winner policy records key = none ↔ key ∉ records.map Sourced.key := by
  rw [← find?_foldl_keep, find?_key_eq_none_iff, map_key_foldl_keep, List.mem_eraseDups]

theorem mem_of_winner_eq_some (h : winner policy records key = some r) :
    r ∈ records ∧ r.key = key := by
  rw [← find?_foldl_keep] at h
  have hmem := mem_of_mem_foldl_keep (List.mem_of_find?_eq_some h)
  exact ⟨hmem.resolve_left List.not_mem_nil, by simpa using List.find?_some h⟩

theorem sourceName_append (hlisted : r.source < sources.length) (more : List String) :
    sourceName (sources ++ more) r = sourceName sources r := by
  rw [sourceName, List.getElem?_append_left hlisted, sourceName]

theorem collisionsOf_append_sources (hlisted : ∀ r ∈ records, r.source < sources.length)
    (policy : MergePolicy) (more : List String) :
    collisionsOf policy (sources ++ more) records = collisionsOf policy sources records := by
  apply List.filterMap_congr
  rintro ⟨r, i⟩ hr
  apply Option.map_congr
  intro earlier hearlier
  have hmem := List.mem_of_mem_take (mem_of_winner_eq_some hearlier).1
  rw [collisionOf, sourceName_append (hlisted earlier hmem),
    sourceName_append (hlisted r (List.fst_mem_of_mem_zipIdx hr)), collisionOf]

theorem collisionsOf_concat (policy : MergePolicy) (sources : List String) (records : List Sourced)
    (r : Sourced) :
    collisionsOf policy sources (records ++ [r]) = collisionsOf policy sources records ++
      ((winner policy records r.key).map (collisionOf policy sources r)).toList := by
  rw [collisionsOf, List.zipIdx_append, List.filterMap_append, collisionsOf]
  congr 1
  · -- No record before the last one sees it.
    apply List.filterMap_congr
    rintro ⟨q, i⟩ hq
    have hle : i ≤ records.length := Nat.le_of_lt (List.snd_lt_of_mem_zipIdx hq)
    simp only [List.take_append_of_le_length hle]
  · cases hwinner : winner policy records r.key <;> simp [hwinner]

theorem length_collisionsOf (policy : MergePolicy) (sources : List String)
    (records : List Sourced) :
    records.length =
      (records.map Sourced.key).eraseDups.length + (collisionsOf policy sources records).length := by
  induction records using List.reverseRecOn with
  | nil => rfl
  | append_singleton records r ih =>
    rw [collisionsOf_concat, List.map_append, List.map_singleton, eraseDups_concat,
      List.length_append, List.length_singleton, List.length_append]
    cases hwinner : winner policy records r.key with
    | none =>
      rw [if_neg (winner_eq_none_iff.mp hwinner), List.length_append, List.length_singleton]
      simp only [Option.map_none, Option.toList_none, List.length_nil]
      omega
    | some earlier =>
      have hmem : r.key ∈ records.map Sourced.key := by
        obtain ⟨hearlier, hkey⟩ := mem_of_winner_eq_some hwinner
        exact hkey ▸ List.mem_map_of_mem hearlier
      rw [if_pos hmem]
      simp only [Option.map_some, Option.toList_some, List.length_singleton]
      omega

/-- The index of each record leads to the name of its own source. -/
theorem map_sourced (sources : List String) (tables : List (String × SignatureTable)) :
    (sourced sources.length tables).map
        (fun r => (sourceName (sources ++ tables.map (·.1)) r, r.record)) =
      tables.flatMap fun call => call.2.entries.map (call.1, ·) := by
  induction tables generalizing sources with
  | nil => rfl
  | cons call tables ih =>
    have hrest := ih (sources ++ [call.1])
    rw [List.length_append, List.length_singleton, List.append_assoc, List.singleton_append] at hrest
    rw [sourced_cons, List.map_append, List.map_cons, hrest, List.flatMap_cons, List.map_map]
    congr 1
    apply List.map_congr_left
    intro s _
    simp [sourceName]

theorem HandsOn.congr (h : HandsOn log provider)
    (hsame : ∀ c ∈ log, provider' c.name = provider c.name) : HandsOn log provider' := by
  intro before c after hlog
  rw [hsame c (hlog ▸ List.mem_append_right before List.mem_cons_self)]
  exact h before c after hlog

/-- A further entry takes its function over from the provider so far. -/
theorem HandsOn.concat {d : Collision} (h : HandsOn log provider)
    (htaken : ∀ name, Text.foldCase name = Text.foldCase d.name →
      provider name = some d.shadowed ∧ provider' name = some d.winner)
    (hother : ∀ name, Text.foldCase name ≠ Text.foldCase d.name →
      provider' name = provider name) :
    HandsOn (log ++ [d]) provider' := by
  intro before c after hlog
  rcases List.eq_nil_or_concat' after with rfl | ⟨after, last, rfl⟩
  · obtain ⟨-, hc⟩ := List.append_inj' hlog rfl
    cases hc
    exact (htaken _ rfl).2
  · rw [← List.cons_append, ← List.append_assoc] at hlog
    obtain ⟨hbefore, hlast⟩ := List.append_inj' hlog rfl
    cases hlast
    have hc := h before c after hbefore
    rw [List.find?_append]
    cases hfind : after.find? fun e => Text.foldCase e.name = Text.foldCase c.name with
    | some e =>
      rw [hfind] at hc
      exact hc
    | none =>
      rw [hfind] at hc
      by_cases hname : Text.foldCase d.name = Text.foldCase c.name
      · have hshadowed := (htaken c.name hname.symm).1
        rw [hc, Option.some.injEq] at hshadowed
        simp [hname, hshadowed]
      · simp [hname, hother c.name (Ne.symm hname), hc]

theorem mem_map_key_of_mem_collisionsOf (hc : c ∈ collisionsOf policy sources records) :
    Text.foldCase c.name ∈ records.map Sourced.key := by
  obtain ⟨⟨r, i⟩, hr, hsome⟩ := List.mem_filterMap.mp hc
  obtain ⟨earlier, -, rfl⟩ := Option.map_eq_some_iff.mp hsome
  have hmem : r.key ∈ records.map Sourced.key :=
    List.mem_map_of_mem (List.fst_mem_of_mem_zipIdx hr)
  cases policy <;> exact hmem

theorem handsOn_collisionsOf (sources : List String) (records : List Sourced) :
    HandsOn (collisionsOf .lastWins sources records) fun name =>
      (winner .lastWins records (Text.foldCase name)).map (sourceName sources) := by
  induction records using List.reverseRecOn with
  | nil =>
    intro before c after hlog
    simp [collisionsOf] at hlog
  | append_singleton records r ih =>
    have hother : ∀ key, key ≠ r.key →
        winner .lastWins (records ++ [r]) key = winner .lastWins records key := by
      intro key hkey
      rw [winner_concat, if_neg fun h => hkey h.1]
    rw [collisionsOf_concat]
    cases hwinner : winner .lastWins records r.key with
    | none =>
      -- The function is new, so that no entry is of it.
      simp only [Option.map_none, Option.toList_none, List.append_nil]
      refine ih.congr fun c hc => ?_
      have hne : Text.foldCase c.name ≠ r.key := by
        intro he
        exact winner_eq_none_iff.mp hwinner (he ▸ mem_map_key_of_mem_collisionsOf hc)
      rw [hother _ hne]
    | some earlier =>
      refine ih.concat (fun name hname => ?_) fun name hname => ?_
      · have hkey : Text.foldCase name = r.key := hname
        rw [hkey, hwinner, winner_concat, if_pos ⟨rfl, .inl rfl⟩]
        exact ⟨rfl, rfl⟩
      · rw [hother _ hname]

/-- Where the first record wins, it is the one that every entry names. -/
theorem winner_of_mem_collisionsOf (hc : c ∈ collisionsOf .firstWins sources records) :
    (winner .firstWins records (Text.foldCase c.name)).map (sourceName sources) =
      some c.winner := by
  obtain ⟨⟨r, i⟩, -, hsome⟩ := List.mem_filterMap.mp hc
  obtain ⟨earlier, hearlier, rfl⟩ := Option.map_eq_some_iff.mp hsome
  have hfirst : winner .firstWins records r.key = some earlier :=
    (List.take_prefix i records).find?_eq_some hearlier
  exact congrArg (Option.map (sourceName sources)) hfirst

namespace Logs

theorem empty (policy : MergePolicy) : Merged.empty.Logs policy [] :=
  ⟨Keeps.empty, fun _ hr => absurd hr List.not_mem_nil, rfl⟩

theorem origins (h : m.Logs policy records) (key : String) :
    m.origins.get? key = (winner policy records key).map (·.source) := by
  rw [h.keeps.origins, find?_foldl_keep]

theorem addSource (h : m.Logs policy records) (source : String) :
    Logs policy { m with sources := m.sources ++ [source] } records where
  keeps := h.keeps.addSource source
  listed r hr := by
    rw [List.length_append]
    exact Nat.lt_add_right 1 (h.listed r hr)
  collisions := h.collisions.trans (collisionsOf_append_sources h.listed policy [source]).symm

theorem take (h : m.Logs policy records) (hid : m.sources[id]? = some source)
    (hok : m.take policy source id s = .ok next) : next.Logs policy (records ++ [⟨s, id⟩]) := by
  have hlt : id < m.sources.length := (List.getElem?_eq_some_iff.mp hid).1
  constructor
  · rw [List.foldl_append]
    exact h.keeps.take hlt hok
  · rw [take_sources hok]
    intro r hr
    rcases List.mem_append.mp hr with hr | hr
    · exact h.listed r hr
    · cases List.mem_singleton.mp hr
      exact hlt
  · rw [take_sources hok, collisionsOf_concat, ← h.collisions]
    have horigin := h.origins (Text.foldCase s.name)
    cases hwinner : winner policy records (Text.foldCase s.name) with
    | none =>
      rw [hwinner] at horigin
      rw [take_of_fresh horigin] at hok
      cases hok
      simp [Sourced.key, hwinner]
    | some earlier =>
      rw [hwinner] at horigin
      rw [recorded_take (take_refuse horigin) hok]
      simp [Sourced.key, hwinner, collisionOf, sourceName, hid]

theorem takeAll {signatures : List Signature} (h : m.Logs policy records)
    (hid : m.sources[id]? = some source)
    (hok : Merged.takeAll policy source id signatures m = (next, none)) :
    next.Logs policy (records ++ signatures.map (⟨·, id⟩)) := by
  induction signatures generalizing m records with
  | nil =>
    cases hok
    simpa using h
  | cons s signatures ih =>
    cases htake : m.take policy source id s with
    | error clash =>
      rw [takeAll_cons_error htake] at hok
      cases hok
    | ok middle =>
      rw [takeAll_cons_ok htake] at hok
      have hid' : middle.sources[id]? = some source := by rw [take_sources htake, hid]
      have hrest := ih (h.take hid htake) hid' hok
      rwa [List.append_assoc] at hrest

theorem add {t : SignatureTable} (h : m.Logs policy records)
    (hok : m.add policy source t = (next, none)) :
    next.Logs policy (records ++ t.entries.map (⟨·, m.sources.length⟩)) := by
  have hid : (m.sources ++ [source])[m.sources.length]? = some source := by simp
  exact (h.addSource source).takeAll hid hok

theorem addAll (h : m.Logs policy records) (hok : m.addAll policy tables = .ok next) :
    next.Logs policy (records ++ sourced m.sources.length tables) := by
  induction tables generalizing m records with
  | nil =>
    cases hok
    simpa [sourced] using h
  | cons call tables ih =>
    obtain ⟨middle, hadd, hrest⟩ := addAll_cons_ok hok
    have hsources := add_sources policy m call.1 call.2
    rw [hadd] at hsources
    have hnext := ih (h.add hadd) hrest
    rwa [hsources, List.length_append, List.length_singleton, List.append_assoc,
      ← sourced_cons] at hnext

theorem size_add_length (h : m.Logs policy records) :
    records.length = m.table.size + m.collisions.length := by
  have hkept : m.table.size = (records.map Sourced.key).eraseDups.length := by
    rw [SignatureTable.size, h.keeps.entries, List.length_map, ← map_key_foldl_keep policy,
      List.length_map]
  rw [hkept, h.collisions, ← length_collisionsOf]

theorem originOf?_eq (h : m.Logs policy records) (name : String) :
    m.originOf? name =
      (winner policy records (Text.foldCase name)).map (sourceName m.sources) := by
  rw [originOf?, h.origins]
  cases hwinner : winner policy records (Text.foldCase name) with
  | none => rfl
  | some r =>
    have hlisted := h.listed r (mem_of_winner_eq_some hwinner).1
    simp [sourceName, hlisted]

end Logs

theorem logs_of_addAll (hok : empty.addAll policy tables = .ok next) :
    next.Logs policy (sourced 0 tables) ∧ next.sources = tables.map (·.1) :=
  ⟨(Logs.empty policy).addAll hok, addAll_sources hok⟩

/-- Both permissive policies record one collision for each record whose function came before, in
the order of the records: with the source of its last record so far as the shadowed one where later
records win, and with the source of its very first record as the winner where the first one does. -/
theorem addAll_collisions (tables : List (String × SignatureTable)) :
    let records := sourced 0 tables
    let source := sourceName (tables.map (·.1))
    records.map (fun r => (source r, r.record)) =
        tables.flatMap (fun call => call.2.entries.map (call.1, ·)) ∧
      ∃ last first : Merged,
        empty.addAll .lastWins tables = .ok last ∧ empty.addAll .firstWins tables = .ok first ∧
        last.collisions = records.zipIdx.filterMap (fun (r, i) =>
          ((records.take i).findRev? (·.key = r.key)).map fun earlier =>
            ⟨r.record.name, source earlier, source r⟩) ∧
        first.collisions = records.zipIdx.filterMap (fun (r, i) =>
          ((records.take i).find? (·.key = r.key)).map fun earlier =>
            ⟨r.record.name, source r, source earlier⟩) ∧
        records.length = last.table.size + last.collisions.length ∧
        records.length = first.table.size + first.collisions.length := by
  obtain ⟨last, hlast⟩ := exists_addAll (by decide : MergePolicy.lastWins ≠ .refuse) empty tables
  obtain ⟨first, hfirst⟩ := exists_addAll (by decide : MergePolicy.firstWins ≠ .refuse) empty tables
  obtain ⟨hlastLogs, hlastSources⟩ := logs_of_addAll hlast
  obtain ⟨hfirstLogs, hfirstSources⟩ := logs_of_addAll hfirst
  refine ⟨map_sourced [] tables, last, first, hlast, hfirst, ?_, ?_, hlastLogs.size_add_length,
    hfirstLogs.size_add_length⟩
  · rw [hlastLogs.collisions, hlastSources]
    rfl
  · rw [hfirstLogs.collisions, hfirstSources]
    rfl

end Merged

namespace Catalog

open Merged

variable {modules : List Library} {policy : MergePolicy} {c : Catalog}

theorem exists_records_of_build (hok : build policy modules = .ok c) :
    ∃ sources records, c.collisions = collisionsOf policy sources records ∧
      c.originOf? = fun name =>
        (winner policy records (Text.foldCase name)).map (sourceName sources) := by
  obtain ⟨m, hadd, rfl⟩ := exists_merged_of_build hok
  have h := (logs_of_addAll hadd).1
  exact ⟨m.sources, _, h.collisions, funext h.originOf?_eq⟩

/-- Where the first record wins, each recorded winner provides its function in the end. Where the
last one wins, that is so of a function's last entry only: the winner of an earlier one is
overtaken, and the function's next entry records that. -/
theorem originOf?_of_collision (modules : List Library) :
    ∃ last first, build .lastWins modules = .ok last ∧ build .firstWins modules = .ok first ∧
      HandsOn last.collisions last.originOf? ∧
      ∀ collision ∈ first.collisions,
        first.originOf? collision.name = some collision.winner := by
  have hlast := build_eq_buildOrEmpty (by decide : MergePolicy.lastWins ≠ .refuse) modules
  have hfirst := build_eq_buildOrEmpty (by decide : MergePolicy.firstWins ≠ .refuse) modules
  refine ⟨_, _, hlast, hfirst, ?_, fun collision hmem => ?_⟩
  · obtain ⟨sources, records, hcollisions, horigin⟩ := exists_records_of_build hlast
    rw [hcollisions, horigin]
    exact handsOn_collisionsOf sources records
  · obtain ⟨sources, records, hcollisions, horigin⟩ := exists_records_of_build hfirst
    rw [hcollisions] at hmem
    rw [horigin]
    exact winner_of_mem_collisionsOf hmem

/-- Three modules with one function, each with its own spelling. -/
def overtaken : List Library :=
  [.ofSignatures "Math" none [{ name := "_Max" }], .ofSignatures "Mine" none [{ name := "_max" }],
    .ofSignatures "Ours" none [{ name := "_MAX" }]]

/-- The second module is recorded as the winner over the first one, and then loses to the third. -/
theorem originOf?_overtaken :
    ∃ c, build .lastWins overtaken = .ok c ∧ c.originOf? "_max" = some "Ours" ∧
      ¬ ∀ collision ∈ c.collisions, c.originOf? collision.name = some collision.winner :=
  ⟨_, rfl, by decide, by decide⟩

end Catalog

end AutoItDocs
