import AutoItDocs.Proofs.Catalog.Collisions
import AutoItDocs.Proofs.Catalog.Completion
import Mathlib.Data.List.Perm.Basic
/-!
What a catalog serves, said of its modules and a policy alone: which module provides a function, and
with which of its records. Main statement: to let the first record win is to let the last one win
with the modules in reverse order.
-/
namespace AutoItDocs

/-- The one of some candidates that the policy keeps. -/
def MergePolicy.pick {α : Type} (policy : MergePolicy) (p : α → Bool) (candidates : List α) :
    Option α :=
  match policy with
  | .lastWins => candidates.findRev? p
  | .firstWins | .refuse => candidates.find? p

theorem MergePolicy.pick_map {α β : Type} (policy : MergePolicy) (p : β → Bool) (f : α → β)
    (candidates : List α) :
    policy.pick p (candidates.map f) = (policy.pick (p ∘ f) candidates).map f := by
  cases policy with
  | lastWins =>
    simp only [pick, List.findRev?_eq_find?_reverse, ← List.map_reverse, List.find?_map]
  | firstWins | refuse => exact List.find?_map

theorem nodup_eraseDups {α : Type} [DecidableEq α] (keys : List α) : keys.eraseDups.Nodup := by
  induction keys using List.reverseRecOn with
  | nil => exact List.nodup_nil
  | append_singleton keys key ih =>
    rw [eraseDups_concat]
    by_cases hmem : key ∈ keys
    · rwa [if_pos hmem]
    · rw [if_neg hmem]
      exact List.nodup_append_comm.mp (List.nodup_cons.mpr ⟨mt List.mem_eraseDups.mp hmem, ih⟩)

/-- It does not matter from which end a list is searched for a key that occurs only once. -/
theorem findRev?_of_nodup {α β : Type} [DecidableEq β] (key : α → β) {candidates : List α}
    (distinct : (candidates.map key).Nodup) (b : β) :
    candidates.findRev? (key · = b) = candidates.find? (key · = b) := by
  induction candidates with
  | nil => rfl
  | cons a candidates ih =>
    rw [List.map_cons, List.nodup_cons] at distinct
    rw [← List.singleton_append, findRev?_append, List.find?_append, ih distinct.2]
    by_cases ha : key a = b
    · have hnone : candidates.find? (key · = b) = none := by
        rw [List.find?_eq_none]
        intro other hother he
        have hkey : key other = b := by simpa using he
        exact distinct.1 (ha ▸ hkey ▸ List.mem_map_of_mem hother)
      simp [hnone, ha]
    · simp [ha]

namespace Library

/-- The records of some modules in order, each with its module. -/
def records (modules : List Library) : List (Library × Signature) :=
  modules.flatMap fun l => l.table.entries.map (l, ·)

/-- The functions of some modules in the order in which they first appear, each by its lowercase
name. -/
def functions (modules : List Library) : List String :=
  ((records modules).map fun entry => Text.foldCase entry.2.name).eraseDups

/-- The module that provides a function, with the record that it provides. -/
def provider? (policy : MergePolicy) (modules : List Library) (key : String) :
    Option (Library × Signature) :=
  policy.pick (fun entry => Text.foldCase entry.2.name = key) (records modules)

/-- No function is in the module twice. -/
def Distinct (l : Library) : Prop := (l.table.names.map Text.foldCase).Nodup

variable {modules : List Library} {l : Library} {policy : MergePolicy} {key : String}

theorem records_append (xs ys : List Library) : records (xs ++ ys) = records xs ++ records ys :=
  List.flatMap_append

theorem records_singleton (l : Library) : records [l] = l.table.entries.map (l, ·) :=
  List.append_nil _

theorem records_cons (l : Library) (modules : List Library) :
    records (l :: modules) = l.table.entries.map (l, ·) ++ records modules := rfl

theorem records_reverse_perm (modules : List Library) :
    (records modules.reverse).Perm (records modules) :=
  modules.reverse_perm.flatMap_right _

theorem functions_reverse_perm (modules : List Library) :
    (functions modules.reverse).Perm (functions modules) := by
  have hkeys := (records_reverse_perm modules).map fun entry => Text.foldCase entry.2.name
  rw [functions, functions, List.perm_ext_iff_of_nodup (nodup_eraseDups _) (nodup_eraseDups _)]
  intro key
  rw [List.mem_eraseDups, List.mem_eraseDups, hkeys.mem_iff]

theorem Distinct.findRev?_entries (h : l.Distinct) (key : String) :
    (l.table.entries.map (l, ·)).findRev? (fun entry => Text.foldCase entry.2.name = key) =
      (l.table.entries.map (l, ·)).find? fun entry => Text.foldCase entry.2.name = key := by
  apply findRev?_of_nodup fun entry : Library × Signature => Text.foldCase entry.2.name
  rw [Distinct, SignatureTable.names, List.map_map] at h
  rwa [List.map_map]

/-- The last module from behind is the first one from the front, and has just one record of the
function. -/
theorem provider?_reverse (distinct : ∀ l ∈ modules, l.Distinct) (key : String) :
    provider? .lastWins modules.reverse key = provider? .firstWins modules key := by
  induction modules with
  | nil => rfl
  | cons l modules ih =>
    rw [List.forall_mem_cons] at distinct
    have hrest := ih distinct.2
    simp only [provider?, MergePolicy.pick] at hrest ⊢
    rw [List.reverse_cons, records_append, findRev?_append, records_singleton,
      distinct.1.findRev?_entries, hrest, records_cons, List.find?_append]

end Library

namespace Merged

variable {modules : List Library} {policy : MergePolicy} {key : String} {r : Sourced} {m : Merged}

theorem winner_eq_pick (policy : MergePolicy) (records : List Sourced) (key : String) :
    winner policy records key = policy.pick (·.key = key) records := by
  cases policy <;> rfl

/-- The index of each record leads to its module. -/
theorem map_sourced_modules (before modules : List Library) :
    (sourced before.length (modules.map fun l => (l.name, l.table))).map
        (fun r => ((before ++ modules)[r.source]?, r.record)) =
      (Library.records modules).map fun entry => (some entry.1, entry.2) := by
  induction modules generalizing before with
  | nil => rfl
  | cons l modules ih =>
    have hrest := ih (before ++ [l])
    rw [List.length_append, List.length_singleton, List.append_assoc, List.singleton_append] at hrest
    rw [List.map_cons, sourced_cons, List.map_append, hrest, Library.records_cons, List.map_append,
      List.map_map, List.map_map]
    congr 1
    apply List.map_congr_left
    intro s _
    simp

theorem map_winner_sourced (policy : MergePolicy) (modules : List Library) (key : String) :
    (winner policy (sourced 0 (modules.map fun l => (l.name, l.table))) key).map
        (fun r => (modules[r.source]?, r.record)) =
      (Library.provider? policy modules key).map fun entry => (some entry.1, entry.2) := by
  have hpicked := congrArg (policy.pick fun entry => Text.foldCase entry.2.name = key)
    (map_sourced_modules [] modules)
  rw [MergePolicy.pick_map, MergePolicy.pick_map] at hpicked
  rw [winner_eq_pick]
  exact hpicked

theorem provider?_of_winner
    (hr : winner policy (sourced 0 (modules.map fun l => (l.name, l.table))) key = some r) :
    ∃ l, modules[r.source]? = some l ∧ Library.provider? policy modules key = some (l, r.record) := by
  have hmap := map_winner_sourced policy modules key
  rw [hr, Option.map_some, eq_comm, Option.map_eq_some_iff] at hmap
  obtain ⟨⟨l, s⟩, hprovider, hentry⟩ := hmap
  obtain ⟨hl, rfl⟩ := Prod.mk.inj hentry
  exact ⟨l, hl.symm, hprovider⟩

theorem provider?_of_winner_eq_none
    (hnone : winner policy (sourced 0 (modules.map fun l => (l.name, l.table))) key = none) :
    Library.provider? policy modules key = none := by
  have hmap := map_winner_sourced policy modules key
  rwa [hnone, Option.map_none, eq_comm, Option.map_eq_none_iff] at hmap

theorem map_key_sourced_modules (modules : List Library) :
    ((sourced 0 (modules.map fun l => (l.name, l.table))).map Sourced.key).eraseDups =
      Library.functions modules := by
  have hkeys := congrArg (List.map fun entry => Text.foldCase entry.2.name)
    (map_sourced_modules [] modules)
  rw [List.map_map, List.map_map] at hkeys
  exact congrArg List.eraseDups hkeys

theorem length_sourced_modules (modules : List Library) :
    (sourced 0 (modules.map fun l => (l.name, l.table))).length =
      (Library.records modules).length := by
  have hlength := congrArg List.length (map_sourced_modules [] modules)
  rwa [List.length_map, List.length_map] at hlength

end Merged

namespace Catalog

open Merged

/-- The catalog serves each function from the module that the policy picks, and has counted the
records that it does not serve. -/
structure Serves (c : Catalog) (policy : MergePolicy) (modules : List Library) : Prop where
  signature : ∀ name, c.signature? name =
    (Library.provider? policy modules (Text.foldCase name)).map (·.2)
  hover : ∀ name, c.hover? name =
    (Library.provider? policy modules (Text.foldCase name)).map (·.2.markdown)
  origin : ∀ name, c.originOf? name =
    (Library.provider? policy modules (Text.foldCase name)).map (·.1.name)
  completions : c.completions = (Library.functions modules).filterMap fun key =>
    (Library.provider? policy modules key).map fun entry =>
      .ofSignature CompletionEntry.functionKind entry.1.detail entry.2
  collisions : (Library.records modules).length =
    (Library.functions modules).length + c.collisions.length

variable {m : Merged} {policy : MergePolicy} {modules : List Library} {c : Catalog}

theorem completions_ofMerged (built : ∀ l ∈ modules, l.table.Built)
    (hadd : Merged.empty.addAll policy (modules.map fun l => (l.name, l.table)) = .ok m) :
    (ofMerged m modules).completions = (Library.functions modules).filterMap fun key =>
      (Library.provider? policy modules key).map fun entry =>
        .ofSignature CompletionEntry.functionKind entry.1.detail entry.2 := by
  have h := Keeps.empty.addAll hadd
  rw [completions_of_keeps h, h.names_eq, ← map_key_sourced_modules, ← map_key_foldl_keep policy, List.filterMap_map,
    List.filterMap_map]
  apply List.filterMap_congr
  intro r hr
  have hwinner : winner policy (sourced 0 (modules.map fun l => (l.name, l.table))) r.key =
      some r := by
    rw [← find?_foldl_keep]
    exact (find?_key_eq_some_iff h.distinct).mpr ⟨hr, rfl⟩
  obtain ⟨l, hl, hprovider⟩ := provider?_of_winner hwinner
  obtain ⟨l', hl', hmem⟩ :=
    exists_module_of_mem_sourced ((mem_of_mem_foldl_keep hr).resolve_left List.not_mem_nil)
  obtain rfl : l' = l := Option.some.inj (hl'.symm.trans hl)
  have hexact := (built l' (List.mem_of_getElem? hl)).coherent
  simp only [Function.comp_apply, hprovider, Option.map_some]
  exact winners_get? h hr hl hexact hmem

/-- Either a module provides the function and all look-ups are about its record, or none answers. -/
theorem lookups_ofMerged
    (hadd : Merged.empty.addAll policy (modules.map fun l => (l.name, l.table)) = .ok m)
    (name : String) :
    (∃ l s, Library.provider? policy modules (Text.foldCase name) = some (l, s) ∧
        (ofMerged m modules).Answers name s ∧ (ofMerged m modules).originOf? name = some l.name) ∨
      Library.provider? policy modules (Text.foldCase name) = none ∧
        (ofMerged m modules).Silent name := by
  have h := Keeps.empty.addAll hadd
  obtain ⟨hlogs, hsources⟩ := logs_of_addAll hadd
  have hfind := find?_foldl_keep policy
    (sourced 0 (modules.map fun l => (l.name, l.table))) (Text.foldCase name)
  cases hwinner : winner policy (sourced 0 (modules.map fun l => (l.name, l.table)))
      (Text.foldCase name) with
  | none => exact .inr ⟨provider?_of_winner_eq_none hwinner,
      silent_of_find? h modules (hfind.trans hwinner)⟩
  | some r =>
    obtain ⟨l, hl, hprovider⟩ := provider?_of_winner hwinner
    refine .inl ⟨l, r.record, hprovider, answers_of_find? h modules (hfind.trans hwinner), ?_⟩
    change m.originOf? name = some l.name
    rw [hlogs.originOf?_eq, hwinner, Option.map_some, sourceName, hsources, List.map_map,
      List.getElem?_map, hl]
    rfl

theorem serves_of_build (built : ∀ l ∈ modules, l.table.Built)
    (hok : build policy modules = .ok c) : c.Serves policy modules := by
  obtain ⟨m, hadd, rfl⟩ := exists_merged_of_build hok
  have hcompletions := completions_ofMerged built hadd
  constructor
  · intro name
    rcases lookups_ofMerged hadd name with ⟨l, s, hprovider, hanswers, -⟩ | ⟨hnone, hsilent⟩
    · rw [hprovider, hanswers.signature, Option.map_some]
    · rw [hnone, hsilent.signature, Option.map_none]
  · intro name
    rcases lookups_ofMerged hadd name with ⟨l, s, hprovider, hanswers, -⟩ | ⟨hnone, hsilent⟩
    · rw [hprovider, hanswers.hover, Option.map_some]
    · rw [hnone, hsilent.hover, Option.map_none]
  · intro name
    rcases lookups_ofMerged hadd name with ⟨l, s, hprovider, -, horigin⟩ | ⟨hnone, hsilent⟩
    · rw [hprovider, horigin, Option.map_some]
    · rw [hnone, hsilent.origin, Option.map_none]
  · exact hcompletions
  · have hsize := (logs_of_addAll hadd).1.size_add_length
    have hkept : m.table.size = (Library.functions modules).length := by
      rw [SignatureTable.size, (Keeps.empty.addAll hadd).entries, List.length_map,
        ← map_key_sourced_modules, ← map_key_foldl_keep policy, List.length_map]
      rfl
    rw [length_sourced_modules, hkept] at hsize
    exact hsize

/-- A catalog in which the first record wins serves what one serves in which the last record wins
with the modules in reverse order, provided that no module has a function twice. The two differ in
the order of their entries and in which records they have left out, but not in how many. -/
theorem build_firstWins_reverse (built : ∀ l ∈ modules, l.table.Built)
    (distinct : ∀ l ∈ modules, (l.table.names.map Text.foldCase).Nodup) :
    ∃ first last, build .firstWins modules = .ok first ∧
      build .lastWins modules.reverse = .ok last ∧
      (∀ name, first.signature? name = last.signature? name ∧
        first.hover? name = last.hover? name ∧ first.originOf? name = last.originOf? name) ∧
      first.completions.Perm last.completions ∧
      first.collisions.length = last.collisions.length := by
  have hfirst := build_eq_buildOrEmpty (by decide : MergePolicy.firstWins ≠ .refuse) modules
  have hlast := build_eq_buildOrEmpty (by decide : MergePolicy.lastWins ≠ .refuse) modules.reverse
  have first := serves_of_build built hfirst
  have last := serves_of_build (fun l hl => built l (List.mem_reverse.mp hl)) hlast
  have hprovider := Library.provider?_reverse distinct
  have hfunctions := Library.functions_reverse_perm modules
  refine ⟨_, _, hfirst, hlast, fun name => ⟨?_, ?_, ?_⟩, ?_, ?_⟩
  · rw [first.signature, last.signature, hprovider]
  · rw [first.hover, last.hover, hprovider]
  · rw [first.origin, last.origin, hprovider]
  · rw [first.completions, last.completions]
    simp only [hprovider]
    exact hfunctions.symm.filterMap _
  · have hrecords := (Library.records_reverse_perm modules).length_eq
    have hcount := hfunctions.length_eq
    have hfirstCount := first.collisions
    have hlastCount := last.collisions
    omega

/-- Three modules of two functions each, where every function is in two modules under two spellings
and two of the modules need a header. -/
def crossing : List Library :=
  [.ofSignatures "Math" (some "Math.au3") [{ name := "_Max", label := "_Max ( $a, $b )" },
      { name := "_Min", label := "_Min ( $a, $b )" }],
    .ofSignatures "Mine" none [{ name := "_mean" }, { name := "_MAX" }],
    .ofSignatures "Ours" (some "Ours.au3") [{ name := "_Mean" }, { name := "_min" }]]

/-- The first spellings stay, in another order. -/
theorem build_firstWins_reverse_crossing :
    (∀ l ∈ crossing, l.table.Built) ∧
      (∀ l ∈ crossing, (l.table.names.map Text.foldCase).Nodup) ∧
      ∃ first last, build .firstWins crossing = .ok first ∧
        build .lastWins crossing.reverse = .ok last ∧
        first.names = ["_Max", "_Min", "_mean"] ∧ last.names = ["_mean", "_Min", "_Max"] ∧
        (∀ name, first.signature? name = last.signature? name ∧
          first.hover? name = last.hover? name ∧ first.originOf? name = last.originOf? name) ∧
        first.completions.Perm last.completions ∧
        first.collisions.length = last.collisions.length := by
  have built : ∀ l ∈ crossing, l.table.Built := by
    intro l hl
    simp only [crossing, List.mem_cons, List.not_mem_nil, or_false] at hl
    rcases hl with rfl | rfl | rfl <;> exact ⟨_, rfl⟩
  have distinct : ∀ l ∈ crossing, (l.table.names.map Text.foldCase).Nodup := by decide
  obtain ⟨first, last, hfirst, hlast, hsame⟩ := build_firstWins_reverse built distinct
  refine ⟨built, distinct, first, last, hfirst, hlast, ?_, ?_, hsame⟩
  · cases hfirst
    decide
  · cases hlast
    decide

end Catalog

end AutoItDocs
