import AutoItDocs.Proofs.Catalog.Lookup
/-!
The policy that refuses collisions next to the two that record them. Without a collision all three
merge alike; the clash that is refused is the first collision that the other two record.
-/
namespace AutoItDocs

/-- The collision that a policy records for a clash. -/
def Clash.recorded (clash : Clash) : MergePolicy → Collision
  | .firstWins => ⟨clash.name, clash.second, clash.first⟩
  | .lastWins | .refuse => ⟨clash.name, clash.first, clash.second⟩

namespace Merged

variable {m next stopped : Merged} {policy : MergePolicy} {source : String} {id : Nat}
  {s : Signature} {records : List Signature} {tables : List (String × SignatureTable)}
  {clash : Clash}

theorem addAll_cons_error {t : SignatureTable}
    (herror : m.addAll policy ((source, t) :: tables) = .error clash) :
    (∃ stopped, m.add policy source t = (stopped, some clash)) ∨
      ∃ middle, m.add policy source t = (middle, none) ∧
        middle.addAll policy tables = .error clash := by
  cases hadd : m.add policy source t with
  | mk middle answer =>
    simp only [addAll, hadd] at herror
    cases answer with
    | none => exact .inr ⟨middle, rfl, herror⟩
    | some other =>
      cases herror
      exact .inl ⟨middle, rfl⟩

/-! What is taken where nothing may collide is taken by every policy, and nothing is recorded. -/

theorem take_of_refuse (hok : m.take .refuse source id s = .ok next) (policy : MergePolicy) :
    m.take policy source id s = .ok next ∧ next.collisions = m.collisions := by
  cases hfound : m.origins.get? (Text.foldCase s.name) with
  | none =>
    rw [take_of_fresh hfound] at hok ⊢
    cases hok
    exact ⟨rfl, rfl⟩
  | some previous =>
    rw [take_refuse hfound] at hok
    cases hok

theorem takeAll_of_refuse (hok : takeAll .refuse source id records m = (next, none))
    (policy : MergePolicy) :
    takeAll policy source id records m = (next, none) ∧ next.collisions = m.collisions := by
  induction records generalizing m with
  | nil =>
    cases hok
    exact ⟨rfl, rfl⟩
  | cons s records ih =>
    cases htake : m.take .refuse source id s with
    | error clash =>
      rw [takeAll_cons_error htake] at hok
      cases hok
    | ok middle =>
      rw [takeAll_cons_ok htake] at hok
      obtain ⟨hpolicy, hfirst⟩ := take_of_refuse htake policy
      obtain ⟨hrest, hsame⟩ := ih hok
      exact ⟨(takeAll_cons_ok hpolicy).trans hrest, hsame.trans hfirst⟩

theorem add_of_refuse {t : SignatureTable} (hok : m.add .refuse source t = (next, none))
    (policy : MergePolicy) :
    m.add policy source t = (next, none) ∧ next.collisions = m.collisions :=
  takeAll_of_refuse hok policy

theorem addAll_of_refuse (hok : m.addAll .refuse tables = .ok next) (policy : MergePolicy) :
    m.addAll policy tables = .ok next ∧ next.collisions = m.collisions := by
  induction tables generalizing m with
  | nil =>
    cases hok
    exact ⟨rfl, rfl⟩
  | cons call tables ih =>
    obtain ⟨middle, hadd, hok⟩ := addAll_cons_ok hok
    obtain ⟨hpolicy, hfirst⟩ := add_of_refuse hadd policy
    obtain ⟨hrest, hsame⟩ := ih hok
    refine ⟨?_, hsame.trans hfirst⟩
    rw [addAll, hpolicy]
    exact hrest

/-! The clash is recorded behind the collisions that there are, and so is what comes after it. -/

theorem recorded_take (hclash : m.take .refuse source id s = .error clash)
    (hok : m.take policy source id s = .ok next) :
    next.collisions = m.collisions ++ [clash.recorded policy] := by
  cases hfound : m.origins.get? (Text.foldCase s.name) with
  | none =>
    rw [take_of_fresh hfound] at hclash
    cases hclash
  | some previous =>
    rw [take_refuse hfound] at hclash
    cases hclash
    simp only [take, hfound] at hok
    cases policy with
    | lastWins | firstWins =>
      cases hok
      rfl
    | refuse => cases hok

theorem collisions_take (hok : m.take policy source id s = .ok next) :
    m.collisions <+: next.collisions := by
  cases hrefuse : m.take .refuse source id s with
  | ok other =>
    obtain ⟨hsame, hnone⟩ := take_of_refuse hrefuse policy
    cases hok.symm.trans hsame
    exact hnone ▸ List.prefix_rfl
  | error clash =>
    rw [recorded_take hrefuse hok]
    exact List.prefix_append _ _

theorem collisions_takeAll (policy : MergePolicy) (source : String) (id : Nat)
    (records : List Signature) (m : Merged) :
    m.collisions <+: (takeAll policy source id records m).1.collisions := by
  induction records generalizing m with
  | nil => exact List.prefix_rfl
  | cons s records ih =>
    cases htake : m.take policy source id s with
    | error clash =>
      simp only [takeAll_cons_error htake, List.prefix_rfl]
    | ok next =>
      rw [takeAll_cons_ok htake]
      exact (collisions_take htake).trans (ih next)

theorem collisions_add (policy : MergePolicy) (m : Merged) (source : String) (t : SignatureTable) :
    m.collisions <+: (m.add policy source t).1.collisions :=
  collisions_takeAll policy source m.sources.length t.entries
    { m with sources := m.sources ++ [source] }

theorem collisions_addAll (hok : m.addAll policy tables = .ok next) :
    m.collisions <+: next.collisions := by
  induction tables generalizing m with
  | nil =>
    cases hok
    exact List.prefix_rfl
  | cons call tables ih =>
    obtain ⟨middle, hadd, hrest⟩ := addAll_cons_ok hok
    have hfirst := collisions_add policy m call.1 call.2
    rw [hadd] at hfirst
    exact hfirst.trans (ih hrest)

theorem recorded_takeAll (hclash : takeAll .refuse source id records m = (stopped, some clash))
    (hpolicy : policy ≠ .refuse) :
    m.collisions ++ [clash.recorded policy] <+:
      (takeAll policy source id records m).1.collisions := by
  induction records generalizing m with
  | nil => cases hclash
  | cons s records ih =>
    cases htake : m.take .refuse source id s with
    | error other =>
      obtain ⟨next, hnext⟩ := exists_take hpolicy m source id s
      rw [takeAll_cons_error htake] at hclash
      cases hclash
      rw [takeAll_cons_ok hnext, ← recorded_take htake hnext]
      exact collisions_takeAll policy source id records next
    | ok middle =>
      rw [takeAll_cons_ok htake] at hclash
      obtain ⟨hnext, hsame⟩ := take_of_refuse htake policy
      rw [takeAll_cons_ok hnext, ← hsame]
      exact ih hclash

theorem recorded_add {t : SignatureTable} (hclash : m.add .refuse source t = (stopped, some clash))
    (hpolicy : policy ≠ .refuse) :
    m.collisions ++ [clash.recorded policy] <+: (m.add policy source t).1.collisions :=
  recorded_takeAll hclash hpolicy

theorem recorded_addAll (hclash : m.addAll .refuse tables = .error clash)
    (hpolicy : policy ≠ .refuse) (hok : m.addAll policy tables = .ok next) :
    m.collisions ++ [clash.recorded policy] <+: next.collisions := by
  induction tables generalizing m with
  | nil => cases hclash
  | cons call tables ih =>
    obtain ⟨middle, hadd, hrest⟩ := addAll_cons_ok hok
    rcases addAll_cons_error hclash with ⟨stopped, hstop⟩ | ⟨unstopped, hnone, hclash⟩
    · have hrecorded := recorded_add hstop hpolicy
      rw [hadd] at hrecorded
      exact hrecorded.trans (collisions_addAll hrest)
    · -- The source merges without a clash, so that every policy is in the same state behind it.
      obtain ⟨hsame, hcollisions⟩ := add_of_refuse hnone policy
      cases hadd.symm.trans hsame
      rw [← hcollisions]
      exact ih hclash hrest

end Merged

namespace Catalog

variable {modules : List Library} {policy : MergePolicy} {c : Catalog} {clash : Clash}

theorem addAll_of_build_error (herror : build policy modules = .error clash) :
    Merged.empty.addAll policy (modules.map fun l => (l.name, l.table)) = .error clash := by
  rw [build] at herror
  cases hadd : Merged.empty.addAll policy (modules.map fun l => (l.name, l.table)) with
  | error other =>
    rw [hadd] at herror
    cases herror
    rfl
  | ok m =>
    rw [hadd] at herror
    cases herror

/-- Only a build that refuses collisions can fail, so that the others never give the empty catalog
in place of one. -/
theorem build_eq_buildOrEmpty (hpolicy : policy ≠ .refuse) (modules : List Library) :
    build policy modules = .ok (buildOrEmpty policy modules) := by
  obtain ⟨m, hadd⟩ := Merged.exists_addAll hpolicy .empty
    (modules.map fun l => (l.name, l.table))
  have hok : build policy modules = .ok (ofMerged m modules) := by rw [build, hadd, Except.map]
  rw [buildOrEmpty, hok]

theorem build_of_refuse (hok : build .refuse modules = .ok c) (policy : MergePolicy) :
    build policy modules = .ok c ∧ c.collisions = [] := by
  obtain ⟨m, hadd, rfl⟩ := exists_merged_of_build hok
  obtain ⟨hpolicy, hnone⟩ := Merged.addAll_of_refuse hadd policy
  exact ⟨by rw [build, hpolicy, Except.map], hnone⟩

/-- The first collision that a policy records is the clash that is refused. -/
theorem head?_collisions_of_clash (hclash : build .refuse modules = .error clash)
    (hpolicy : policy ≠ .refuse) (hok : build policy modules = .ok c) :
    c.collisions.head? = some (clash.recorded policy) := by
  obtain ⟨m, hadd, rfl⟩ := exists_merged_of_build hok
  obtain ⟨behind, hbehind⟩ := Merged.recorded_addAll (addAll_of_build_error hclash) hpolicy hadd
  change m.collisions.head? = _
  rw [← hbehind]
  rfl

/-- Without a collision all policies build the same catalog. Otherwise the build that allows none
fails with the first one that the others record, where each of these names as the winner the source
of the record that it keeps. -/
theorem build_refuse (modules : List Library) :
    ∃ last first, build .lastWins modules = .ok last ∧ build .firstWins modules = .ok first ∧
      ((∃ c, build .refuse modules = .ok c) ↔ last.collisions = []) ∧
      (last.collisions = [] → build .refuse modules = .ok last ∧ first = last) ∧
      (last.collisions ≠ [] → ∃ name earlier later,
        build .refuse modules = .error ⟨name, earlier, later⟩ ∧
        last.collisions.head? = some ⟨name, earlier, later⟩ ∧
        first.collisions.head? = some ⟨name, later, earlier⟩) := by
  have hlast := build_eq_buildOrEmpty (by decide : MergePolicy.lastWins ≠ .refuse) modules
  have hfirst := build_eq_buildOrEmpty (by decide : MergePolicy.firstWins ≠ .refuse) modules
  generalize buildOrEmpty .lastWins modules = last at hlast
  generalize buildOrEmpty .firstWins modules = first at hfirst
  refine ⟨last, first, hlast, hfirst, ?_⟩
  cases hrefuse : build .refuse modules with
  | ok c =>
    obtain ⟨hsame, hnone⟩ := build_of_refuse hrefuse .lastWins
    cases hlast.symm.trans hsame
    cases hfirst.symm.trans (build_of_refuse hrefuse .firstWins).1
    exact ⟨iff_of_true ⟨last, rfl⟩ hnone, fun _ => ⟨rfl, rfl⟩, fun hsome => absurd hnone hsome⟩
  | error clash =>
    have hhead := head?_collisions_of_clash hrefuse (by decide) hlast
    have hsome : last.collisions ≠ [] := by
      intro hnone
      rw [hnone] at hhead
      cases hhead
    refine ⟨iff_of_false (by rintro ⟨c, ⟨⟩⟩) hsome, fun hnone => absurd hnone hsome, fun _ => ?_⟩
    exact ⟨clash.name, clash.first, clash.second, rfl, hhead,
      head?_collisions_of_clash hrefuse (by decide) hfirst⟩

/-- The first of the modules has no collision; the second one collides with it twice. -/
theorem build_refuse_respelled :
    (∃ first, build .firstWins (respelled.take 1) = .ok first ∧
      build .refuse (respelled.take 1) = .ok first) ∧
    ∃ last first, build .lastWins respelled = .ok last ∧ build .firstWins respelled = .ok first ∧
      build .refuse respelled = .error ⟨"_max", "Math", "Mine"⟩ ∧
      last.collisions.head? = some ⟨"_max", "Math", "Mine"⟩ ∧
      first.collisions.head? = some ⟨"_max", "Mine", "Math"⟩ := by
  constructor
  · obtain ⟨last, first, hlast, hfirst, -, hagree, -⟩ := build_refuse (respelled.take 1)
    have hnone : last.collisions = [] := by
      cases hlast
      rfl
    obtain ⟨hrefuse, rfl⟩ := hagree hnone
    exact ⟨first, hfirst, hrefuse⟩
  · obtain ⟨last, first, hlast, hfirst, -, -, hclash⟩ := build_refuse respelled
    have hsome : last.collisions ≠ [] := by
      cases hlast
      decide
    obtain ⟨name, earlier, later, hrefuse, hheads⟩ := hclash hsome
    have hnamed : build .refuse respelled = .error ⟨"_max", "Math", "Mine"⟩ := rfl
    cases hrefuse.symm.trans hnamed
    exact ⟨last, first, hlast, hfirst, hnamed, hheads⟩

end Catalog

end AutoItDocs
