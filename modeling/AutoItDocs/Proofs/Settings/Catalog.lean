import AutoItDocs.Settings
import AutoItDocs.Proofs.Catalog.Refusal
/-!
The catalog of some settings is the catalog of one build, although there may have been two: where
collisions are refused and there is one, it is the second build that is shown.
-/
namespace AutoItDocs

/-- The policy under which a catalog is built in the end. -/
def MergePolicy.settled : MergePolicy → MergePolicy
  | .firstWins => .firstWins
  | .lastWins | .refuse => .lastWins

theorem MergePolicy.settled_of_ne_refuse {policy : MergePolicy} (h : policy ≠ .refuse) :
    policy.settled = policy := by
  cases policy with
  | lastWins | firstWins => rfl
  | refuse => exact absurd rfl h

theorem MergePolicy.settled_getD (configured : Option MergePolicy) :
    (configured.getD .lastWins).settled =
      if configured = some .firstWins then .firstWins else .lastWins := by
  rcases configured with _ | _ | _ | _ <;> rfl

theorem Library.sameName_iff {a b : String} :
    sameName a b = true ↔ a.toList.map Char.toLower = b.toList.map Char.toLower :=
  beq_iff_eq

namespace Settings

/-- The same settings with a policy for collisions. -/
def under (s : Settings) (policy : MergePolicy) : Settings :=
  { registry := some { s.registry.getD {} with collisions := some policy } }

/-- The same settings with other module files. -/
def listing (s : Settings) (modules : List String) : Settings :=
  { registry := some { s.registry.getD {} with modules := some modules } }

variable {s t : Settings} {directory : Path} {files : FileTree}
  {parse : String → Option Toml.Entries}

@[simp] theorem policy_under (s : Settings) (policy : MergePolicy) :
    (s.under policy).policy = policy := rfl

@[simp] theorem disabled_under (s : Settings) (policy : MergePolicy) :
    (s.under policy).disabled = s.disabled := by
  rcases s with ⟨_ | _⟩ <;> rfl

@[simp] theorem modules_under (s : Settings) (policy : MergePolicy) :
    (s.under policy).modules = s.modules := by
  rcases s with ⟨_ | _⟩ <;> rfl

@[simp] theorem policy_listing (s : Settings) (modules : List String) :
    (s.listing modules).policy = s.policy := by
  rcases s with ⟨_ | _⟩ <;> rfl

@[simp] theorem disabled_listing (s : Settings) (modules : List String) :
    (s.listing modules).disabled = s.disabled := by
  rcases s with ⟨_ | _⟩ <;> rfl

@[simp] theorem modules_listing (s : Settings) (modules : List String) :
    (s.listing modules).modules = modules := rfl

theorem enabledModules_eq (s : Settings) :
    s.enabledModules = Library.bundled.filter fun l =>
      ∀ name ∈ s.disabled, name.toList.map Char.toLower ≠ l.name.toList.map Char.toLower := by
  apply List.filter_congr
  intro l _
  rw [Bool.eq_iff_iff]
  simp [Library.sameName_iff]

theorem loadedModules_eq (s : Settings) (directory : Path) (files : FileTree)
    (parse : String → Option Toml.Entries) :
    s.loadedModules directory files parse =
      s.modules.filterMap fun name => (Library.load files (directory.join name) parse).toOption :=
  List.filterMap_map

/-- A file that cannot be loaded gives as little as a file that is not listed. -/
theorem loadedModules_listing_isOk (s : Settings) (directory : Path) (files : FileTree)
    (parse : String → Option Toml.Entries) :
    (s.listing (s.modules.filter fun name =>
        (Library.load files (directory.join name) parse).isOk)).loadedModules directory files
          parse = s.loadedModules directory files parse := by
  rw [loadedModules_eq, loadedModules_eq, modules_listing, List.filterMap_filter]
  apply List.filterMap_congr
  intro name _
  cases Library.load files (directory.join name) parse <;> rfl

/-- Whether or not the first build fails, the settled policy builds what is shown. -/
theorem build_settled (s : Settings) (directory : Path) (files : FileTree)
    (parse : String → Option Toml.Entries) :
    Catalog.build s.policy.settled (s.enabledModules ++ s.loadedModules directory files parse) =
      .ok (s.catalog directory files parse) := by
  rw [catalog]
  generalize s.enabledModules ++ s.loadedModules directory files parse = modules
  cases hbuild : Catalog.build s.policy modules with
  | ok c =>
    by_cases hpolicy : s.policy = .refuse
    · rw [hpolicy] at hbuild
      exact (Catalog.build_of_refuse hbuild _).1
    · rwa [MergePolicy.settled_of_ne_refuse hpolicy]
  | error clash =>
    -- This is the fallback, which only the policy that refuses collisions leads to.
    have hpolicy : s.policy = .refuse := by
      by_contra hpolicy
      rw [Catalog.build_eq_buildOrEmpty hpolicy] at hbuild
      cases hbuild
    rw [hpolicy]
    exact Catalog.build_eq_buildOrEmpty (by decide) modules

/-- Without settings the bundled modules are shown. -/
theorem catalog_default (directory : Path) (files : FileTree)
    (parse : String → Option Toml.Entries) :
    ({} : Settings).catalog directory files parse = Catalog.bundled := by
  have henabled : ({} : Settings).enabledModules = Library.bundled := by
    rw [enabledModules_eq, List.filter_eq_self]
    intro l _
    simp [disabled]
  have hbuild := build_settled {} directory files parse
  have hbundled := Catalog.build_eq_buildOrEmpty (by decide : MergePolicy.lastWins ≠ .refuse)
    Library.bundled
  rw [henabled] at hbuild
  exact Except.ok.inj (hbuild.symm.trans hbundled)

theorem catalog_congr (hpolicy : s.policy.settled = t.policy.settled)
    (hdisabled : s.disabled = t.disabled)
    (hloaded : s.loadedModules directory files parse = t.loadedModules directory files parse) :
    s.catalog directory files parse = t.catalog directory files parse := by
  have henabled : s.enabledModules = t.enabledModules := by
    rw [enabledModules_eq, enabledModules_eq, hdisabled]
  have hs := build_settled s directory files parse
  rw [hpolicy, henabled, hloaded, build_settled t] at hs
  exact (Except.ok.inj hs).symm

/-- The catalog of settings is that of the bundled modules that are not disabled and of the module
files that can be loaded, in the order in which they are listed, whatever reads their documents. It
is never the empty catalog in place of one, and to refuse collisions is to let the last record
win. -/
theorem build_catalog (s : Settings) (directory : Path) (files : FileTree)
    (parse : String → Option Toml.Entries) :
    let enabled := Library.bundled.filter fun l =>
      ∀ name ∈ s.disabled, name.toList.map Char.toLower ≠ l.name.toList.map Char.toLower
    let loaded := s.modules.filterMap fun name =>
      (Library.load files (directory.join name) parse).toOption
    let policy :=
      if s.registry.bind (·.collisions) = some .firstWins then MergePolicy.firstWins else .lastWins
    Catalog.build policy (enabled ++ loaded) = .ok (s.catalog directory files parse) ∧
      (∃ c, Catalog.build .lastWins (enabled ++ loaded) = .ok c) ∧
      (s.listing (s.modules.filter fun name =>
          (Library.load files (directory.join name) parse).isOk)).catalog directory files parse =
        s.catalog directory files parse ∧
      (s.under .refuse).catalog directory files parse =
        (s.under .lastWins).catalog directory files parse := by
  intro enabled loaded policy
  refine ⟨?_, ?_, ?_, ?_⟩
  · have hbuild := build_settled s directory files parse
    rw [enabledModules_eq, loadedModules_eq, Settings.policy, MergePolicy.settled_getD] at hbuild
    exact hbuild
  · exact ⟨_, Catalog.build_eq_buildOrEmpty (by decide) _⟩
  · apply catalog_congr
    · rw [policy_listing]
    · rw [disabled_listing]
    · exact loadedModules_listing_isOk s directory files parse
  · apply catalog_congr
    · simp only [policy_under, MergePolicy.settled]
    · rw [disabled_under, disabled_under]
    · rw [loadedModules_eq, loadedModules_eq, modules_under, modules_under]

/-- Two module files with one function, each with its own spelling, and one that is cut off. -/
def shared : FileTree where
  entries := [("work", .directory [
    ("one.toml", .file "[[functions]]\nname = \"_Max\"".toUTF8),
    ("two.toml", .file "[[functions]]\nname = \"_MAX\"".toUTF8),
    ("cut.toml", .file "[[functions".toUTF8)])]

/-- Only the module Math is left; of the module files listed, two cannot be loaded. -/
def strict : Settings where
  registry := some {
    collisions := some .refuse
    disabled := some ["autoit", "STRING", "array", "date", "file"]
    modules := some ["one.toml", "cut.toml", "gone.toml", "two.toml"] }

example :
    let c := strict.catalog ⟨"/work"⟩ shared
    c.names = ["_Degree", "_MathCheckDiv", "_MAX", "_Min", "_Radian"] ∧
      c.collisions = [⟨"_Max", "Math", "one"⟩, ⟨"_MAX", "one", "two"⟩] := by
  decide +kernel

end Settings

end AutoItDocs
