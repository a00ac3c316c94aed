import AutoItDocs.Settings
import AutoItDocs.Proofs.Files.Path
/-!
The search for settings. A settings file of the start directory or of a directory above it is taken
before one right below it, and of several above the nearest, whatever the file holds.
-/
namespace AutoItDocs

/-- The directory has a settings file with this content. -/
def FileTree.HasSettings (files : FileTree) (directory : Path) (content : ByteArray) : Prop :=
  files.find (directory.join Settings.fileName) = .ok (.file content)

/-- There is a directory of this name right below another. -/
def FileTree.IsBelow (files : FileTree) (directory : Path) (name : String) : Prop :=
  ∃ entries inner, files.find directory = .ok (.directory entries) ∧
    (name, FileNode.directory inner) ∈ entries

/-- No directory on the way up from `start` has a settings file. -/
def FileTree.NoneAbove (files : FileTree) (start : Path) : Prop :=
  ∀ n directory content, start.above? n = some directory → ¬ files.HasSettings directory content

/-- Where the settings for a start directory may come from: the start directory, one above it, or, if
none of these has a settings file, one right below it. -/
def FileTree.IsConsidered (files : FileTree) (start directory : Path) : Prop :=
  (∃ n, start.above? n = some directory) ∨
    files.NoneAbove start ∧ ∃ name, files.IsBelow start name ∧ directory = start.join name

/-- An absolute path is followed from the root. -/
theorem FileTree.find_eq_follow {files : FileTree} {p : Path} {names : List String}
    (habsolute : p.isAbsolute = true) (hparts : p.parts = "" :: names) :
    files.find p = FileNode.follow [] (.directory files.entries) names := by
  have hne : p.text ≠ "" := by
    intro hempty
    rw [Path.isAbsolute, hempty] at habsolute
    revert habsolute
    decide
  rw [find, if_neg hne, if_pos habsolute, hparts]
  rfl

namespace Settings

/-- The settings that a file describes, unless it is no text or malformed. -/
def ofContent? (content : ByteArray) (parse : String → Option Toml.Entries := Toml.parse?) :
    Option Settings :=
  (String.fromUTF8? content).bind fun text => (parse text).bind ofToml?

variable {files : FileTree} {start directory : Path} {content : ByteArray}

theorem isIn_iff : isIn files directory = true ↔ ∃ content, files.HasSettings directory content := by
  simp only [isIn, FileTree.isFile, FileTree.HasSettings]
  constructor
  · intro hfile
    split at hfile
    · rename_i content hfind
      exact ⟨content, hfind⟩
    · cases hfile
  · rintro ⟨content, hfind⟩
    rw [hfind]

theorem load_eq (h : files.HasSettings directory content) (parse : String → Option Toml.Entries) :
    load files (directory.join fileName) parse = (ofContent? content parse).getD {} := by
  have hfind : files.find (directory.join fileName) = .ok (.file content) := h
  cases htext : String.fromUTF8? content with
  | none => simp [load, FileTree.readText, hfind, ofContent?, htext]
  | some text => simp [load, FileTree.readText, hfind, ofContent?, htext]

theorem mem_childDirectories_iff {child : Path} :
    child ∈ files.childDirectories start ↔
      ∃ name, files.IsBelow start name ∧ child = start.join name := by
  rw [FileTree.childDirectories]
  split
  · rename_i entries hfind
    simp only [List.mem_map, List.mem_filter]
    constructor
    · rintro ⟨⟨name, node⟩, ⟨hentry, hnode⟩, rfl⟩
      cases node with
      | file => cases hnode
      | directory inner => exact ⟨name, ⟨entries, inner, hfind, hentry⟩, rfl⟩
    · rintro ⟨name, ⟨_, inner, hother, hentry⟩, rfl⟩
      cases hfind.symm.trans hother
      exact ⟨(name, .directory inner), ⟨hentry, rfl⟩, rfl⟩
  · rename_i hnone
    simp only [List.not_mem_nil, false_iff]
    rintro ⟨name, ⟨entries, inner, hfind, -⟩, -⟩
    exact hnone entries hfind

theorem discover_of_directoryFor? (h : directoryFor? files start = some directory)
    (hcontent : files.HasSettings directory content) (parse : String → Option Toml.Entries) :
    discover files start parse = ((ofContent? content parse).getD {}, directory) := by
  rw [discover, h]
  exact congrArg (·, directory) (load_eq hcontent parse)

/-- Upwards, the nearest directory with a settings file is found. -/
theorem find?_ancestors {n : Nat} (habove : start.above? n = some directory)
    (hcontent : files.HasSettings directory content)
    (hnearest : ∀ k < n, ∀ nearer other,
      start.above? k = some nearer → ¬ files.HasSettings nearer other) :
    start.ancestors.find? (isIn files) = some directory := by
  rw [← Path.getElem?_ancestors] at habove
  obtain ⟨hn, hdirectory⟩ := List.getElem?_eq_some_iff.mp habove
  rw [List.find?_eq_some_iff_getElem]
  refine ⟨isIn_iff.mpr ⟨content, hcontent⟩, n, hn, hdirectory, ?_⟩
  intro k hk
  rw [Bool.not_eq_true', ← Bool.not_eq_true, isIn_iff]
  rintro ⟨other, hother⟩
  refine hnearest k hk _ other ?_ hother
  rw [← Path.getElem?_ancestors]
  exact List.getElem?_eq_getElem (hk.trans hn)

theorem find?_ancestors_eq_none_iff :
    start.ancestors.find? (isIn files) = none ↔ files.NoneAbove start := by
  rw [List.find?_eq_none]
  constructor
  · intro hnone n directory content habove hcontent
    rw [← Path.getElem?_ancestors] at habove
    exact hnone directory (List.mem_of_getElem? habove) (isIn_iff.mpr ⟨content, hcontent⟩)
  · intro hnone directory hdirectory hfile
    obtain ⟨n, habove⟩ := List.mem_iff_getElem?.mp hdirectory
    obtain ⟨content, hcontent⟩ := isIn_iff.mp hfile
    rw [Path.getElem?_ancestors] at habove
    exact hnone n directory content habove hcontent

theorem directoryFor?_of_noneAbove (h : files.NoneAbove start) :
    directoryFor? files start = (files.childDirectories start).find? (isIn files) := by
  rw [directoryFor?, find?_ancestors_eq_none_iff.mpr h, Option.none_or]

/-- Downwards, the only directory with a settings file is found. -/
theorem find?_childDirectories {name : String} (hbelow : files.IsBelow start name)
    (hcontent : files.HasSettings (start.join name) content)
    (honly : ∀ other content, files.IsBelow start other →
      files.HasSettings (start.join other) content → other = name) :
    (files.childDirectories start).find? (isIn files) = some (start.join name) := by
  have hsome : ((files.childDirectories start).find? (isIn files)).isSome = true := by
    rw [List.find?_isSome]
    exact ⟨start.join name, mem_childDirectories_iff.mpr ⟨name, hbelow, rfl⟩,
      isIn_iff.mpr ⟨content, hcontent⟩⟩
  obtain ⟨found, hfound⟩ := Option.isSome_iff_exists.mp hsome
  obtain ⟨other, hother, rfl⟩ := mem_childDirectories_iff.mp (List.mem_of_find?_eq_some hfound)
  obtain ⟨content, hcontent⟩ := isIn_iff.mp (List.find?_some hfound)
  rw [hfound, honly other content hother hcontent]

theorem isConsidered_of_directoryFor? (h : directoryFor? files start = some directory) :
    files.IsConsidered start directory ∧ ∃ content, files.HasSettings directory content := by
  rw [directoryFor?, Option.or_eq_some_iff] at h
  rcases h with habove | ⟨hnone, hbelow⟩
  · refine ⟨.inl ?_, isIn_iff.mp (List.find?_some habove)⟩
    obtain ⟨n, hn⟩ := List.mem_iff_getElem?.mp (List.mem_of_find?_eq_some habove)
    exact ⟨n, (Path.getElem?_ancestors start n).symm.trans hn⟩
  · exact ⟨.inr ⟨find?_ancestors_eq_none_iff.mp hnone,
      mem_childDirectories_iff.mp (List.mem_of_find?_eq_some hbelow)⟩,
      isIn_iff.mp (List.find?_some hbelow)⟩

theorem not_hasSettings_of_directoryFor? (h : directoryFor? files start = none)
    (hconsidered : files.IsConsidered start directory) :
    ¬ files.HasSettings directory content := by
  rw [directoryFor?, Option.or_eq_none_iff, find?_ancestors_eq_none_iff, List.find?_eq_none] at h
  rcases hconsidered with ⟨n, habove⟩ | ⟨-, name, hbelow, rfl⟩
  · exact h.1 n directory content habove
  · intro hcontent
    exact h.2 _ (mem_childDirectories_iff.mpr ⟨name, hbelow, rfl⟩) (isIn_iff.mpr ⟨content, hcontent⟩)

/-- What the search gives was read from a file, or is the default. -/
theorem discover_cases (files : FileTree) (start : Path) (parse : String → Option Toml.Entries) :
    (∃ directory content, files.IsConsidered start directory ∧
      files.HasSettings directory content ∧
      discover files start parse = ((ofContent? content parse).getD {}, directory)) ∨
    discover files start parse = ({}, start) := by
  cases hdirectory : directoryFor? files start with
  | none =>
    right
    rw [discover, hdirectory]
  | some directory =>
    left
    obtain ⟨hconsidered, content, hcontent⟩ := isConsidered_of_directoryFor? hdirectory
    exact ⟨directory, content, hconsidered, hcontent,
      discover_of_directoryFor? hdirectory hcontent parse⟩

theorem discover_of_above {n : Nat} (habove : start.above? n = some directory)
    (hcontent : files.HasSettings directory content)
    (hnearest : ∀ k < n, ∀ nearer other,
      start.above? k = some nearer → ¬ files.HasSettings nearer other)
    (parse : String → Option Toml.Entries) :
    discover files start parse = ((ofContent? content parse).getD {}, directory) := by
  apply discover_of_directoryFor? ?_ hcontent
  rw [directoryFor?, find?_ancestors habove hcontent hnearest, Option.some_or]

theorem discover_of_below {name : String} (hnone : files.NoneAbove start)
    (hbelow : files.IsBelow start name) (hcontent : files.HasSettings (start.join name) content)
    (honly : ∀ other content, files.IsBelow start other →
      files.HasSettings (start.join other) content → other = name)
    (parse : String → Option Toml.Entries) :
    discover files start parse = ((ofContent? content parse).getD {}, start.join name) := by
  apply discover_of_directoryFor? ?_ hcontent
  rw [directoryFor?_of_noneAbove hnone, find?_childDirectories hbelow hcontent honly]

theorem discover_of_none (hnone : files.NoneAbove start)
    (hbelow : ∀ name content, files.IsBelow start name →
      ¬ files.HasSettings (start.join name) content)
    (parse : String → Option Toml.Entries) : discover files start parse = ({}, start) := by
  have hdirectory : directoryFor? files start = none := by
    rw [directoryFor?_of_noneAbove hnone, List.find?_eq_none]
    intro child hchild hfile
    obtain ⟨name, hname, rfl⟩ := mem_childDirectories_iff.mp hchild
    obtain ⟨content, hcontent⟩ := isIn_iff.mp hfile
    exact hbelow name content hname hcontent
  rw [discover, hdirectory]

/-- The search for settings ends; from a relative start directory it goes up to the empty path. It
ends with the nearest settings file of the start directory and those above it, even if it is
malformed, whatever reads the file. Without one, the only settings file right below the start
directory is found, and without that the default settings of the start directory. In any case what
is found is a file. -/
theorem discover_nearest (files : FileTree) (start : Path) (parse : String → Option Toml.Entries) :
    ((∃ n, start.above? n = none) ∧
      (¬ start.isAbsolute → ∃ n, start.above? n = some ⟨""⟩)) ∧
      (∀ n directory content, start.above? n = some directory →
        files.HasSettings directory content →
        (∀ k < n, ∀ nearer other, start.above? k = some nearer →
          ¬ files.HasSettings nearer other) →
        discover files start parse = ((ofContent? content parse).getD {}, directory)) ∧
      (files.NoneAbove start →
        (∀ name content, files.IsBelow start name →
          files.HasSettings (start.join name) content →
          (∀ other content, files.IsBelow start other →
            files.HasSettings (start.join other) content → other = name) →
          discover files start parse = ((ofContent? content parse).getD {}, start.join name)) ∧
        ((∀ name content, files.IsBelow start name →
            ¬ files.HasSettings (start.join name) content) →
          discover files start parse = ({}, start))) ∧
      ((∃ directory content, files.IsConsidered start directory ∧
          files.HasSettings directory content ∧
          discover files start parse = ((ofContent? content parse).getD {}, directory)) ∨
        discover files start parse = ({}, start)) := by
  refine ⟨⟨start.exists_above?_eq_none, Path.exists_above?_eq_empty⟩, ?_, fun hnone => ⟨?_, ?_⟩,
    discover_cases files start parse⟩
  · intro n directory content habove hcontent hnearest
    exact discover_of_above habove hcontent hnearest parse
  · intro name content hbelow hcontent honly
    exact discover_of_below hnone hbelow hcontent honly parse
  · intro hbelow
    exact discover_of_none hnone hbelow parse

/-- Two directories, one of them with a directory named like a settings file. -/
def home : List (String × FileNode) :=
  [("one", .directory [(fileName, .directory [])]),
    ("two", .directory [(fileName, .file "[registry]\ndisabled = [\"Math\"]".toUTF8)])]

/-- A settings file that is malformed, above a directory and another settings file below that. -/
def work : List (String × FileNode) :=
  [(fileName, .file "[registry".toUTF8),
    ("src", .directory [(fileName, .directory []),
      ("tests", .directory [(fileName, .file "[registry]".toUTF8)])])]

def mixed : FileTree where
  entries := [(fileName, .directory []), ("work", .directory work), ("home", .directory home)]

/-- A malformed file above is taken before the one below, the only file below is found, and a
directory named like a settings file is not. -/
theorem discover_mixed :
    discover mixed ⟨"/work/src"⟩ = ({}, ⟨"/work"⟩) ∧
      discover mixed ⟨"/home"⟩ =
        ({ registry := some { disabled := some ["Math"] } }, ⟨"/home/two"⟩) ∧
      discover mixed ⟨"/home/one"⟩ = ({}, ⟨"/home/one"⟩) := by
  refine ⟨?_, ?_, ?_⟩
  · have habove : Path.above? ⟨"/work/src"⟩ 1 = some ⟨"/work"⟩ := by decide +kernel
    have hcontent : mixed.find (Path.join ⟨"/work"⟩ fileName) =
        .ok (.file "[registry".toUTF8) :=
      FileTree.find_eq_follow (by decide +kernel)
        (by decide +kernel : _ = ["", "work", fileName])
    have hmalformed : (ofContent? "[registry".toUTF8).getD {} = {} := by decide +kernel
    have hstart : mixed.find (Path.join ⟨"/work/src"⟩ fileName) = .ok (.directory []) :=
      FileTree.find_eq_follow (by decide +kernel)
        (by decide +kernel : _ = ["", "work", "src", fileName])
    have hnearest := (discover_nearest mixed ⟨"/work/src"⟩ Toml.parse?).2.1
    rw [hnearest 1 ⟨"/work"⟩ _ habove hcontent, hmalformed]
    intro k hk nearer other hnearer hother
    cases Nat.lt_one_iff.mp hk
    cases hnearer
    cases hstart.symm.trans hother
  · have hnone : mixed.NoneAbove ⟨"/home"⟩ := find?_ancestors_eq_none_iff.mp (by decide +kernel)
    have hhome : mixed.find ⟨"/home"⟩ = .ok (.directory home) :=
      FileTree.find_eq_follow (by decide +kernel) (by decide +kernel : _ = ["", "home"])
    have hone : mixed.find (Path.join (Path.join ⟨"/home"⟩ "one") fileName) =
        .ok (.directory []) :=
      FileTree.find_eq_follow (by decide +kernel)
        (by decide +kernel : _ = ["", "home", "one", fileName])
    have hcontent : mixed.find (Path.join (Path.join ⟨"/home"⟩ "two") fileName) =
        .ok (.file "[registry]\ndisabled = [\"Math\"]".toUTF8) :=
      FileTree.find_eq_follow (by decide +kernel)
        (by decide +kernel : _ = ["", "home", "two", fileName])
    have hsettings : (ofContent? "[registry]\ndisabled = [\"Math\"]".toUTF8).getD {} =
        { registry := some { disabled := some ["Math"] } } := by decide +kernel
    have hpath : Path.join ⟨"/home"⟩ "two" = ⟨"/home/two"⟩ := by decide +kernel
    have hbelow : mixed.IsBelow ⟨"/home"⟩ "two" :=
      ⟨home, _, hhome, List.mem_cons_of_mem _ List.mem_cons_self⟩
    have honly := ((discover_nearest mixed ⟨"/home"⟩ Toml.parse?).2.2.1 hnone).1
    rw [honly "two" _ hbelow hcontent, hsettings, hpath]
    rintro other content ⟨entries, inner, hentries, hother⟩ hread
    cases hhome.symm.trans hentries
    simp only [home, List.mem_cons, List.not_mem_nil, or_false, Prod.mk.injEq] at hother
    rcases hother with ⟨rfl, -⟩ | ⟨rfl, -⟩
    · cases hone.symm.trans hread
    · rfl
  · have hnone : mixed.NoneAbove ⟨"/home/one"⟩ := find?_ancestors_eq_none_iff.mp (by decide +kernel)
    have hstart : mixed.find ⟨"/home/one"⟩ = .ok (.directory [(fileName, .directory [])]) :=
      FileTree.find_eq_follow (by decide +kernel) (by decide +kernel : _ = ["", "home", "one"])
    have hinner : mixed.find (Path.join (Path.join ⟨"/home/one"⟩ fileName) fileName) =
        .error .notFound :=
      FileTree.find_eq_follow (by decide +kernel)
        (by decide +kernel : _ = ["", "home", "one", fileName, fileName])
    refine ((discover_nearest mixed ⟨"/home/one"⟩ Toml.parse?).2.2.1 hnone).2 ?_
    rintro name content ⟨entries, inner, hentries, hname⟩ hread
    cases hstart.symm.trans hentries
    cases List.mem_singleton.mp hname
    cases hinner.symm.trans hread

end Settings

end AutoItDocs
