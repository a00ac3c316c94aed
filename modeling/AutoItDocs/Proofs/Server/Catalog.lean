import AutoItDocs.Proofs.Server.View
import AutoItDocs.Proofs.Settings.Catalog
import AutoItDocs.Proofs.Settings.Discovery
/-!
The catalog that a session is served with. It comes from the settings that are found for the
directory of the start request, is put into the cell then and stays there, so that a look into the
cell of a session that is served never finds it empty.
-/
namespace AutoItDocs

variable {files : FileTree} {m : Message} {messages before since : List Message}
  {root : Option Path} {start directory : Path} {content : ByteArray} {catalog : Catalog}
  {b : Backend} {s : Session}

namespace Backend

theorem cell_fill (h : b.cell = some catalog) (other : Catalog) :
    (b.fill other).cell = some catalog := by
  rw [fill, h, Option.some_or]

theorem ask_of_cell (h : b.cell = some catalog) (feature : Feature) (uri : Uri)
    (position : Position) : (b.ask feature uri position).2 = b := by
  rcases b.ask_cases feature uri position with hsame | hread
  · exact hsame
  · rw [hread, read_of_cell h]

end Backend

namespace Session

/-- Before the start request nothing changes. -/
theorem step_fresh (h : ¬ m.begins) (files : FileTree) : (fresh.step files m).session = fresh := by
  cases m with
  | start | exit => exact absurd rfl h
  | _ => rfl

theorem after_append (files : FileTree) (s : Session) (front back : List Message) :
    s.after files (front ++ back) = (s.after files front).after files back :=
  List.foldl_append

theorem after_fresh (h : ∀ m ∈ messages, ¬ m.begins) (files : FileTree) :
    after files fresh messages = fresh := by
  induction messages with
  | nil => rfl
  | cons m messages ih =>
    rw [List.forall_mem_cons] at h
    rw [after, List.foldl_cons, step_fresh h.1]
    exact ih h.2

/-- No message takes the catalog out of the cell or puts another one in its place. -/
theorem cell_step (h : s.backend.cell = some catalog) (files : FileTree) (m : Message) :
    (s.step files m).session.backend.cell = some catalog := by
  obtain ⟨phase, backend⟩ := s
  cases phase with
  | fresh =>
    cases m with
    | start root => exact Backend.cell_fill h _
    | _ => exact h
  | serving =>
    cases m with
    | started => exact Backend.cell_fill h _
    | shutDown wellFormed => cases wellFormed <;> exact h
    | ask feature uri position =>
      exact (congrArg Backend.cell (Backend.ask_of_cell h feature uri position)).trans h
    | _ => exact h
  | closing => cases m <;> exact h
  | exited => exact h

theorem cell_after (h : s.backend.cell = some catalog) (files : FileTree)
    (messages : List Message) : (s.after files messages).backend.cell = some catalog := by
  induction messages generalizing s with
  | nil => exact h
  | cons m messages ih => exact ih (cell_step h files m)

/-- The start request fills the cell, for as long as the session lasts and beyond. -/
theorem cell_after_start (hbefore : ∀ m ∈ before, ¬ m.begins) (files : FileTree)
    (root : Option Path) (since : List Message) :
    (after files fresh (before ++ .start root :: since)).backend.cell =
      some (catalogFor files root) := by
  have hstart : (fresh.step files (.start root)).session.backend.cell =
      some (catalogFor files root) := rfl
  rw [after_append, after_fresh hbefore]
  exact cell_after hstart files since

/-- A session that is served has the catalog of its start request, and the documents have the texts
that they were last said to have. -/
theorem after_of_isServed (h : IsServed messages root since) (files : FileTree) :
    ∃ documents, after files fresh messages =
        ⟨.serving, ⟨some (catalogFor files root), documents⟩⟩ ∧
      ∀ uri, (documents.get? uri).map Document.text = textOf? uri since := by
  have hview := view_of_isServed h files
  have hcell : (after files fresh messages).backend.cell = some (catalogFor files root) := by
    obtain ⟨hbefore, -⟩ := h
    exact cell_after_start hbefore files root _
  generalize after files fresh messages = s at hcell hview ⊢
  obtain ⟨phase, cell, documents⟩ := s
  obtain rfl : cell = some (catalogFor files root) := hcell
  cases phase with
  | serving => exact ⟨documents, rfl, fun uri => (View.serving.inj (hview uri)).2⟩
  | fresh | closing | exited => cases hview default

/-- Whenever the catalog of a session is looked at, it has been put into the cell by the start
request: the bundled catalog is not built in its place. -/
theorem read_of_serving (h : (after files fresh messages).phase = .serving) :
    ∃ root since, IsServed messages root since ∧
      (after files fresh messages).backend.read =
        (catalogFor files root, (after files fresh messages).backend) := by
  have hview : ∃ catalog text, (after files fresh messages).view default = .serving catalog text :=
    ⟨_, _, by rw [view, h]⟩
  obtain ⟨catalog, text, hview⟩ := hview
  obtain ⟨root, since, hserved⟩ := isServed_of_view hview
  obtain ⟨documents, hafter, -⟩ := after_of_isServed hserved files
  refine ⟨root, since, hserved, Backend.read_of_cell ?_⟩
  rw [hafter]

/-! Which catalog the start request leads to. -/

theorem catalogFor_none (files : FileTree) : catalogFor files none = Catalog.bundled := rfl

/-- The settings file of the start directory or of the nearest directory above it that has one. -/
theorem catalogFor_of_above {n : Nat} (habove : start.above? n = some directory)
    (hcontent : files.HasSettings directory content)
    (hnearest : ∀ k < n, ∀ nearer other,
      start.above? k = some nearer → ¬ files.HasSettings nearer other) :
    catalogFor files (some start) =
      ((Settings.ofContent? content).getD {}).catalog directory files := by
  rw [catalogFor, Settings.discover_of_above habove hcontent hnearest]

theorem catalogFor_of_below {name : String} (hnone : files.NoneAbove start)
    (hbelow : files.IsBelow start name) (hcontent : files.HasSettings (start.join name) content)
    (honly : ∀ other content, files.IsBelow start other →
      files.HasSettings (start.join other) content → other = name) :
    catalogFor files (some start) =
      ((Settings.ofContent? content).getD {}).catalog (start.join name) files := by
  rw [catalogFor, Settings.discover_of_below hnone hbelow hcontent honly]

/-- Without a settings file the catalog is that of a session without a directory. -/
theorem catalogFor_of_none (hnone : files.NoneAbove start)
    (hbelow : ∀ name content, files.IsBelow start name →
      ¬ files.HasSettings (start.join name) content) :
    catalogFor files (some start) = Catalog.bundled := by
  rw [catalogFor, Settings.discover_of_none hnone hbelow]
  exact Settings.catalog_default start files Toml.parse?

/-- The settings that a session goes by: what a settings file holds that is considered for its
directory, or the default settings where there is none. -/
inductive GoesBy (files : FileTree) : Option Path → Settings → Path → Prop where
  | file {start directory : Path} {content : ByteArray} : files.IsConsidered start directory →
      files.HasSettings directory content →
        GoesBy files (some start) ((Settings.ofContent? content).getD {}) directory
  | default {start : Path} : (∀ directory content, files.IsConsidered start directory →
      ¬ files.HasSettings directory content) → GoesBy files (some start) {} start
  | nowhere {directory : Path} : GoesBy files none {} directory

theorem goesBy_discover (files : FileTree) (start : Path) :
    GoesBy files (some start) (Settings.discover files start).1
      (Settings.discover files start).2 := by
  cases hdirectory : Settings.directoryFor? files start with
  | none =>
    rw [Settings.discover, hdirectory]
    exact .default fun _ _ => Settings.not_hasSettings_of_directoryFor? hdirectory
  | some directory =>
    obtain ⟨hconsidered, content, hcontent⟩ := Settings.isConsidered_of_directoryFor? hdirectory
    rw [Settings.discover_of_directoryFor? hdirectory hcontent]
    exact .file hconsidered hcontent

/-- A session that is served has the catalog of one build in its cell, of the bundled modules that
its settings leave and of the module files that they list. -/
theorem exists_build_of_isServed (h : IsServed messages root since) (files : FileTree) :
    ∃ settings directory documents catalog, GoesBy files root settings directory ∧
      Catalog.build settings.policy.settled
        (settings.enabledModules ++ settings.loadedModules directory files) = .ok catalog ∧
      after files fresh messages = ⟨.serving, ⟨some catalog, documents⟩⟩ := by
  obtain ⟨documents, hafter, -⟩ := after_of_isServed h files
  cases root with
  | none =>
    refine ⟨{}, default, documents, _, .nowhere, ?_, hafter⟩
    rw [catalogFor_none, ← Settings.catalog_default default files Toml.parse?]
    exact Settings.build_settled _ _ _ _
  | some start =>
    exact ⟨_, _, documents, _, goesBy_discover files start,
      Settings.build_settled _ _ files Toml.parse?, hafter⟩

end Session

end AutoItDocs
