import AutoItDocs.Server.Session
import Mathlib.Data.List.Induction
/-!
A session as one document sees it. All that counts is whether the session is being served, with
which catalog, and what the editor last said the text of the document to be; this can be followed
from message to message without the other documents, and read off the messages as a whole. A start
request finds a backend into which nothing has been put; that is kept by every message before it.
-/
namespace AutoItDocs

/-- A message that a session reacts to before it is served. -/
def Message.begins : Message → Bool
  | .start _ | .exit => true
  | _ => false

/-- A message after which a session is not served any more. -/
def Message.ends : Message → Bool
  | .shutDown _ | .shutDownNotice | .exit => true
  | _ => false

/-- What a message says about a document: its new text, or that it has none any more. -/
def Message.told (uri : Uri) : Message → Option (Option String)
  | .opened other text _ => if uri = other then some (some text) else none
  | .changed other (text :: _) _ => if uri = other then some (some text) else none
  | .closed other => if uri = other then some none else none
  | _ => none

/-- The text of a document is what it was last said to be. -/
def textOf? (uri : Uri) (messages : List Message) : Option String :=
  (messages.filterMap (Message.told uri)).getLast?.join

/-- The session is served since the start request that comes before the messages `since`. -/
inductive IsServed : List Message → Option Path → List Message → Prop where
  | since {before since : List Message} {root : Option Path} : (∀ m ∈ before, ¬ m.begins) →
      (∀ m ∈ since, ¬ m.ends) → IsServed (before ++ .start root :: since) root since

/-- A session with one document, and the text of it if the document is open. -/
inductive View where
  | fresh
  | serving (catalog : Catalog) (text : Option String)
  | closing
  | exited

variable {files : FileTree} {uri : Uri} {v : View} {m : Message} {messages since : List Message}
  {root : Option Path} {catalog : Catalog} {text : Option String}

theorem textOf?_concat (uri : Uri) (messages : List Message) (m : Message) :
    textOf? uri (messages ++ [m]) = (m.told uri).getD (textOf? uri messages) := by
  rw [textOf?, List.filterMap_append]
  cases htold : m.told uri with
  | none => simp [htold, textOf?]
  | some text => simp [htold]

theorem not_isServed_nil : ¬ IsServed [] root since := by
  intro h
  generalize hnil : ([] : List Message) = messages at h
  cases h
  simp at hnil

theorem isServed_concat_iff :
    IsServed (messages ++ [m]) root since ↔
      (since = [] ∧ m = .start root ∧ ∀ x ∈ messages, ¬ x.begins) ∨
        ∃ rest, since = rest ++ [m] ∧ IsServed messages root rest ∧ ¬ m.ends := by
  constructor
  · intro h
    generalize hall : messages ++ [m] = all at h
    obtain @⟨before, _, _, hbefore, hsince⟩ := h
    cases since using List.reverseRecOn with
    | nil =>
      obtain ⟨rfl, hm⟩ := List.append_inj' hall rfl
      exact .inl ⟨rfl, (List.cons.inj hm).1, hbefore⟩
    | append_singleton rest last =>
      rw [← List.cons_append, ← List.append_assoc] at hall
      obtain ⟨rfl, hm⟩ := List.append_inj' hall rfl
      obtain rfl := (List.cons.inj hm).1
      rw [List.forall_mem_append] at hsince
      exact .inr ⟨rest, rfl, .since hbefore hsince.1, hsince.2 m List.mem_cons_self⟩
  · rintro (⟨rfl, rfl, hbefore⟩ | ⟨rest, rfl, ⟨hbefore, hsince⟩, hm⟩)
    · exact .since hbefore (by simp)
    · rw [List.append_assoc, List.cons_append]
      refine .since hbefore ?_
      rw [List.forall_mem_append]
      exact ⟨hsince, by simpa using hm⟩

namespace View

/-- What a message makes of a session, as one document sees it. -/
def next (files : FileTree) (uri : Uri) : View → Message → View
  | .fresh, .start root => .serving (Session.catalogFor files root) none
  | .fresh, .exit => .exited
  | .fresh, _ => .fresh
  | .serving catalog text, m =>
    if m = .exit then .exited else if m.ends then .closing
    else .serving catalog ((m.told uri).getD text)
  | .closing, m => if m = .exit then .exited else .closing
  | .exited, _ => .exited

def after (files : FileTree) (uri : Uri) (v : View) (messages : List Message) : View :=
  messages.foldl (next files uri) v

theorem next_eq_fresh_iff : v.next files uri m = .fresh ↔ v = .fresh ∧ ¬ m.begins := by
  cases v with
  | fresh => cases m <;> simp [next, Message.begins]
  | serving catalog text =>
    rw [next]
    split_ifs <;> simp
  | closing =>
    rw [next]
    split_ifs <;> simp
  | exited => simp [next]

theorem next_eq_serving_iff :
    v.next files uri m = .serving catalog text ↔
      (v = .fresh ∧ ∃ root, m = .start root ∧ catalog = Session.catalogFor files root ∧
        text = none) ∨
        ∃ old, v = .serving catalog old ∧ ¬ m.ends ∧ text = (m.told uri).getD old := by
  cases v with
  | fresh => cases m <;> simp [next, eq_comm (a := catalog), eq_comm (a := text)]
  | serving catalog' text' =>
    have hexit : m = .exit → m.ends = true := by
      rintro rfl
      rfl
    rw [next]
    split_ifs with h h'
    · simp [hexit h]
    · simp [h']
    · simp [h', eq_comm (a := text)]
  | closing =>
    rw [next]
    split_ifs <;> simp
  | exited => simp [next]

theorem after_concat (files : FileTree) (uri : Uri) (v : View) (messages : List Message)
    (m : Message) :
    v.after files uri (messages ++ [m]) = (v.after files uri messages).next files uri m := by
  rw [after, List.foldl_append]
  rfl

theorem after_eq_fresh_iff :
    fresh.after files uri messages = .fresh ↔ ∀ m ∈ messages, ¬ m.begins := by
  induction messages using List.reverseRecOn with
  | nil => simp [after]
  | append_singleton messages m ih =>
    rw [after_concat, next_eq_fresh_iff, ih, List.forall_mem_append]
    simp

/-- What a session is to a document is a function of the messages. -/
theorem after_eq_serving_iff :
    fresh.after files uri messages = .serving catalog text ↔ ∃ root since,
      IsServed messages root since ∧ catalog = Session.catalogFor files root ∧
        text = textOf? uri since := by
  induction messages using List.reverseRecOn generalizing text with
  | nil =>
    refine iff_of_false nofun ?_
    rintro ⟨root, since, hserved, -⟩
    exact not_isServed_nil hserved
  | append_singleton messages m ih =>
    -- The last message is the start request itself, or one that came while the session was served.
    rw [after_concat, next_eq_serving_iff, after_eq_fresh_iff]
    simp only [ih, isServed_concat_iff]
    constructor
    · rintro (⟨hbefore, root, rfl, rfl, rfl⟩ | ⟨_, ⟨root, since, hserved, rfl, rfl⟩, hm, rfl⟩)
      · exact ⟨root, [], .inl ⟨rfl, rfl, hbefore⟩, rfl, rfl⟩
      · refine ⟨root, since ++ [m], .inr ⟨since, rfl, hserved, hm⟩, rfl, ?_⟩
        rw [textOf?_concat]
    · rintro ⟨root, _, ⟨rfl, rfl, hbefore⟩ | ⟨since, rfl, hserved, hm⟩, rfl, rfl⟩
      · exact .inl ⟨hbefore, root, rfl, rfl, rfl⟩
      · refine .inr ⟨_, ⟨root, since, hserved, rfl, rfl⟩, hm, ?_⟩
        rw [textOf?_concat]

end View

namespace Backend

variable {b : Backend}

theorem read_of_cell (h : b.cell = some catalog) : b.read = (catalog, b) := by
  obtain ⟨cell, documents⟩ := b
  subst h
  rfl

theorem cell_read (b : Backend) : b.read.2.cell = some b.read.1 := by
  rw [read, fill]
  cases b.cell with
  | none => rw [Option.none_or]
  | some catalog => rw [Option.some_or, Option.getD_some]

/-- A second look finds the same catalog. -/
theorem read_read (b : Backend) : b.read.2.read.1 = b.read.1 := by
  rw [read_of_cell b.cell_read]

theorem ask_cases (b : Backend) (feature : Feature) (uri : Uri) (position : Position) :
    (b.ask feature uri position).2 = b ∨ (b.ask feature uri position).2 = b.read.2 := by
  rw [ask]
  cases b.documents.get? uri with
  | none => exact .inl rfl
  | some d => exact .inr rfl

end Backend

namespace Session

/-- What a session is to a document. -/
def view (uri : Uri) (s : Session) : View :=
  match s.phase with
  | .fresh => .fresh
  | .serving => .serving s.backend.read.1 ((s.backend.documents.get? uri).map Document.text)
  | .closing => .closing
  | .exited => .exited

/-- Nothing is kept before the start request. -/
def IsUntouched (s : Session) : Prop := s.phase = .fresh → s.backend = {}

theorem text_openText (documents : Documents) (uri other : Uri) (text : String) (version : Int) :
    ((documents.openText other text version).get? uri).map Document.text =
      if uri = other then some text else (documents.get? uri).map Document.text := by
  rw [Documents.get?_openText]
  split <;> simp [Document.text, Document.ofText, LineIndex.ofText]

theorem text_updateDocuments (documents : Documents) (uri : Uri) (m : Message) :
    ((updateDocuments documents m).get? uri).map Document.text =
      (m.told uri).getD ((documents.get? uri).map Document.text) := by
  cases m with
  | opened other text version =>
    rw [updateDocuments, text_openText, Message.told]
    split <;> rfl
  | changed other texts version =>
    cases texts with
    | nil => rfl
    | cons text texts =>
      rw [updateDocuments, text_openText, Message.told]
      split <;> rfl
  | closed other =>
    rw [updateDocuments, Documents.get?_close, Message.told]
    split <;> rfl
  | _ => rfl

theorem isUntouched_fresh : fresh.IsUntouched := fun _ => rfl

theorem IsUntouched.step {s : Session} (h : s.IsUntouched) (files : FileTree) (m : Message) :
    (s.step files m).session.IsUntouched := by
  obtain ⟨phase, backend⟩ := s
  intro hphase
  cases phase with
  | fresh =>
    cases m with
    | start | exit => cases hphase
    | _ => exact h rfl
  | serving =>
    cases m with
    | shutDown wellFormed => cases wellFormed <;> cases hphase
    | _ => cases hphase
  | closing => cases m <;> cases hphase
  | exited => cases hphase

/-- One message changes what a session is to a document as `View.next` says. -/
theorem view_step {s : Session} (h : s.IsUntouched) (files : FileTree) (uri : Uri) (m : Message) :
    (s.step files m).session.view uri = (s.view uri).next files uri m := by
  obtain ⟨phase, backend⟩ := s
  cases phase with
  | fresh =>
    obtain rfl : backend = {} := h rfl
    cases m <;> rfl
  | serving =>
    have htext := congrArg (View.serving backend.read.1)
      (text_updateDocuments backend.documents uri m)
    have hread := congrArg
      (View.serving · ((backend.documents.get? uri).map Document.text)) backend.read_read
    cases m with
    | opened | changed | closed => exact htext
    | shutDown wellFormed => cases wellFormed <;> rfl
    | started => exact hread
    | ask feature other position =>
      change view uri ⟨.serving, (backend.ask feature other position).2⟩ = _
      rcases backend.ask_cases feature other position with hsame | hread'
      · rw [hsame]
        rfl
      · rw [hread']
        exact hread
    | _ => rfl
  | closing => cases m <;> rfl
  | exited => rfl

theorem view_after {s : Session} (h : s.IsUntouched) (files : FileTree) (uri : Uri)
    (messages : List Message) :
    (s.after files messages).view uri = (s.view uri).after files uri messages := by
  induction messages generalizing s with
  | nil => rfl
  | cons m messages ih =>
    change ((s.step files m).session.after files messages).view uri =
      ((s.view uri).next files uri m).after files uri messages
    rw [ih (h.step files m), view_step h]

theorem view_of_isServed (h : IsServed messages root since) (files : FileTree) (uri : Uri) :
    (after files fresh messages).view uri =
      .serving (catalogFor files root) (textOf? uri since) := by
  rw [view_after isUntouched_fresh]
  exact View.after_eq_serving_iff.mpr ⟨root, since, h, rfl, rfl⟩

/-- A session serves a document only after its start request. -/
theorem isServed_of_view (h : (after files fresh messages).view uri = .serving catalog text) :
    ∃ root since, IsServed messages root since := by
  rw [view_after isUntouched_fresh] at h
  obtain ⟨root, since, hserved, -⟩ := View.after_eq_serving_iff.mp h
  exact ⟨root, since, hserved⟩

end Session

end AutoItDocs
