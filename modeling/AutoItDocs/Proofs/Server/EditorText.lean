import AutoItDocs.Proofs.Server.Session
import AutoItDocs.Proofs.Server.Catalog
/-!
The text of a document in the editor, where each new text of a change replaces the one before it.
Main statement: a session serves the text that the editor has, unless the last change of the
document came with several texts, of which the session keeps the first and the editor the last.
-/
namespace AutoItDocs

/-- What a message makes of the text that a document has in the editor. -/
def Message.edit (uri : Uri) (text : Option String) : Message → Option String
  | .opened other new _ => if uri = other then some new else text
  | .changed other texts _ =>
    if uri = other then texts.foldl (fun _ new => some new) text else text
  | .closed other => if uri = other then none else text
  | _ => text

/-- The text of a document in the editor, if it is open there. -/
def editorText? (uri : Uri) (messages : List Message) : Option String :=
  messages.foldl (Message.edit uri) none

/-- What was last said about a document is a change with these texts. -/
structure EndsInChange (uri : Uri) (messages : List Message) (texts : List String) : Prop where
  ne_nil : texts ≠ []
  last : ∃ front version back, messages = front ++ .changed uri texts version :: back ∧
    ∀ m ∈ back, m.told uri = none

variable {uri : Uri} {m : Message} {messages since : List Message} {texts : List String}
  {text : Option String} {root : Option Path}

theorem editorText?_concat (uri : Uri) (messages : List Message) (m : Message) :
    editorText? uri (messages ++ [m]) = m.edit uri (editorText? uri messages) := by
  rw [editorText?, List.foldl_append]
  rfl

theorem foldl_some (texts : List String) (text : Option String) :
    texts.foldl (fun _ new => some new) text = texts.getLast?.or text := by
  induction texts generalizing text with
  | nil => rfl
  | cons new texts ih =>
    rw [List.foldl_cons, ih, List.getLast?_cons]
    cases texts.getLast? <;> rfl

namespace Message

theorem edit_of_told_eq_none (h : m.told uri = none) (text : Option String) :
    m.edit uri text = text := by
  cases m with
  | opened other new version =>
    have hother : uri ≠ other := by simpa [told] using h
    exact if_neg hother
  | changed other texts version =>
    cases texts with
    | nil => exact ite_self text
    | cons new texts =>
      have hother : uri ≠ other := by simpa [told] using h
      exact if_neg hother
  | closed other =>
    have hother : uri ≠ other := by simpa [told] using h
    exact if_neg hother
  | _ => rfl

/-- A message about a document is a change of it, or the editor and a session take it alike. -/
theorem edit_cases (h : m.told uri = some text) :
    (∃ texts version, m = .changed uri texts version ∧ texts ≠ [] ∧ text = texts.head?) ∨
      ∀ old, m.edit uri old = text := by
  cases m with
  | opened other new version =>
    obtain ⟨rfl, rfl⟩ : uri = other ∧ some new = text := by simpa [told] using h
    exact .inr fun old => if_pos rfl
  | changed other texts version =>
    cases texts with
    | nil => cases h
    | cons new texts =>
      obtain ⟨rfl, rfl⟩ : uri = other ∧ some new = text := by simpa [told] using h
      exact .inl ⟨_, version, rfl, List.cons_ne_nil new texts, rfl⟩
  | closed other =>
    obtain ⟨rfl, rfl⟩ : uri = other ∧ none = text := by simpa [told] using h
    exact .inr fun old => if_pos rfl
  | _ => cases h

end Message

theorem textOf?_append_of_silent {back : List Message} (h : ∀ m ∈ back, m.told uri = none)
    (front : List Message) : textOf? uri (front ++ back) = textOf? uri front := by
  have hback : back.filterMap (Message.told uri) = [] := List.filterMap_eq_nil_iff.mpr h
  rw [textOf?, List.filterMap_append, hback, List.append_nil]
  rfl

theorem editorText?_append_of_silent {back : List Message} (h : ∀ m ∈ back, m.told uri = none)
    (front : List Message) : editorText? uri (front ++ back) = editorText? uri front := by
  induction back generalizing front with
  | nil => rw [List.append_nil]
  | cons m back ih =>
    rw [List.forall_mem_cons] at h
    rw [List.append_cons, ih h.2, editorText?_concat, Message.edit_of_told_eq_none h.1]

theorem edit_changed (hne : texts ≠ []) (uri : Uri) (version : Int) (text : Option String) :
    (Message.changed uri texts version).edit uri text = texts.getLast? := by
  rw [Message.edit, if_pos rfl, foldl_some, Option.or_of_isSome]
  simpa using hne

namespace EndsInChange

theorem textOf?_eq (h : EndsInChange uri messages texts) : textOf? uri messages = texts.head? := by
  obtain ⟨hne, front, version, back, rfl, hback⟩ := h
  obtain ⟨text, texts, rfl⟩ := List.exists_cons_of_ne_nil hne
  rw [List.append_cons, textOf?_append_of_silent hback, textOf?_concat, Message.told, if_pos rfl]
  rfl

theorem editorText?_eq (h : EndsInChange uri messages texts) :
    editorText? uri messages = texts.getLast? := by
  obtain ⟨hne, front, version, back, rfl, hback⟩ := h
  rw [List.append_cons, editorText?_append_of_silent hback, editorText?_concat, edit_changed hne]

theorem concat (h : EndsInChange uri messages texts) (hm : m.told uri = none) :
    EndsInChange uri (messages ++ [m]) texts := by
  obtain ⟨hne, front, version, back, rfl, hback⟩ := h
  refine ⟨hne, front, version, back ++ [m], by simp, ?_⟩
  rw [List.forall_mem_append]
  exact ⟨hback, by simpa using hm⟩

end EndsInChange

/-- If what was last said about the document is a change, its first text is its last one too. -/
def IsUpToDate (uri : Uri) (messages : List Message) : Prop :=
  ∀ texts, EndsInChange uri messages texts → texts.head? = texts.getLast?

theorem textOf?_eq_of_isUpToDate (h : IsUpToDate uri messages) :
    textOf? uri messages = editorText? uri messages := by
  induction messages using List.reverseRecOn with
  | nil => rfl
  | append_singleton messages m ih =>
    rw [textOf?_concat, editorText?_concat]
    cases htold : m.told uri with
    | none =>
      rw [Message.edit_of_told_eq_none htold, Option.getD_none]
      exact ih fun texts hchange => h texts (hchange.concat htold)
    | some text =>
      rw [Option.getD_some]
      rcases Message.edit_cases htold with ⟨texts, version, rfl, hne, rfl⟩ | hedit
      · rw [edit_changed hne]
        exact h texts ⟨hne, messages, version, [], rfl, by simp⟩
      · rw [hedit]

/-- The first of several texts is not the one that the editor goes on with. -/
theorem textOf?_eq_editorText?_iff :
    textOf? uri messages = editorText? uri messages ↔ IsUpToDate uri messages := by
  refine ⟨fun h texts hchange => ?_, textOf?_eq_of_isUpToDate⟩
  rwa [← hchange.textOf?_eq, ← hchange.editorText?_eq]

theorem isSome_textOf?_iff :
    (textOf? uri messages).isSome ↔ (editorText? uri messages).isSome := by
  by_cases h : IsUpToDate uri messages
  · rw [textOf?_eq_of_isUpToDate h]
  · simp only [IsUpToDate, not_forall] at h
    obtain ⟨texts, hchange, -⟩ := h
    rw [hchange.textOf?_eq, hchange.editorText?_eq, List.isSome_head?, List.getLast?_isSome]

namespace Session

/-- While a session is served it has the documents that the editor has open. It answers from the
text that a document has in the editor just when the last change of the document has that text
first; else it answers from the first text, where the editor has the last. -/
theorem text_eq_editorText_iff (files : FileTree) (uri : Uri) (h : IsServed messages root since) :
    ∃ documents, after files .fresh messages =
        ⟨.serving, ⟨some (catalogFor files root), documents⟩⟩ ∧
      ((documents.get? uri).isSome ↔ (editorText? uri since).isSome) ∧
      (∀ texts, EndsInChange uri since texts →
        (documents.get? uri).map Document.text = texts.head? ∧
          editorText? uri since = texts.getLast?) ∧
      ((documents.get? uri).map Document.text = editorText? uri since ↔ IsUpToDate uri since) ∧
      (IsUpToDate uri since → ∀ feature position, ∃ value,
        ((after files .fresh messages).step files (.ask feature uri position)).reply =
            .result value ∧
          IsAnswer (catalogFor files root) position (editorText? uri since) feature value) := by
  obtain ⟨documents, hdocuments, htext⟩ := after_of_isServed h files
  refine ⟨documents, hdocuments, ?_, fun texts hchange => ?_, ?_, fun hdate feature position => ?_⟩
  · rw [← isSome_textOf?_iff, ← htext uri, Option.isSome_map]
  · exact ⟨(htext uri).trans hchange.textOf?_eq, hchange.editorText?_eq⟩
  · rw [htext, textOf?_eq_editorText?_iff]
  · rw [← textOf?_eq_of_isUpToDate hdate]
    exact reply_of_view (view_of_isServed h files uri) files feature position

/-- A change with two texts. -/
def batched : List Message :=
  [.opened (untitled "1") "_Max(" 1, .changed (untitled "1") ["_Max(1", "_Max(1, "] 2]

/-- One more change makes up for it. -/
def caughtUp : List Message := batched ++ [.changed (untitled "1") ["_Max(1, 2"] 3]

theorem text_eq_editorText_iff_caughtUp :
    IsServed (.start none :: caughtUp) none caughtUp ∧
      ∃ documents, after .empty .fresh (.start none :: caughtUp) =
          ⟨.serving, ⟨some (catalogFor .empty none), documents⟩⟩ ∧
        (documents.get? (untitled "1")).map Document.text = some "_Max(1, 2" ∧
        editorText? (untitled "1") caughtUp = some "_Max(1, 2" := by
  have hserved : IsServed (.start none :: caughtUp) none caughtUp :=
    @IsServed.since [] _ none (by simp) (by simp [caughtUp, batched, Message.ends])
  obtain ⟨documents, hdocuments, -, hchange, -⟩ :=
    text_eq_editorText_iff .empty (untitled "1") hserved
  obtain ⟨htext, heditor⟩ := hchange ["_Max(1, 2"] ⟨by simp, batched, 3, [], rfl, by simp⟩
  exact ⟨hserved, documents, hdocuments, htext, heditor⟩

/-- Of the two texts the session serves the one that the editor has replaced. -/
theorem text_ne_editorText_batched :
    IsServed (.start none :: batched) none batched ∧
      ∃ documents, after .empty .fresh (.start none :: batched) =
          ⟨.serving, ⟨some (catalogFor .empty none), documents⟩⟩ ∧
        (documents.get? (untitled "1")).map Document.text = some "_Max(1" ∧
        editorText? (untitled "1") batched = some "_Max(1, " := by
  refine ⟨@IsServed.since [] _ none (by simp) (by simp [batched, Message.ends]), _, rfl, ?_, ?_⟩
  · decide
  · decide

end Session

end AutoItDocs
