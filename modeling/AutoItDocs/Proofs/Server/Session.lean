import AutoItDocs.Proofs.Server.View
import AutoItDocs.Proofs.Editor.Line
/-!
What a server answers about a document. Main statement: an answer depends on the catalog of the
session and on what the editor last said the text of the document to be, and on no other message.
-/
namespace AutoItDocs

/-- What a feature shows at a position of a text, as the value of an answer; null for a document
without a text. -/
inductive IsAnswer (catalog : Catalog) (position : Position) :
    Option String → Feature → Json → Prop where
  | unknown {feature : Feature} : IsAnswer catalog position none feature .null
  | hover {text : String} {shown : Option Editor.Hover} :
      Editor.hoverAt (.ofText text.toList) catalog position = .ok shown →
        IsAnswer catalog position (some text) .hover (.ofOption Editor.Hover.encode shown)
  | completion {text : String} {entries : Option (List CompletionEntry)} :
      Editor.completionAt (.ofText text.toList) catalog position = .ok entries →
        IsAnswer catalog position (some text) .completion
          (.ofOption (Json.ofList CompletionEntry.encode) entries)
  | signatureHelp {text : String} :
      IsAnswer catalog position (some text) .signatureHelp (.ofOption Editor.SignatureHelp.encode
        (Editor.signatureHelpAt? (.ofText text.toList) catalog position))

/-- A message that says nothing of the document, does not begin the session and does not end it: a
start request is one that comes behind another, and to shut down is one that comes before any. -/
structure IsIdle (uri : Uri) (front : List Message) (m : Message) : Prop where
  silent : m.told uri = none
  begun : m.begins → ∃ x ∈ front, x.begins
  unbegun : m.ends → ∀ x ∈ front, ¬ x.begins

variable {files : FileTree} {uri : Uri} {front : List Message} {m : Message} {catalog : Catalog}
  {position : Position} {feature : Feature} {text : Option String} {value value' : Json}

theorem IsAnswer.unique (h : IsAnswer catalog position text feature value)
    (h' : IsAnswer catalog position text feature value') : value = value' := by
  cases h with
  | unknown =>
    cases h'
    rfl
  | hover hshown =>
    cases h' with
    | hover hshown' => rw [Except.ok.inj (hshown.symm.trans hshown')]
  | completion hentries =>
    cases h' with
    | completion hentries' => rw [Except.ok.inj (hentries.symm.trans hentries')]
  | signatureHelp =>
    cases h'
    rfl

theorem IsIdle.ne_exit (h : IsIdle uri front m) : m ≠ .exit := by
  rintro rfl
  obtain ⟨x, hx, hbegins⟩ := h.begun rfl
  exact h.unbegun rfl x hx hbegins

/-- An idle message leaves what the session is to the document. -/
theorem IsIdle.next_eq (h : IsIdle uri front m) (files : FileTree) :
    (View.fresh.after files uri front).next files uri m = View.fresh.after files uri front := by
  cases hview : View.fresh.after files uri front with
  | fresh =>
    refine View.next_eq_fresh_iff.mpr ⟨rfl, fun hm => ?_⟩
    obtain ⟨x, hx, hbegins⟩ := h.begun hm
    exact View.after_eq_fresh_iff.mp hview x hx hbegins
  | serving catalog text =>
    have hm : ¬ m.ends := by
      intro hm
      rw [View.after_eq_fresh_iff.mpr (h.unbegun hm)] at hview
      cases hview
    exact View.next_eq_serving_iff.mpr (.inr ⟨text, rfl, hm, by rw [h.silent, Option.getD_none]⟩)
  | closing => exact if_neg h.ne_exit
  | exited => rfl

/-- The answer is about the catalog that is read from the cell. -/
theorem Backend.exists_ask (b : Backend) (feature : Feature) (uri : Uri) (position : Position) :
    ∃ value, (b.ask feature uri position).1 = .result value ∧
      IsAnswer b.read.1 position ((b.documents.get? uri).map Document.text) feature value := by
  rw [ask]
  cases b.documents.get? uri with
  | none => exact ⟨.null, rfl, .unknown⟩
  | some d =>
    have hindex : d.index = .ofText d.text.toList := by
      rw [Document.text, String.toList_ofList]
      exact d.index.eq_ofText
    cases feature with
    | hover =>
      obtain ⟨shown, hshown, -⟩ := Editor.exists_hoverAt_iff d.index b.read.1 position
      refine ⟨.ofOption Editor.Hover.encode shown, ?_, .hover (hindex ▸ hshown)⟩
      simp only [Session.answer, hshown, Session.replyWith]
    | completion =>
      obtain ⟨entries, hentries⟩ := Editor.exists_completionAt d.index b.read.1 position
      refine ⟨.ofOption (Json.ofList CompletionEntry.encode) entries, ?_,
        .completion (hindex ▸ hentries)⟩
      simp only [Session.answer, hentries, Session.replyWith]
    | signatureHelp =>
      refine ⟨_, ?_, .signatureHelp⟩
      simp only [Session.answer, hindex]

namespace Session

variable {s s' : Session}

theorem reply_of_view (h : s.view uri = .serving catalog text) (files : FileTree)
    (feature : Feature) (position : Position) :
    ∃ value, (s.step files (.ask feature uri position)).reply = .result value ∧
      IsAnswer catalog position text feature value := by
  obtain ⟨phase, backend⟩ := s
  cases phase with
  | serving =>
    cases h
    exact backend.exists_ask feature uri position
  | fresh | closing | exited => cases h

/-- Without being served there are no answers. -/
theorem view_of_reply (h : (s.step files (.ask feature uri position)).reply = .result value) :
    ∃ catalog text, s.view uri = .serving catalog text := by
  obtain ⟨phase, backend⟩ := s
  cases phase with
  | serving => exact ⟨_, _, rfl⟩
  | fresh | closing | exited => cases h

/-- Sessions that are the same to a document reply the same. -/
theorem reply_congr (h : s.view uri = s'.view uri) (files : FileTree) (feature : Feature)
    (position : Position) :
    (s.step files (.ask feature uri position)).reply =
      (s'.step files (.ask feature uri position)).reply := by
  cases hview : s.view uri with
  | serving catalog text =>
    obtain ⟨value, hvalue, hanswer⟩ := reply_of_view hview files feature position
    obtain ⟨value', hvalue', hanswer'⟩ := reply_of_view (h ▸ hview) files feature position
    rw [hvalue, hvalue', hanswer.unique hanswer']
  | fresh | closing | exited =>
    rw [hview] at h
    obtain ⟨phase, backend⟩ := s
    cases phase <;> cases hview
    obtain ⟨phase', backend'⟩ := s'
    cases phase' <;> cases h
    rfl

theorem run_getElem? (files : FileTree) (s : Session) (front : List Message) (m : Message)
    (back : List Message) :
    (run files s (front ++ m :: back))[front.length]? =
      some ((s.after files front).step files m) := by
  induction front generalizing s with
  | nil => rfl
  | cons x front ih => exact ih (s.step files x).session

/-- While a session is served, a document is answered by the catalog that its start request led to
and by the text that the document was last said to have, and at no other time; a message that is
idle for the document could be left out. -/
theorem reply_of_history (files : FileTree) (earlier later : List Message) (feature : Feature)
    (uri : Uri) (position : Position) :
    ∃ outcome, (run files .fresh (earlier ++ .ask feature uri position :: later))[earlier.length]? =
        some outcome ∧
      (∀ root since, IsServed earlier root since → ∃ value, outcome.reply = .result value ∧
        IsAnswer (catalogFor files root) position (textOf? uri since) feature value) ∧
      (∀ value, outcome.reply = .result value → ∃ root since, IsServed earlier root since) ∧
      ∀ front m back later', earlier = front ++ m :: back → IsIdle uri front m →
        (run files .fresh (front ++ back ++ .ask feature uri position :: later'))[
          (front ++ back).length]?.map Outcome.reply = some outcome.reply := by
  refine ⟨_, run_getElem? files .fresh earlier _ later, ?_, ?_, ?_⟩
  · intro root since hserved
    exact reply_of_view (view_of_isServed hserved files uri) files feature position
  · intro value hvalue
    obtain ⟨catalog, text, hserving⟩ := view_of_reply hvalue
    exact isServed_of_view hserving
  · rintro front m back later' rfl hidle
    have hview := view_after isUntouched_fresh files uri (front ++ m :: back)
    have hview' := view_after isUntouched_fresh files uri (front ++ back)
    have hsame : View.fresh.after files uri (front ++ m :: back) =
        View.fresh.after files uri (front ++ back) := by
      rw [View.after, View.after, List.foldl_append, List.foldl_append, List.foldl_cons]
      exact congrArg (List.foldl _ · back) (hidle.next_eq files)
    rw [run_getElem?, Option.map_some, Option.some.injEq]
    exact reply_congr (hview'.trans (hsame.symm.trans hview.symm)) files feature position

def untitled (name : String) : Uri := { scheme := "untitled", path := .plain name }

/-- What comes before the session is served, another document, a change without texts and a second
start request. -/
theorem reply_of_history_typed :
    let front := [.opened (untitled "1") "_Min (" 1, .start none, .opened (untitled "2") "" 1,
      .changed (untitled "1") ["_Max (", "_Min ("] 2, .changed (untitled "1") [] 3]
    let ask := Message.ask .signatureHelp (untitled "1") ⟨0, 6⟩
    let reply := Reply.result (.ofOption Editor.SignatureHelp.encode
      (Editor.signatureHelpAt? (.ofText "_Max (".toList) (catalogFor .empty none) ⟨0, 6⟩))
    (run .empty .fresh (front ++ [.start none] ++ [ask]))[6]?.map Outcome.reply = some reply ∧
      (run .empty .fresh (front ++ [ask]))[5]?.map Outcome.reply = some reply := by
  intro front ask reply
  obtain ⟨outcome, houtcome, hserved, -, hidle⟩ := reply_of_history .empty
    (front ++ [.start none]) [] .signatureHelp (untitled "1") ⟨0, 6⟩
  have hbegun : IsServed (front ++ [.start none]) none [.opened (untitled "2") "" 1,
      .changed (untitled "1") ["_Max (", "_Min ("] 2, .changed (untitled "1") [] 3, .start none] :=
    @IsServed.since [.opened (untitled "1") "_Min (" 1] _ none (by simp [Message.begins])
      (by simp [Message.ends])
  have htext : textOf? (untitled "1") [.opened (untitled "2") "" 1,
      .changed (untitled "1") ["_Max (", "_Min ("] 2, .changed (untitled "1") [] 3, .start none] =
        some "_Max (" := by decide
  obtain ⟨value, hvalue, hanswer⟩ := hserved none _ hbegun
  rw [htext] at hanswer
  have hreply : outcome.reply = reply := by rw [hvalue, hanswer.unique .signatureHelp]
  have hstart : IsIdle (untitled "1") front (.start none) :=
    ⟨rfl, fun _ => ⟨.start none, by simp [front], rfl⟩, by simp [Message.ends]⟩
  have hwithout := hidle front (.start none) [] [] rfl hstart
  rw [hreply, List.append_nil] at hwithout
  rw [← hreply]
  exact ⟨congrArg (Option.map Outcome.reply) houtcome, hreply ▸ hwithout⟩

end Session

end AutoItDocs
