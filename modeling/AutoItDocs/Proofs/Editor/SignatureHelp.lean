import AutoItDocs.Editor.SignatureHelp
import AutoItDocs.Proofs.Script.Continuation
import AutoItDocs.Proofs.Editor.Hover
/-!
The text that signature help depends on. Main statements: it is the statement up to the cursor and
nothing else; a continued line and the next one help like the line that they make up, apart from a
parenthesis that comes first on the next line.
-/
namespace AutoItDocs.Editor

open Text Statement CallContext

/-- What an editor shows at the end of `before` in the document `before ++ after`. -/
def helpBehind (catalog : Catalog) (before after : List Char) : Option SignatureHelp :=
  let index := LineIndex.ofText (before ++ after)
  signatureHelpAt? index catalog (index.positionAt (byteLength before))

/-- What an editor shows for a call. -/
def helpFor (catalog : Catalog) (call : List Char × UInt32) : Option SignatureHelp :=
  (catalog.signature? (String.ofList call.1)).map (.ofSignature · call.2)

variable {before above statement a b : List Char}

theorem signatureHelpAt?_eq {index : LineIndex} {position : Position} {offset : Nat}
    (h : index.offsetAt? position = some offset) (catalog : Catalog) :
    signatureHelpAt? index catalog position =
      (callAt? index.text offset).bind (helpFor catalog) := by
  simp only [signatureHelpAt?, h, Option.bind_eq_bind, Option.bind_some]
  congr 1
  funext call
  exact Option.map_eq_bind.symm

theorem callAt?_eq (h : IsLast before above statement) (after : List Char) :
    callAt? (before ++ after) (byteLength before) = find? statement := by
  rw [callAt?, h.upTo_eq]

theorem signatureHelpAt?_eq_find? {index : LineIndex} {position : Position} {after : List Char}
    (h : IsLast before above statement) (htext : index.text = before ++ after)
    (hoffset : index.offsetAt? position = some (byteLength before)) (catalog : Catalog) :
    signatureHelpAt? index catalog position = (find? statement).bind (helpFor catalog) := by
  rw [signatureHelpAt?_eq hoffset, htext, callAt?_eq h]

theorem helpBehind_eq (h : IsLast before above statement) (catalog : Catalog) (after : List Char) :
    helpBehind catalog before after = (find? statement).bind (helpFor catalog) := by
  have hboundary : IsBoundary (before ++ after) (byteLength before) :=
    isBoundary_iff.mpr ⟨before, after, rfl, rfl⟩
  exact signatureHelpAt?_eq_find? h rfl (LineIndex.offsetAt?_positionAt_of_isBoundary hboundary) _

/-- Neither what stands above a statement, behind a line that is not continued, nor what follows the
cursor makes a difference. -/
theorem helpBehind_local (catalog : Catalog) (front statement after : List Char)
    (hended : ¬ IsContinued (lastLine front)) :
    helpBehind catalog (front ++ '\n' :: statement) after = helpBehind catalog statement [] := by
  obtain ⟨above, last, h⟩ := exists_isLast statement
  rw [helpBehind_eq (h.append_cons_of_ended fun _ => hended), helpBehind_eq h]

/-- Above, a literal and brackets are left open. -/
theorem helpBehind_local_unbalanced :
    ¬ IsContinued (lastLine ['f', '(', '[', '"']) ∧
      helpBehind documented (['f', '(', '[', '"'] ++ '\n' :: ['_', 'm', 'a', 'x', '(', 'a', ','])
          [')', '"'] =
        helpBehind documented ['_', 'm', 'a', 'x', '(', 'a', ','] [] := by
  have hended : ¬ IsContinued (lastLine ['f', '(', '[', '"']) := by decide
  exact ⟨hended, helpBehind_local documented _ _ _ hended⟩

/-- A line that the next one joins with a space, or with the end of a continued line in its place.
There is no difference, with two exceptions: a parenthesis that comes first on the next line is a
call of the underscore, where the cursor stands directly inside of it; and a blank line ends the
statement, which a marker before the space would lead on. -/
theorem helpBehind_lineEnd (catalog : Catalog) (h : IsLast a above statement)
    (hcode : Lexes statement .code) :
    (¬ CallsMarker b → ¬ (IsContinued (lastLine a) ∧ StartsBlank b) →
      helpBehind catalog (a ++ (lineEnd ++ b)) [] = helpBehind catalog (a ++ ' ' :: b) []) ∧
      (CallsMarker b → ∃ commas,
        helpBehind catalog (a ++ (lineEnd ++ b)) [] = helpFor catalog (['_'], commas)) ∧
      ∀ line rest, b = line ++ '\n' :: rest → (∀ c ∈ line, isBlank c) →
        helpBehind catalog (a ++ (lineEnd ++ b)) [] = helpBehind catalog rest [] := by
  refine ⟨fun hmarker hjoin => ?_, fun hmarker => ?_, fun line rest hb hblank => ?_⟩
  · rcases isLast_lineEnd_or_space h hjoin with ⟨hb, hleft, hright⟩ | ⟨_, _, last, hleft, hright⟩
    · have hliteral : OpensFirst b → ∃ quote, Lexes b (.literal quote) := by
        intro hopens
        by_contra hnone
        exact hmarker ⟨hopens, hb, not_exists.mp hnone⟩
      rw [helpBehind_eq hleft, helpBehind_eq hright, find?_append_lineEnd hcode hliteral]
    · rw [helpBehind_eq hleft, helpBehind_eq hright]
  · obtain ⟨commas, hcall⟩ := find?_append_lineEnd_of_callsMarker hcode hmarker
    refine ⟨commas, ?_⟩
    rw [helpBehind_eq (h.append_lineEnd hmarker.continues), hcall, Option.bind_some]
  · obtain ⟨_, last, hlast⟩ := exists_isLast rest
    have hended : ¬ IsContinued (lastLine (a ++ (lineEnd ++ line))) := by
      rw [lastLine_append_lineEnd]
      exact not_isContinued_of_blank fun c hc => hblank c (mem_of_mem_lastLine hc)
    have htext : a ++ (lineEnd ++ b) = a ++ (lineEnd ++ line) ++ '\n' :: rest := by simp [hb]
    rw [htext, helpBehind_eq (hlast.append_cons_of_ended fun _ => hended), helpBehind_eq hlast]

/-- On the next line, parentheses that are closed again, and one that is not. -/
theorem helpBehind_lineEnd_grouping :
    helpBehind documented (['_', 'M', 'a', 'x', '('] ++ (lineEnd ++ ['(', '1', ')', ','])) [] =
        helpBehind documented (['_', 'M', 'a', 'x', '('] ++ ' ' :: ['(', '1', ')', ',']) [] ∧
      helpBehind documented (['_', 'M', 'a', 'x', '('] ++ (lineEnd ++ ['(', '1'])) [] = none := by
  have hcode : Lexes ['_', 'M', 'a', 'x', '('] .code := by decide
  have hlast : IsLast ['_', 'M', 'a', 'x', '('] [] ['_', 'M', 'a', 'x', '('] :=
    .of_continues (continues_of_not_mem (by decide))
  have hended : ¬ IsContinued (lastLine ['_', 'M', 'a', 'x', '(']) := by decide
  constructor
  · refine (helpBehind_lineEnd documented hlast hcode).1 ?_ fun hjoin => hended hjoin.1
    rintro ⟨⟨rest, htrim, hopen, -⟩, -, -⟩
    cases (htrim : '(' :: ['1', ')', ','] = '(' :: rest)
    exact absurd (isOpen_first_iff.mp hopen) (by decide)
  · have hopens : OpensFirst ['(', '1'] :=
      ⟨['1'], rfl, isOpen_first_iff.mpr (by decide), innermost?_eq_none_iff.mp (by decide)⟩
    have hliteral : ∀ quote, ¬ Lexes ['(', '1'] (.literal quote) := by
      intro quote hquote
      have hline : Lexes ['(', '1'] .code := by decide
      cases (lexes_iff.mp hline).symm.trans (lexes_iff.mp hquote)
    obtain ⟨commas, hhelp⟩ := (helpBehind_lineEnd documented hlast hcode).2.1
      ⟨hopens, continues_of_not_mem (by decide), hliteral⟩
    have hnone : documented.signature? (String.ofList ['_']) = none := by decide
    rw [hhelp, helpFor, hnone, Option.map_none]

/-- A grouping parenthesis on the next line hides the call that the line before leaves open. -/
theorem helpBehind_lineEnd_parenthesis :
    IsLast ['_', 'M', 'a', 'x', '('] [] ['_', 'M', 'a', 'x', '('] ∧
      Lexes ['_', 'M', 'a', 'x', '('] .code ∧
      helpBehind documented (['_', 'M', 'a', 'x', '('] ++ (lineEnd ++ ['(', '1'])) [] ≠
        helpBehind documented (['_', 'M', 'a', 'x', '('] ++ ' ' :: ['(', '1']) [] := by
  have hcode : Lexes ['_', 'M', 'a', 'x', '('] .code := by decide
  have hlast : IsLast ['_', 'M', 'a', 'x', '('] [] ['_', 'M', 'a', 'x', '('] :=
    .of_continues (continues_of_not_mem (by decide))
  have hb : Continues ['(', '1'] := continues_of_not_mem (by decide)
  refine ⟨hlast, hcode, ?_⟩
  rw [helpBehind_eq (hlast.append_lineEnd hb), helpBehind_eq (hlast.append (by decide))]
  decide

end AutoItDocs.Editor
