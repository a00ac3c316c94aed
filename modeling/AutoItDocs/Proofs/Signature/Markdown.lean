import AutoItDocs.Signature
import AutoItDocs.Proofs.Text.Occurrence
/-!
What the markdown of a signature holds. Main statement: every text of the signature stands in it as
it is, in the order in which the signature lists its texts.
-/
namespace AutoItDocs

open Text (InOrder)

/-- Default values with a sentence of their own. -/
def Markdown.cannedDefaults : List String := ["0", "1", "-1", "\"\"", "''", "Default"]

theorem Markdown.cannedDefault?_eq_none_iff {value : String} :
    cannedDefault? value = none ↔ value ∉ cannedDefaults := by
  simp only [cannedDefault?, cannedDefaults, List.mem_cons, List.not_mem_nil]
  grind

namespace Parameter

/-- The default value without the blanks around it, unless a sentence of its own stands for it. -/
def shownDefault? (p : Parameter) : Option (List Char) :=
  p.default.bind fun value =>
    let trimmed := Text.trim value.toList
    if String.ofList trimmed ∈ Markdown.cannedDefaults then none else some trimmed

/-- The texts of a parameter in the order in which they are shown. -/
def texts (p : Parameter) : List (List Char) :=
  p.label.toList :: p.documentation.toList :: p.shownDefault?.toList

/-- What the line for a parameter begins with. -/
def opening (p : Parameter) : List Char := ("`" ++ p.label ++ "` —").toList

/-- What stands behind the opening in the line for a parameter. -/
def body (p : Parameter) : List Char :=
  if p.description = "" then [] else ' ' :: p.description.toList

variable {p : Parameter}

theorem toList_line (p : Parameter) : p.line.toList = p.opening ++ p.body := by
  rw [line, body]
  by_cases hdescription : p.description = ""
  · rw [if_pos hdescription, if_pos hdescription, List.append_nil]
    rfl
  · rw [if_neg hdescription, if_neg hdescription, String.toList_append, String.toList_append,
      List.append_assoc]
    rfl

theorem isInfix_opening (p : Parameter) : p.label.toList <:+: p.opening := by
  rw [opening, String.toList_append, String.toList_append]
  exact List.infix_append _ _ _

theorem inOrder_default (p : Parameter) (sep : List Char) :
    InOrder p.shownDefault?.toList
      (sep.intercalate ((p.default.map Markdown.defaultSentence).toList.map String.toList)) := by
  cases hdefault : p.default with
  | none => simp [shownDefault?, hdefault, InOrder]
  | some value =>
    by_cases hcanned : String.ofList (Text.trim value.toList) ∈ Markdown.cannedDefaults
    · simp [shownDefault?, hdefault, hcanned, InOrder]
    · have hsentence : Text.trim value.toList <:+: (Markdown.defaultSentence value).toList := by
        rw [Markdown.defaultSentence, Markdown.cannedDefault?_eq_none_iff.mpr hcanned,
          Option.getD_none, String.toList_append, String.toList_append]
        simp only [String.toList_ofList]
        exact List.infix_append _ _ _
      simpa [shownDefault?, hdefault, hcanned] using InOrder.of_isInfix hsentence

end Parameter

/-- A text that is left out when it is empty is shown in either case. -/
theorem inOrder_unless_empty (sep : List Char) (wrap : String → String) {text : String}
    (h : text.toList <:+: (wrap text).toList) :
    InOrder [text.toList]
      (sep.intercalate ((if text = "" then [] else [wrap text]).map String.toList)) := by
  by_cases htext : text = ""
  · subst htext
    exact InOrder.of_isInfix List.nil_infix
  · simpa [htext] using InOrder.of_isInfix h

namespace Parameter

theorem inOrder_description (p : Parameter) :
    InOrder (p.documentation.toList :: p.shownDefault?.toList) p.description.toList := by
  have hdocumentation := inOrder_unless_empty " ".toList id (List.infix_refl p.documentation.toList)
  have hmarks : InOrder [] (" ".toList.intercalate
      ((if p.isOptional && !occursIn Markdown.optionalMark.toList p.documentation.toList then
        [Markdown.optionalMark] else []).map String.toList)) := trivial
  rw [description, String.toList_intercalate, clauses, List.map_append, List.map_append]
  exact (hmarks.intercalate_append hdocumentation).intercalate_append (p.inOrder_default _)

theorem inOrder_line (p : Parameter) : InOrder p.texts p.line.toList := by
  have hbody : InOrder (p.documentation.toList :: p.shownDefault?.toList) p.body := by
    have hdescription := p.inOrder_description
    rw [body]
    by_cases hempty : p.description = ""
    · rw [hempty] at hdescription
      rwa [if_pos hempty]
    · rw [if_neg hempty]
      exact hdescription.of_append_left [' ']
  rw [toList_line]
  exact (InOrder.of_isInfix p.isInfix_opening).append hbody

end Parameter

/-- An optional text is left out as one that is always there is. -/
theorem toList_shown (wrap : String → String) (text : String) :
    (((some text).filter (· ≠ "")).map wrap).toList = if text = "" then [] else [wrap text] := by
  by_cases htext : text = "" <;> simp [htext, Option.filter]

namespace Signature

theorem isInfix_codeBlock (s : Signature) :
    s.label.toList <:+: (Markdown.codeBlock s.label).toList := by
  rw [Markdown.codeBlock, String.toList_append, String.toList_append]
  exact List.infix_append _ _ _

theorem isInfix_returns (s : Signature) (text : String) :
    text.toList <:+: (Markdown.clauses [Markdown.returnsHeader s.name, text]).toList := by
  simp only [Markdown.clauses, String.toList_intercalate, List.map_cons, List.map_nil,
    List.intercalate_cons_cons, List.intercalate_singleton]
  exact (List.suffix_append _ _).isInfix

theorem inOrder_returns (s : Signature) (sep : List Char) :
    InOrder (s.returns.map String.toList).toList
      (sep.intercalate (((s.returns.filter (· ≠ "")).map fun text =>
        Markdown.clauses [Markdown.returnsHeader s.name, text]).toList.map String.toList)) := by
  cases s.returns with
  | none => trivial
  | some text =>
    rw [toList_shown]
    exact inOrder_unless_empty sep
      (fun text => Markdown.clauses [Markdown.returnsHeader s.name, text]) (s.isInfix_returns text)

theorem inOrder_parameters (s : Signature) (sep : List Char) :
    InOrder (s.parameters.flatMap Parameter.texts)
      (sep.intercalate ((if s.parameters = [] then []
        else [Markdown.clauses (s.parameters.map Parameter.line)]).map String.toList)) := by
  by_cases hparameters : s.parameters = []
  · rw [hparameters]
    trivial
  · rw [if_neg hparameters, List.map_singleton, List.intercalate_singleton, Markdown.clauses,
      String.toList_intercalate, List.map_map]
    apply InOrder.intercalate_flatMap
    intro p _
    exact p.inOrder_line

/-- The texts of a signature stand in its markdown as they are, in order and none over another. -/
theorem inOrder_markdown (s : Signature) :
    InOrder
      (s.label.toList :: s.documentation.toList :: (s.returns.map String.toList).toList ++
        s.parameters.flatMap fun p =>
          p.label.toList :: p.documentation.toList :: p.shownDefault?.toList)
      s.markdown.toList := by
  have hlabel := inOrder_unless_empty "\n\n".toList Markdown.codeBlock s.isInfix_codeBlock
  have hdocumentation := inOrder_unless_empty "\n\n".toList id
    (List.infix_refl s.documentation.toList)
  have hshown := ((hlabel.intercalate_append hdocumentation).intercalate_append
    (s.inOrder_returns "\n\n".toList)).intercalate_append (s.inOrder_parameters "\n\n".toList)
  rw [markdown, String.toList_intercalate, sections, List.map_append, List.map_append,
    List.map_append]
  exact hshown

end Signature

end AutoItDocs
