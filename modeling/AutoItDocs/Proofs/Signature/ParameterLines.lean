import AutoItDocs.Proofs.Signature.Markdown
import AutoItDocs.Proofs.Text.Lines
import Mathlib.Tactic.MkIffOfInductiveProp
/-!
The lines of a signature's markdown that are about parameters. They are the ones that open with code
of one word, and there is one for each parameter unless some other text has such a line.
-/
namespace AutoItDocs

open Text

/-- The mark on either side of code within a line. -/
def Markdown.backtick : Char := '\x60'

open Markdown (backtick)

namespace Markdown

/-- The line opens with code, and not with a block of it. -/
def opensWithCode (line : List Char) : Bool :=
  [backtick].isPrefixOf line && not ([backtick, backtick, backtick].isPrefixOf line)

/-- None of the lines opens with code. -/
def ArePlain (lines : List (List Char)) : Prop := ∀ line ∈ lines, line.head? ≠ some backtick

instance (lines : List (List Char)) : Decidable (ArePlain lines) :=
  inferInstanceAs (Decidable (∀ line ∈ lines, line.head? ≠ some backtick))

/-- The pieces of a text that open with code. -/
def opened (text : List Char) : List (List Char) := (pieces (· == '\n') text).filter opensWithCode

variable {line text : List Char} {all : List (List Char)}

theorem opensWithCode_iff :
    opensWithCode line = true ↔
      [backtick] <+: line ∧ ¬ [backtick, backtick, backtick] <+: line := by
  rw [opensWithCode, Bool.and_eq_true, Bool.not_eq_true', ← Bool.not_eq_true,
    List.isPrefixOf_iff_prefix, List.isPrefixOf_iff_prefix]

theorem opensWithCode_dropReturn (line : List Char) :
    opensWithCode (dropReturn line) = opensWithCode line := by
  have hone : [backtick].getLast? ≠ some '\r' := by decide
  have hthree : [backtick, backtick, backtick].getLast? ≠ some '\r' := by decide
  rw [Bool.eq_iff_iff, opensWithCode_iff, opensWithCode_iff, isPrefix_dropReturn_iff hone,
    isPrefix_dropReturn_iff hthree]

theorem not_opensWithCode (h : line.head? ≠ some backtick) : ¬ opensWithCode line = true := by
  rw [opensWithCode_iff, singleton_isPrefix_iff]
  exact fun hline => h hline.1

/-- What plain lines are read from is plain. -/
theorem ArePlain.of_ended (h : ArePlain (ended all)) : ArePlain all := by
  intro piece hpiece hhead
  have hne : piece ≠ [] := by
    rintro rfl
    cases hhead
  obtain ⟨line, hline, hread⟩ := exists_isRead_of_mem hpiece hne
  apply h line hline
  rcases hread with rfl | rfl
  · exact hhead
  · rw [← singleton_isPrefix_iff] at hhead ⊢
    exact isPrefix_dropReturn (by decide) hhead

theorem not_infix_of_arePlain_tail (h : ArePlain (lines text).tail) :
    ¬ ['\n', backtick] <:+: text := by
  rw [lines_eq_ended, pieces, tail_ended] at h
  exact (forall_head?_split_iff (by decide) text).mp h.of_ended

theorem opened_append_feed (left right : List Char) :
    opened (left ++ '\n' :: right) = opened left ++ opened right := by
  rw [opened, pieces_append_cons rfl, List.filter_append]
  rfl

theorem opened_of_arePlain (h : ArePlain (lines text)) : opened text = [] := by
  rw [lines_eq_ended] at h
  rw [opened, List.filter_eq_nil_iff]
  exact fun piece hpiece => not_opensWithCode (h.of_ended piece hpiece)

theorem opened_of_not_mem (hfeed : '\n' ∉ text) (h : text.head? ≠ some backtick) :
    opened text = [] := by
  rw [opened, pieces_of_forall_not (forall_not_beq hfeed), List.filter_cons_of_neg (not_opensWithCode h), List.filter_nil]

/-- Sections with an empty line between them keep their lines apart. -/
theorem opened_intercalate (sections : List (List Char)) :
    opened (['\n', '\n'].intercalate sections) = sections.flatMap opened := by
  induction sections with
  | nil => rfl
  | cons first sections ih =>
    cases sections with
    | nil => simp
    | cons next sections =>
      have hnil : opened [] = [] := rfl
      have hbetween (rest : List Char) :
          first ++ ['\n', '\n'] ++ rest = first ++ '\n' :: ([] ++ '\n' :: rest) := by simp
      rw [List.intercalate_cons_cons, hbetween, opened_append_feed, opened_append_feed, hnil, ih,
        List.nil_append]
      rfl

theorem opened_codeBlock {code : String} (h : ArePlain (lines code.toList)) :
    opened (codeBlock code).toList = [] := by
  have hfirst : opened "```autoit".toList = [] := by decide
  have hlast : opened "```".toList = [] := by decide
  have hblock : (codeBlock code).toList =
      "```autoit".toList ++ '\n' :: (code.toList ++ '\n' :: "```".toList) := by
    simp [codeBlock]
  rw [hblock, opened_append_feed, opened_append_feed, hfirst, opened_of_arePlain h, hlast]
  rfl

theorem opened_returns {name text : String} (hname : '\n' ∉ name.toList)
    (h : ArePlain (lines text.toList)) :
    opened (clauses [returnsHeader name, text]).toList = [] := by
  have hclauses : (clauses [returnsHeader name, text]).toList =
      ((returnsHeader name).toList ++ [' ', ' ']) ++ '\n' :: text.toList := by
    simp [clauses, hardBreak]
  have hheader : returnsHeader name = "**Return value** of `" ++ name ++ "`:" := rfl
  rw [hclauses, opened_append_feed, opened_of_arePlain h, List.append_nil, hheader,
    String.toList_append, String.toList_append]
  apply opened_of_not_mem
  · simp [hname]
  · simp [backtick]

theorem not_mem_of_cannedDefault? {value sentence : String}
    (h : cannedDefault? value = some sentence) : '\n' ∉ sentence.toList := by
  simp only [cannedDefault?] at h
  repeat' split at h
  all_goals
    cases h
    try decide

/-- A default with a line that opens with code is the only way to a sentence with such a line. -/
theorem isInfix_of_defaultSentence {value : String}
    (h : ['\n', backtick] <:+: (defaultSentence value).toList) :
    ['\n', backtick] <:+: value.toList := by
  rw [defaultSentence] at h
  cases hcanned : cannedDefault? (String.ofList (trim value.toList)) with
  | some sentence =>
    rw [hcanned, Option.getD_some] at h
    exact absurd (h.subset List.mem_cons_self) (not_mem_of_cannedDefault? hcanned)
  | none =>
    -- A part with a line feed and a backtick is on one side of each blank and of the full stop.
    have hsentence : ("Default is " ++ String.ofList (trim value.toList) ++ ".").toList =
        "Default".toList ++ ' ' :: ("is".toList ++ ' ' :: (trim value.toList ++ '.' :: [])) := by
      simp
    have hfirst : ¬ ['\n', backtick] <:+: "Default".toList := by decide
    have hsecond : ¬ ['\n', backtick] <:+: "is".toList := by decide
    have hlast : ¬ ['\n', backtick] <:+: [] := by decide
    rw [hcanned, Option.getD_none, hsentence, infix_append_cons_iff (by decide), or_iff_right hfirst,
      infix_append_cons_iff (by decide), or_iff_right hsecond, infix_append_cons_iff (by decide),
      or_iff_left hlast] at h
    exact h.trans (trim_isInfix value.toList)

end Markdown

open Markdown (opensWithCode opened)

/-- The texts of the parameter do not have lines that look like one for a parameter, but for what
stands at the beginning of a text and so within the line for this one. -/
@[mk_iff] structure Parameter.LinesApart (p : Parameter) : Prop where
  label : '\n' ∉ p.label.toList
  code : backtick ∉ p.label.toList
  documentation : Markdown.ArePlain (lines p.documentation.toList).tail
  default : ∀ value ∈ p.default, Markdown.ArePlain (lines value.toList).tail

/-- The texts of the signature do not have lines that look like one for a parameter. -/
@[mk_iff] structure Signature.LinesApart (s : Signature) : Prop where
  name : '\n' ∉ s.name.toList
  label : Markdown.ArePlain (lines s.label.toList)
  documentation : Markdown.ArePlain (lines s.documentation.toList)
  returns : ∀ text ∈ s.returns, Markdown.ArePlain (lines text.toList)
  parameters : ∀ p ∈ s.parameters, p.LinesApart

instance (p : Parameter) : Decidable p.LinesApart := decidable_of_iff' _ p.linesApart_iff

instance (s : Signature) : Decidable s.LinesApart := decidable_of_iff' _ s.linesApart_iff

namespace Parameter

/-- The piece of a text at which the line for the parameter begins, and some blanks behind it. -/
def IsFirstPiece (p : Parameter) (piece : List Char) : Prop :=
  ∃ n, piece = p.opening ++ (split (· == '\n') (p.body ++ List.replicate n ' ')).1

variable {p : Parameter} {part piece shown : List Char}

theorem opening_eq (p : Parameter) :
    p.opening = backtick :: (p.label.toList ++ backtick :: [' ', '—']) := by
  simp [opening, backtick]

theorem isInfix_body_iff (hblank : ' ' ∉ part) (hne : part ≠ []) (n : Nat) :
    part <:+: p.body ++ List.replicate n ' ' ↔ ∃ clause ∈ p.clauses, part <:+: clause.toList := by
  have hdescription : part <:+: p.description.toList ↔
      ∃ clause ∈ p.clauses, part <:+: clause.toList := by
    rw [description, String.toList_intercalate]
    refine (infix_intercalate_iff hblank hne _).trans ?_
    simp
  rw [infix_append_replicate_iff hblank hne, ← hdescription, body]
  by_cases hempty : p.description = ""
  · rw [if_pos hempty, hempty]
    rfl
  · rw [if_neg hempty, infix_cons_iff_of_not_mem hblank hne]

theorem eq_of_mem_clauses {clause : String} (h : clause ∈ p.clauses) :
    clause = Markdown.optionalMark ∧ p.isOptional = true ∨ clause = p.documentation ∨
      ∃ value ∈ p.default, clause = Markdown.defaultSentence value := by
  simp only [clauses, List.mem_append, Option.mem_toList, Option.map_eq_some_iff] at h
  rcases h with (hmark | hdocumentation) | ⟨value, hvalue, rfl⟩
  · split at hmark
    · rename_i hoptional
      rw [Bool.and_eq_true] at hoptional
      exact .inl ⟨List.mem_singleton.mp hmark, hoptional.1⟩
    · cases hmark
  · split at hdocumentation
    · cases hdocumentation
    · exact .inr (.inl (List.mem_singleton.mp hdocumentation))
  · exact .inr (.inr ⟨value, hvalue, rfl⟩)

theorem LinesApart.not_infix_body (h : p.LinesApart) (n : Nat) :
    ¬ ['\n', backtick] <:+: p.body ++ List.replicate n ' ' := by
  rw [isInfix_body_iff (by decide) (by decide)]
  rintro ⟨clause, hclause, hinfix⟩
  rcases eq_of_mem_clauses hclause with ⟨rfl, -⟩ | rfl | ⟨value, hvalue, rfl⟩
  · revert hinfix
    decide
  · exact Markdown.not_infix_of_arePlain_tail h.documentation hinfix
  · exact Markdown.not_infix_of_arePlain_tail (h.default value hvalue)
      (Markdown.isInfix_of_defaultSentence hinfix)

theorem opensWithCode_opening (hcode : backtick ∉ p.label.toList) (rest : List Char) :
    opensWithCode (p.opening ++ rest) = true := by
  rw [Markdown.opensWithCode_iff, opening_eq]
  cases hlabel : p.label.toList with
  | nil => simp [backtick]
  | cons c label =>
    have hc : backtick ≠ c := by
      rintro rfl
      exact hcode (hlabel ▸ List.mem_cons_self)
    simp [List.cons_prefix_cons, hc]

theorem feed_not_mem_opening (hlabel : '\n' ∉ p.label.toList) : '\n' ∉ p.opening := by
  rw [opening_eq]
  simp [hlabel, backtick]

/-- The line for a parameter is one that opens with code, even where it goes on in further lines. -/
theorem LinesApart.opened_line (h : p.LinesApart) (n : Nat) :
    ∃ piece, opened (p.line.toList ++ List.replicate n ' ') = [piece] ∧ p.IsFirstPiece piece := by
  have hbreak := forall_not_beq (feed_not_mem_opening h.label)
  have hmore := (forall_head?_split_iff (by decide) _).mpr (h.not_infix_body n)
  refine ⟨_, ?_, n, rfl⟩
  rw [toList_line, List.append_assoc, opened, pieces, split_append_of_forall_not hbreak,
    List.filter_cons_of_pos (opensWithCode_opening h.code _), List.filter_eq_nil_iff.mpr]
  exact fun piece hpiece => Markdown.not_opensWithCode (hmore piece hpiece)

/-- A line of a text at which the line for the parameter begins. -/
def IsLine (p : Parameter) (line : List Char) : Prop :=
  ∃ piece, p.IsFirstPiece piece ∧ IsRead piece line

theorem IsLine.opening_isPrefix (h : p.IsLine shown) : p.opening <+: shown := by
  obtain ⟨_, ⟨n, rfl⟩, rfl | rfl⟩ := h
  · exact List.prefix_append _ _
  · have hdash : p.opening.getLast? ≠ some '\r' := by
      rw [opening, String.toList_append, List.getLast?_append_of_ne_nil _ (by decide)]
      decide
    exact isPrefix_dropReturn hdash (List.prefix_append _ _)

/-- Neither the label nor the documentation of the parameter has the mark in it. -/
@[mk_iff] structure Unmarked (p : Parameter) : Prop where
  label : ¬ Markdown.optionalMark.toList <:+: p.label.toList
  documentation : ¬ Markdown.optionalMark.toList <:+: p.documentation.toList

instance (p : Parameter) : Decidable p.Unmarked := decidable_of_iff' _ p.unmarked_iff

theorem occursIn_iff {part text : List Char} : occursIn part text = true ↔ part <:+: text := by
  induction text with
  | nil => simp [occursIn, List.isPrefixOf_iff_prefix]
  | cons c text ih =>
    rw [occursIn, Bool.or_eq_true, List.isPrefixOf_iff_prefix, ih, List.infix_cons_iff]

theorem Unmarked.mark_isPrefix (h : p.Unmarked) (hoptional : p.isOptional = true) :
    ' ' :: Markdown.optionalMark.toList <+: p.body := by
  have hnew : ¬ occursIn Markdown.optionalMark.toList p.documentation.toList = true :=
    fun hmark => h.documentation (occursIn_iff.mp hmark)
  have hmark : Markdown.optionalMark.toList <+: p.description.toList := by
    rw [description, String.toList_intercalate, clauses]
    simp only [hoptional, hnew, Bool.not_false, Bool.and_self, if_true,
      List.cons_append, List.map_cons]
    exact isPrefix_intercalate_cons _ _ _
  have hempty : p.description ≠ "" := by
    intro hempty
    rw [hempty] at hmark
    exact absurd (List.prefix_nil.mp hmark) (by decide)
  rw [body, if_neg hempty, List.cons_prefix_cons]
  exact ⟨rfl, hmark⟩

theorem Unmarked.isOptional_of_mark (h : p.Unmarked) {n : Nat}
    (hmark : Markdown.optionalMark.toList <:+: p.opening ++ (p.body ++ List.replicate n ' ')) :
    p.isOptional = true := by
  rw [opening_eq, List.cons_append, List.append_assoc, List.cons_append, List.cons_append,
    List.singleton_append, infix_cons_iff_of_not_mem (by decide) (by decide),
    infix_append_cons_iff (by decide), or_iff_right h.label,
    infix_cons_iff_of_not_mem (by decide) (by decide),
    infix_cons_iff_of_not_mem (by decide) (by decide),
    isInfix_body_iff (by decide) (by decide)] at hmark
  obtain ⟨clause, hclause, hmark⟩ := hmark
  rcases eq_of_mem_clauses hclause with ⟨-, hoptional⟩ | rfl | ⟨value, hvalue, -⟩
  · exact hoptional
  · exact absurd hmark h.documentation
  · rw [isOptional, Option.mem_def.mp hvalue, Option.isSome_some, Bool.or_true]

theorem IsFirstPiece.mark_isInfix_iff (hpiece : p.IsFirstPiece piece) (h : p.Unmarked) :
    Markdown.optionalMark.toList <:+: piece ↔ p.isOptional = true := by
  obtain ⟨n, rfl⟩ := hpiece
  constructor
  · intro hmark
    have hline : (split (· == '\n') (p.body ++ List.replicate n ' ')).1 <+:
        p.body ++ List.replicate n ' ' := by
      rw [split_fst]
      exact List.takeWhile_prefix _
    apply h.isOptional_of_mark (n := n)
    exact hmark.trans ((List.prefix_append_right_inj _).mpr hline).isInfix
  · intro hoptional
    obtain ⟨more, hmore⟩ := h.mark_isPrefix hoptional
    have hfeed : '\n' ∉ ' ' :: Markdown.optionalMark.toList := by decide
    rw [← hmore, List.append_assoc, split_append_of_forall_not (forall_not_beq hfeed),
      List.cons_append]
    exact (List.prefix_append _ _).isInfix.trans ((List.suffix_cons ' ' _).isInfix.trans
      (List.suffix_append p.opening _).isInfix)

/-- Where no text has the mark, it tells the optional parameters from the others. -/
theorem IsLine.mark_isInfix_iff (hline : p.IsLine shown) (h : p.Unmarked) :
    Markdown.optionalMark.toList <:+: shown ↔ p.isOptional = true := by
  obtain ⟨piece, hpiece, rfl | rfl⟩ := hline
  · exact hpiece.mark_isInfix_iff h
  · rw [isInfix_dropReturn_iff (by decide)]
    exact hpiece.mark_isInfix_iff h

/-- A parameter section has the lines for its parameters, whatever else it has. -/
theorem forall₂_opened_lines {ps : List Parameter} (hne : ps ≠ []) (h : ∀ p ∈ ps, p.LinesApart) :
    List.Forall₂ IsFirstPiece ps (opened (Markdown.clauses (ps.map line)).toList) := by
  rw [Markdown.clauses, String.toList_intercalate, List.map_map]
  induction ps with
  | nil => exact absurd rfl hne
  | cons p ps ih =>
    rw [List.forall_mem_cons] at h
    cases ps with
    | nil =>
      obtain ⟨piece, hopened, hpiece⟩ := h.1.opened_line 0
      rw [List.replicate_zero, List.append_nil] at hopened
      rw [List.map_singleton, List.intercalate_singleton, Function.comp_apply, hopened]
      exact .cons hpiece .nil
    | cons q ps =>
      obtain ⟨piece, hopened, hpiece⟩ := h.1.opened_line 2
      -- The blanks of the hard break belong to the line in front of it.
      have hbreak : Markdown.hardBreak.toList = List.replicate 2 ' ' ++ ['\n'] := rfl
      rw [List.map_cons, List.map_cons, List.intercalate_cons_cons, hbreak, Function.comp_apply,
        ← List.append_assoc, List.append_assoc, List.singleton_append,
        Markdown.opened_append_feed, hopened]
      exact .cons hpiece (ih (List.cons_ne_nil q ps) h.2)

end Parameter

namespace Signature

variable {s : Signature}

theorem flatMap_opened_unless_empty {text : String} (wrap : String → String)
    (h : opened (wrap text).toList = []) :
    ((if text = "" then [] else [wrap text]).map String.toList).flatMap opened = [] := by
  by_cases htext : text = "" <;> simp [htext, h]

theorem LinesApart.flatMap_opened_returns (h : s.LinesApart) :
    (((s.returns.filter (· ≠ "")).map fun text =>
      Markdown.clauses [Markdown.returnsHeader s.name, text]).toList.map String.toList).flatMap
        opened = [] := by
  cases hreturns : s.returns with
  | none => rfl
  | some text =>
    rw [toList_shown]
    exact flatMap_opened_unless_empty
      (fun text => Markdown.clauses [Markdown.returnsHeader s.name, text])
      (Markdown.opened_returns h.name (h.returns text hreturns))

/-- Only the parameter section of the markdown has lines that open with code. -/
theorem LinesApart.opened_markdown (h : s.LinesApart) :
    opened s.markdown.toList =
      if s.parameters = [] then []
      else opened (Markdown.clauses (s.parameters.map Parameter.line)).toList := by
  have hlabel := flatMap_opened_unless_empty Markdown.codeBlock (Markdown.opened_codeBlock h.label)
  have hdocumentation := flatMap_opened_unless_empty id (Markdown.opened_of_arePlain h.documentation)
  simp only [id_eq] at hdocumentation
  have hbreak : "\n\n".toList = ['\n', '\n'] := rfl
  rw [markdown, String.toList_intercalate, hbreak, Markdown.opened_intercalate, sections,
    List.map_append, List.map_append, List.map_append, List.flatMap_append, List.flatMap_append,
    List.flatMap_append, hlabel, hdocumentation, h.flatMap_opened_returns]
  by_cases hparameters : s.parameters = [] <;> simp [hparameters]

theorem LinesApart.forall₂_opened (h : s.LinesApart) :
    List.Forall₂ Parameter.IsFirstPiece s.parameters (opened s.markdown.toList) := by
  rw [h.opened_markdown]
  by_cases hparameters : s.parameters = []
  · rw [if_pos hparameters, hparameters]
    exact .nil
  · rw [if_neg hparameters]
    exact Parameter.forall₂_opened_lines hparameters h.parameters

/-- The lines of the markdown that open with code. -/
def parameterLines (s : Signature) : List (List Char) :=
  (lines s.markdown.toList).filter opensWithCode

/-- The lines of the markdown that open with code are those at which the lines for the parameters
begin. -/
theorem LinesApart.forall₂_isLine (h : s.LinesApart) :
    List.Forall₂ Parameter.IsLine s.parameters s.parameterLines := by
  have hread : List.Forall₂ IsRead (opened s.markdown.toList) s.parameterLines := by
    rw [parameterLines, lines_eq_ended]
    exact forall₂_filter_ended (by decide) Markdown.opensWithCode_dropReturn _
  exact forall₂_comp h.forall₂_opened hread

/-- The markdown of a signature whose texts keep their lines apart has one line that opens with code
for each parameter, in order, and it opens with the label of the parameter. Where no text has the
mark for what a caller may leave out, exactly the lines of the optional parameters have it. -/
theorem forall₂_parameterLines (h : s.LinesApart) :
    s.parameterLines.length = s.parameters.length ∧
      List.Forall₂ (fun p line => ("`" ++ p.label ++ "` —").toList <+: line)
        s.parameters s.parameterLines ∧
      ((∀ p ∈ s.parameters, p.Unmarked) →
        List.Forall₂ (fun p line => Markdown.optionalMark.toList <:+: line ↔ p.isOptional = true)
          s.parameters s.parameterLines ∧
        s.requiredCount =
          (s.parameterLines.filter fun line => ¬ Markdown.optionalMark.toList <:+: line).length) := by
  have hlines := h.forall₂_isLine
  refine ⟨hlines.length_eq.symm, hlines.imp fun p line hline => hline.opening_isPrefix, ?_⟩
  intro hunmarked
  have hmarks : List.Forall₂ (fun p line => Markdown.optionalMark.toList <:+: line ↔
      p.isOptional = true) s.parameters s.parameterLines :=
    ((List.forall₂_and_left _ _).mpr ⟨hunmarked, hlines⟩).imp
      fun p line hp => hp.2.mark_isInfix_iff hp.1
  refine ⟨hmarks, ?_⟩
  have hrequired := List.rel_filter (p := fun p => !p.isOptional)
    (q := fun line => ¬ Markdown.optionalMark.toList <:+: line) (by
      intro p line hmark
      simp [hmark]) hmarks
  rw [requiredCount]
  exact hrequired.length_eq

/-- A signature whose texts go over several lines and have code in them, one of them right behind a
label. -/
def withLongTexts : Signature where
  name := "_Split"
  label := "_Split ( $text, $mark\n[, $count = 0\n[, $end]] )"
  documentation := "Splits a text.\n\nSee `_Join`."
  returns := some "The parts.\r\nWithout one, `@error` is set."
  parameters := [.required "$text" "The text.\nIt may be empty.", .required "$mark" "`$mark` splits.",
    .defaulted "$count" "" " 0 ", .omissible "$end" "Where to stop.\r"]

theorem forall₂_parameterLines_withLongTexts :
    withLongTexts.LinesApart ∧ (∀ p ∈ withLongTexts.parameters, p.Unmarked) ∧
      withLongTexts.parameterLines.length = 4 ∧
      List.Forall₂ (fun p line => ("`" ++ p.label ++ "` —").toList <+: line)
        withLongTexts.parameters withLongTexts.parameterLines ∧
      List.Forall₂ (fun p line => Markdown.optionalMark.toList <:+: line ↔ p.isOptional = true)
        withLongTexts.parameters withLongTexts.parameterLines ∧
      (withLongTexts.parameterLines.filter fun line =>
        ¬ Markdown.optionalMark.toList <:+: line).length = 2 := by
  have happart : withLongTexts.LinesApart := by decide
  have hunmarked : ∀ p ∈ withLongTexts.parameters, p.Unmarked := by decide
  obtain ⟨hlength, hopenings, hmarks⟩ := forall₂_parameterLines happart
  obtain ⟨hmarks, hrequired⟩ := hmarks hunmarked
  exact ⟨happart, hunmarked, hlength, hopenings, hmarks, hrequired.symm⟩

end Signature

end AutoItDocs
