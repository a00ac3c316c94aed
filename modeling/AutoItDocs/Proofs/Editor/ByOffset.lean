import AutoItDocs.Proofs.Script.ByOffset
import AutoItDocs.Proofs.Editor.Line
import AutoItDocs.Proofs.Editor.SignatureHelp
/-!
The features of an editor on a script that is read by offsets into its bytes. Main statement: an
offset of a position, the start of the statement around it, the brackets of the statement and the
names in front of them all lie between characters, so no slice fails and the features answer what
they answer on characters.
-/
namespace AutoItDocs.ByOffset

open Text

def hoverAt (index : LineIndex) (catalog : Catalog) (position : Position) :
    Except OffsetError (Option Editor.Hover) := do
  match ← offsetAt? index position with
  | none => return none
  | some offset =>
    match ← wordAt? index.text offset with
    | none => return none
    | some word =>
      if word.kind ≠ .function then return none
      match catalog.hover? (String.ofList word.name) with
      | none => return none
      | some markdown =>
        return some ⟨markdown, ← positionAt index word.start, ← positionAt index word.stop⟩

def completionAt (index : LineIndex) (catalog : Catalog) (position : Position) :
    Except OffsetError (Option (List CompletionEntry)) := do
  match ← offsetAt? index position with
  | none => return none
  | some offset =>
    let before ← slice index.text 0 offset
    if (before.getLast?.bind WordKind.ofSigil?).isSome then return none
    match ← wordAt? index.text offset with
    | none => return Editor.entriesOf? catalog
    | some word => return if word.kind = .function then Editor.entriesOf? catalog else none

def signatureHelpAt? (index : LineIndex) (catalog : Catalog) (position : Position) :
    Except OffsetError (Option Editor.SignatureHelp) := do
  match ← offsetAt? index position with
  | none => return none
  | some offset =>
    let start ← statementStart index.text offset
    let call ← find? (← slice index.text start offset)
    return call.bind (Editor.helpFor catalog)

variable {index : LineIndex} {position : Position} {text : List Char} {offset : Nat}

theorem slice_statement (h : IsBoundary text offset) :
    slice text (Statement.start text offset) offset = .ok (Statement.upTo text offset) := by
  obtain ⟨before, after, rfl, rfl⟩ := isBoundary_iff.mp h
  obtain ⟨above, statement, hlast⟩ := Statement.exists_isLast before
  have hbefore : byteLength before = byteLength above + byteLength statement := by
    rw [hlast.text_eq, byteLength_append]
  rw [hlast.start_eq, hlast.upTo_eq, hbefore]
  have hslice := slice_append above statement after
  rwa [← List.append_assoc, ← hlast.text_eq] at hslice

theorem hoverAt_eq (catalog : Catalog)
    (hoffset : offsetAt? index position = .ok (index.offsetAt? position)) :
    hoverAt index catalog position = Editor.hoverAt index catalog position := by
  cases hat : index.offsetAt? position with
  | none =>
    simp only [hoverAt, hoffset, hat, Editor.hoverAt, bind, Except.bind, pure, Except.pure]
  | some offset =>
    have hword := wordAt?_eq (LineIndex.isBoundary_of_offsetAt? hat)
    obtain ⟨answer, hanswer, -⟩ :=
      Word.exists_isWordAt_iff (LineIndex.isBoundary_of_offsetAt? hat)
    simp only [hoverAt, hoffset, hat, hword, hanswer, Editor.hoverAt, bind, Except.bind, pure,
      Except.pure, Except.map]
    cases answer with
    | none => rfl
    | some w =>
      simp only [Option.bind_some, Editor.Hover.ofWord?]
      by_cases hkind : w.kind = .function
      · cases hmarkdown : catalog.hover? (String.ofList w.name) with
        | none => simp [hkind]
        | some markdown => simp [hkind, positionAt_eq, LineIndex.rangeOf]
      · simp [hkind]

theorem completionAt_eq (catalog : Catalog)
    (hoffset : offsetAt? index position = .ok (index.offsetAt? position)) :
    completionAt index catalog position = Editor.completionAt index catalog position := by
  cases hat : index.offsetAt? position with
  | none =>
    simp only [completionAt, hoffset, hat, Editor.completionAt, bind, Except.bind, pure,
      Except.pure]
  | some offset =>
    have hboundary := LineIndex.isBoundary_of_offsetAt? hat
    obtain ⟨answer, hanswer, -⟩ := Word.exists_isWordAt_iff hboundary
    have hsigil : Editor.followsSigil index.text offset =
        ((takeBytes offset index.text).getLast?.bind WordKind.ofSigil?).isSome := by
      rw [Editor.followsSigil]
      cases (takeBytes offset index.text).getLast? <;> rfl
    simp only [completionAt, hoffset, hat, slice_zero hboundary, wordAt?_eq hboundary, hanswer,
      Editor.completionAt, hsigil, bind, Except.bind, pure, Except.pure, Except.map]
    cases answer <;> rfl

theorem signatureHelpAt?_eq (catalog : Catalog)
    (hoffset : offsetAt? index position = .ok (index.offsetAt? position)) :
    signatureHelpAt? index catalog position =
      .ok (Editor.signatureHelpAt? index catalog position) := by
  cases hat : index.offsetAt? position with
  | none =>
    simp only [signatureHelpAt?, hoffset, hat, Editor.signatureHelpAt?, bind, Except.bind, pure,
      Except.pure, Option.bind]
  | some offset =>
    have hboundary := LineIndex.isBoundary_of_offsetAt? hat
    simp only [signatureHelpAt?, hoffset, hat, statementStart_eq hboundary,
      slice_statement hboundary, find?_eq, Editor.signatureHelpAt?_eq hat, Editor.callAt?, bind,
      Except.bind, pure, Except.pure]

/-- An offset on a line, where the statement around it starts, and in the statement each bracket
with the name in front of it: all of them are between characters. -/
structure IsDivided (text : List Char) (number offset : Nat) : Prop where
  line : ∃ above line below, IsAt text number above line below offset
  walk : statementStart text offset = .ok (Statement.start text offset)
  start_le : Statement.start text offset ≤ offset
  start : IsBoundary text (Statement.start text offset)
  bracket : ∀ bracket ∈ bracketOffsets 0 .code (Statement.upTo text offset),
    IsBoundary (Statement.upTo text offset) bracket
  name : ∀ bracket ∈ bracketOffsets 0 .code (Statement.upTo text offset),
    IsBoundary (Statement.upTo text offset)
      (nameStart (takeBytes bracket (Statement.upTo text offset)))

theorem isDivided_of_offsetAt? (h : index.offsetAt? position = some offset) :
    IsDivided index.text position.line offset := by
  have hboundary := LineIndex.isBoundary_of_offsetAt? h
  obtain ⟨left, right, htext, hstart, hstop⟩ :=
    exists_append_of_slice (slice_statement hboundary)
  obtain ⟨above, line, below, hline, rfl⟩ := LineIndex.exists_isLine_of_offsetAt? h
  have hle : byteLength (takeUnits position.character line) ≤ byteLength line :=
    places_le_of_isPrefix (takeWidth_isPrefix units position.character line)
  refine ⟨⟨above, line, below, hline, Nat.le_add_right _ _, Nat.add_le_add_left hle _, hboundary⟩,
    statementStart_eq hboundary, by omega, isBoundary_iff.mpr ⟨left, _, htext, hstart⟩, ?_, ?_⟩
  · intro bracket hbracket
    obtain ⟨before, after, hstatement, rfl⟩ := exists_append_of_mem_bracketOffsets hbracket
    exact isBoundary_iff.mpr ⟨before, '(' :: after, hstatement, (Nat.zero_add _).symm⟩
  · intro bracket hbracket
    obtain ⟨before, after, hstatement, rfl⟩ := exists_append_of_mem_bracketOffsets hbracket
    rw [hstatement, Nat.zero_add, takeBytes_byteLength_append]
    exact isBoundary_nameStart before ('(' :: after)

/-- At every position, in 32 bits, the offset that is counted up to it is between characters, the
start of the statement around it is, and so are the brackets of the statement and the names in front
of them. No slice fails then: each feature answers, and as it does on characters. -/
theorem answers_of_position (index : LineIndex) (catalog : Catalog) (position : Position)
    (hsize : byteLength index.text < UInt32.size) (hcharacter : position.character < UInt32.size) :
    offsetAt? index position = .ok (index.offsetAt? position) ∧
      (∀ offset, index.offsetAt? position = some offset →
        IsDivided index.text position.line offset) ∧
      (∃ shown, hoverAt index catalog position = .ok shown ∧
        Editor.hoverAt index catalog position = .ok shown) ∧
      (∃ offered, completionAt index catalog position = .ok offered ∧
        Editor.completionAt index catalog position = .ok offered) ∧
      signatureHelpAt? index catalog position =
        .ok (Editor.signatureHelpAt? index catalog position) := by
  have hoffset := offsetAt?_eq hsize hcharacter
  obtain ⟨shown, hshown, -⟩ := Editor.exists_hoverAt_iff index catalog position
  obtain ⟨offered, hoffered⟩ := Editor.exists_completionAt index catalog position
  refine ⟨hoffset, fun offset => isDivided_of_offsetAt?, ⟨shown, ?_, hshown⟩,
    ⟨offered, ?_, hoffered⟩, signatureHelpAt?_eq catalog hoffset⟩
  · rw [hoverAt_eq catalog hoffset, hshown]
  · rw [completionAt_eq catalog hoffset, hoffered]

/-- Characters of several bytes in a call that goes on on the next line. -/
def continuedCall : LineIndex :=
  .ofText ['_', 'm', 'a', 'x', '(', 'é', ',', ' ', '_', '\n', '😀']

/-- The column is within a surrogate pair. -/
theorem answers_of_position_withinPair :
    byteLength continuedCall.text < UInt32.size ∧ (⟨1, 1⟩ : Position).character < UInt32.size ∧
      offsetAt? continuedCall ⟨1, 1⟩ = .ok (some 15) ∧
      IsBoundary (Statement.upTo continuedCall.text 15)
        (nameStart (takeBytes 4 (Statement.upTo continuedCall.text 15))) ∧
      ∃ help, signatureHelpAt? continuedCall Editor.documented ⟨1, 1⟩ = .ok (some help) ∧
        help.label = "_Max ( $a, $b )" ∧ help.activeParameter = 1 := by
  have hsize : byteLength continuedCall.text < UInt32.size := by decide
  have hcharacter : (⟨1, 1⟩ : Position).character < UInt32.size := by decide
  obtain ⟨hoffset, hdivided, -, -, hhelp⟩ :=
    answers_of_position continuedCall Editor.documented ⟨1, 1⟩ hsize hcharacter
  have hat : continuedCall.offsetAt? ⟨1, 1⟩ = some 15 := by decide
  have hbracket : 4 ∈ bracketOffsets 0 .code (Statement.upTo continuedCall.text 15) := by decide
  have hlabel : Editor.signatureHelpAt? continuedCall Editor.documented ⟨1, 1⟩ =
      some ⟨"_Max ( $a, $b )", "", [], 1⟩ := by decide
  rw [hat] at hoffset
  rw [hlabel] at hhelp
  exact ⟨hsize, hcharacter, hoffset, (hdivided 15 hat).name 4 hbracket, _, hhelp, rfl, rfl⟩

end AutoItDocs.ByOffset
