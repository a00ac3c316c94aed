import AutoItDocs.Proofs.Catalog.Lookup
import AutoItDocs.Proofs.Script.RetypedCall
import AutoItDocs.Proofs.Editor.Line
import AutoItDocs.Proofs.Editor.SignatureHelp
/-!
Documents in which an editor shows the same. Main statements: carriage returns in front of the line
feeds make no difference, and neither does the case of letters where the catalog has been built.
-/
namespace AutoItDocs.Editor

open Text Statement CallContext

/-- All features show the same at a position of either document. -/
structure SameAt (catalog : Catalog) (index index' : LineIndex) (position : Position) : Prop where
  hover : hoverAt index catalog position = hoverAt index' catalog position
  completion : completionAt index catalog position = completionAt index' catalog position
  signatureHelp :
    signatureHelpAt? index catalog position = signatureHelpAt? index' catalog position

/-- The catalog knows a name under its new letters as it knows the name. -/
structure Recognizes (catalog : Catalog) (t : Retyping) : Prop where
  hover : ∀ name, (∀ c ∈ name, isNameChar c) →
    catalog.hover? (String.ofList (name.map t.letter)) = catalog.hover? (String.ofList name)
  signature : ∀ name, (∀ c ∈ name, isNameChar c) →
    catalog.signature? (String.ofList (name.map t.letter)) = catalog.signature? (String.ofList name)

variable {catalog : Catalog} {t : Retyping} {index index' : LineIndex} {position : Position}
  {text above before after line below margin : List Char}

theorem wordOn_map (t : Retyping) (hmargin : ∀ c ∈ margin, isBlank c) (before after : List Char) :
    wordOn (before.map t.letter) (after.map t.letter ++ margin) =
      (wordOn before after).map t.word := by
  have hlength : byteLength (before.map t.letter) = byteLength before :=
    t.places_map t.utf8Size_letter before
  rw [wordOn, ← List.append_assoc, ← List.map_append, t.scan_line hmargin, List.find?_map, hlength]
  rfl

theorem rangeOn_map (margin : List Char) (t : Retyping) (number : Nat) {w : Word}
    (hstart : w.start < w.stop) (hstop : w.stop ≤ byteLength line) :
    rangeOn number (line.map t.letter ++ margin) (t.word w) = rangeOn number line w := by
  have hcut : ∀ n ≤ byteLength line,
      unitLength (takeBytes n (line.map t.letter ++ margin)) = unitLength (takeBytes n line) := by
    intro n hn
    have hlength : byteLength (line.map t.letter) = byteLength line :=
      t.places_map t.utf8Size_letter line
    rw [takeBytes, takeWidth_append_of_le_places (by rwa [← hlength] at hn),
      t.takeWidth_map t.utf8Size_letter]
    exact t.places_map t.units_letter _
  simp only [rangeOn, Retyping.word, hcut w.stop hstop,
    hcut w.start (Nat.le_trans (Nat.le_of_lt hstart) hstop)]

theorem hoverOn_map (hcatalog : Recognizes catalog t) (hmargin : ∀ c ∈ margin, isBlank c)
    (number : Nat) (before after : List Char) :
    hoverOn catalog number (before.map t.letter) (after.map t.letter ++ margin) =
      hoverOn catalog number before after := by
  rw [hoverOn, hoverOn, wordOn_map t hmargin]
  cases hw : wordOn before after with
  | none => rfl
  | some w =>
    obtain ⟨htoken, hstop⟩ := isToken_of_wordOn hw
    have hname := hcatalog.hover w.name htoken.names
    have hrange := rangeOn_map margin t number htoken.start_lt_stop hstop
    rw [List.map_append, List.append_assoc] at hrange
    simp only [Option.map_some, Option.bind_some, hrange]
    simp only [Retyping.word, hname]

theorem completionOn_map (t : Retyping) (hmargin : ∀ c ∈ margin, isBlank c) (catalog : Catalog)
    (before after : List Char) :
    completionOn catalog (before.map t.letter) (after.map t.letter ++ margin) =
      completionOn catalog before after := by
  have hsigil : (before.map t.letter).getLast?.bind WordKind.ofSigil? =
      before.getLast?.bind WordKind.ofSigil? := by
    rw [List.getLast?_map]
    cases before.getLast? <;> simp
  rw [completionOn, completionOn, wordOn_map t hmargin, hsigil]
  cases wordOn before after <;> rfl

/-- A column on a line of the text is a column on the line of the new text. -/
theorem exists_cut (t : Retyping) (h : IsLine index.text position.line above line below)
    (hindex : index'.text = t.apply index.text)
    (hinside : t.margin = [] ∨ position.character ≤ unitLength line) :
    ∃ before after margin below', line = before ++ after ∧ (∀ c ∈ margin, isBlank c) ∧
      IsLine index'.text position.line (t.apply above)
        (before.map t.letter ++ (after.map t.letter ++ margin)) below' ∧
      index.offsetAt? position = some (byteLength above + byteLength before) ∧
      index'.offsetAt? position =
        some (byteLength (t.apply above) + byteLength (before.map t.letter)) := by
  obtain ⟨margin, below', hline, hmargin⟩ := t.isLine h
  rw [← hindex] at hline
  have hblank : ∀ c ∈ margin, isBlank c := by
    rcases hmargin with rfl | rfl
    · simp
    · exact t.margin_blank
  have hparts := takeWidth_append_dropWidth units position.character line
  have hcut : takeUnits position.character (line.map t.letter ++ margin) =
      (takeUnits position.character line).map t.letter := by
    rw [takeUnits, takeUnits, ← t.takeWidth_map t.units_letter]
    rcases hinside with hnone | hinside
    · have hempty : margin = [] := by simpa [hnone] using hmargin
      rw [hempty, List.append_nil]
    · have hlength := t.places_map t.units_letter line
      exact takeWidth_append_of_le_places (hlength ▸ hinside) margin
  refine ⟨_, _, margin, below', hparts.symm, hblank, ?_, LineIndex.offsetAt?_eq h _, ?_⟩
  · rwa [← List.append_assoc, ← List.map_append, hparts]
  · rw [← takeUnits, ← hcut]
    exact LineIndex.offsetAt?_eq hline _

theorem names_of_find? {name : List Char} {commas : UInt32} (h : find? text = some (name, commas)) :
    ∀ c ∈ name, isNameChar c := by
  obtain ⟨-, j, hlast, -⟩ := find?_eq_some_iff_isLastCall.mp h
  exact names_of_calleeBefore? hlast.isCall.callee

theorem helpFor_map (hcatalog : Recognizes catalog t) {name : List Char}
    (hname : ∀ c ∈ name, isNameChar c) (commas : UInt32) :
    helpFor catalog (name.map t.letter, commas) = helpFor catalog (name, commas) := by
  rw [helpFor, helpFor, hcatalog.signature name hname]

theorem find?_apply_bind (hcatalog : Recognizes catalog t) (statement : List Char) :
    (find? (t.apply statement)).bind (helpFor catalog) =
      (find? statement).bind (helpFor catalog) := by
  rw [t.find?_apply]
  cases hfind : find? statement with
  | none => rfl
  | some call => exact helpFor_map hcatalog (names_of_find? hfind) call.2

theorem sameAt_of_isLine (hcatalog : Recognizes catalog t)
    (h : IsLine index.text position.line above line below)
    (hindex : index'.text = t.apply index.text)
    (hinside : t.margin = [] ∨ position.character ≤ unitLength line) :
    SameAt catalog index index' position := by
  obtain ⟨before, after, margin, below', rfl, hmargin, hline, hoffset, hoffset'⟩ :=
    exists_cut t h hindex hinside
  constructor
  · rw [hoverAt_eq_hoverOn h hoffset, hoverAt_eq_hoverOn hline hoffset',
      hoverOn_map hcatalog hmargin]
  · rw [completionAt_eq_completionOn h hoffset, completionAt_eq_completionOn hline hoffset',
      completionOn_map t hmargin]
  · obtain ⟨front, statement, hlast⟩ := exists_isLast (above ++ before)
    have hbefore : '\n' ∉ before := fun hmem => h.inside (List.mem_append_left after hmem)
    have hlast' := t.isLast hlast
    rw [t.apply_append, t.apply_of_not_mem hbefore] at hlast'
    rw [← byteLength_append] at hoffset hoffset'
    have htext : index.text = above ++ before ++ (after ++ below) := by simp [h.text_eq]
    have htext' : index'.text = t.apply above ++ before.map t.letter ++
        (after.map t.letter ++ margin ++ below') := by
      simp [hline.text_eq]
    rw [signatureHelpAt?_eq_find? hlast htext hoffset,
      signatureHelpAt?_eq_find? hlast' htext' hoffset', find?_apply_bind hcatalog]

theorem sameAt_of_offsetAt?_eq_none (h : index.offsetAt? position = none)
    (h' : index'.offsetAt? position = none) : SameAt catalog index index' position := by
  constructor
  · simp only [hoverAt, h, h']
  · simp only [completionAt, h, h']
  · simp only [signatureHelpAt?, h, h']
    rfl

theorem sameAt_apply (hcatalog : Recognizes catalog t) (hindex : index'.text = t.apply index.text)
    (hinside : t.margin = []) (position : Position) : SameAt catalog index index' position := by
  by_cases hnumber : position.line ≤ index.text.count '\n'
  · obtain ⟨above, line, below, h⟩ := exists_isLine hnumber
    exact sameAt_of_isLine hcatalog h hindex (.inl hinside)
  · apply sameAt_of_offsetAt?_eq_none
    · rw [LineIndex.offsetAt?_eq_none_iff]
      omega
    · rw [LineIndex.offsetAt?_eq_none_iff, hindex, t.count_feed]
      omega

/-! Carriage returns. -/

/-- The text with a carriage return in front of each line feed. -/
def withReturns (text : List Char) : List Char :=
  text.flatMap fun c => if c = '\n' then ['\r', '\n'] else [c]

theorem apply_returns (text : List Char) : Retyping.returns.apply text = withReturns text := rfl

theorem recognizes_returns (catalog : Catalog) : Recognizes catalog .returns := by
  have hname : ∀ name : List Char, name.map Retyping.returns.letter = name := List.map_id
  constructor
  · intro name _
    rw [hname]
  · intro name _
    rw [hname]

/-- In documents whose lines end in different ways an editor shows the same, up to the ends of the
lines and on all lines, whichever catalog it uses. -/
theorem sameAt_withReturns (catalog : Catalog) (position : Position)
    (h : IsLine text position.line above line below)
    (hinside : position.character ≤ unitLength line) :
    SameAt catalog (.ofText text) (.ofText (withReturns text)) position :=
  sameAt_of_isLine (recognizes_returns catalog) h (apply_returns text).symm (.inr hinside)

theorem sameAt_withReturns_continued :
    let text := ['_', 'm', 'a', 'x', '(', ' ', '_', '\n', '1', ',']
    SameAt documented (.ofText text) (.ofText (withReturns text)) ⟨1, 2⟩ ∧
      (signatureHelpAt? (.ofText (withReturns text)) documented ⟨1, 2⟩).map (·.activeParameter) =
        some 1 := by
  intro text
  have hline : IsLine text 1 ['_', 'm', 'a', 'x', '(', ' ', '_', '\n'] ['1', ','] [] :=
    ⟨rfl, rfl, by simp, by simp, by simp⟩
  have hsame := sameAt_withReturns documented ⟨1, 2⟩ hline (by decide)
  refine ⟨hsame, ?_⟩
  rw [← hsame.signatureHelp]
  decide

/-! Letters. -/

theorem foldCase_map_toLower {name : List Char} (h : ∀ c ∈ name, isNameChar c) :
    foldCase (String.ofList (name.map Char.toLower)) = foldCase (String.ofList name) := by
  have hascii : ∀ {name : List Char}, (∀ c ∈ name, isNameChar c) → ∀ c ∈ name, c.toNat < 0x80 := by
    intro name h c hc
    have := (toNat_of_isNameChar (h c hc)).2
    omega
  have hlower : ∀ c ∈ name.map Char.toLower, isNameChar c := by
    intro c hc
    obtain ⟨d, hd, rfl⟩ := List.mem_map.mp hc
    exact (Retyping.lowercase.isNameChar_letter d).trans (h d hd)
  have htwice : Char.toLower ∘ Char.toLower = Char.toLower := funext toLower_toLower
  rw [foldCase, foldCase, String.toList_ofList, String.toList_ofList,
    lowercase_eq_map_toLower (hascii hlower), lowercase_eq_map_toLower (hascii h), List.map_map,
    htwice]

theorem recognizes_lowercase (h : catalog.Consistent) : Recognizes catalog .lowercase := by
  constructor
  · intro name hname
    exact (h.folded _ _ (foldCase_map_toLower hname)).2.2.1
  · intro name hname
    exact (h.folded _ _ (foldCase_map_toLower hname)).2.1

theorem apply_lowercase (text : List Char) :
    Retyping.lowercase.apply text = text.map Char.toLower := by
  induction text with
  | nil => rfl
  | cons c text ih =>
    rw [Retyping.apply_cons, ih, List.map_cons]
    by_cases hc : c = '\n'
    · subst hc
      rfl
    · rw [Retyping.lowercase.piece_of_ne hc]
      rfl

theorem sameAt_of_map_toLower_eq {policy : MergePolicy} {modules : List Library}
    (hok : Catalog.build policy modules = .ok catalog)
    (hsame : index.text.map Char.toLower = index'.text.map Char.toLower) (position : Position) :
    SameAt catalog index index' position := by
  obtain ⟨m, hadd, rfl⟩ := Catalog.exists_merged_of_build hok
  have hcatalog := recognizes_lowercase
    (Catalog.consistent_of_keeps (Merged.Keeps.empty.addAll hadd) modules)
  have hlower : (LineIndex.ofText (index.text.map Char.toLower)).text =
      Retyping.lowercase.apply index.text := (apply_lowercase _).symm
  have hlower' : (LineIndex.ofText (index.text.map Char.toLower)).text =
      Retyping.lowercase.apply index'.text := hsame.trans (apply_lowercase _).symm
  -- The lowercase form is typed anew from either document.
  have hleft := sameAt_apply hcatalog hlower rfl position
  have hright := sameAt_apply hcatalog hlower' rfl position
  exact ⟨hleft.hover.trans hright.hover.symm, hleft.completion.trans hright.completion.symm,
    hleft.signatureHelp.trans hright.signatureHelp.symm⟩

theorem sameAt_respelled :
    let catalog := Catalog.buildOrEmpty .lastWins Catalog.respelled
    let index := LineIndex.ofText ['_', 'M', 'a', 'x', '(']
    let index' := LineIndex.ofText ['_', 'm', 'A', 'X', '(']
    Catalog.build .lastWins Catalog.respelled = .ok catalog ∧
      index.text.map Char.toLower = index'.text.map Char.toLower ∧
      SameAt catalog index index' ⟨0, 5⟩ ∧
      (signatureHelpAt? index' catalog ⟨0, 5⟩).map (·.label) = some "_MAX ( $a, $b, $c )" := by
  intro catalog index index'
  have hok : Catalog.build .lastWins Catalog.respelled = .ok catalog := rfl
  have hlower : index.text.map Char.toLower = index'.text.map Char.toLower := rfl
  have hsame := sameAt_of_map_toLower_eq hok hlower ⟨0, 5⟩
  refine ⟨hok, hlower, hsame, ?_⟩
  rw [← hsame.signatureHelp]
  decide

end AutoItDocs.Editor
