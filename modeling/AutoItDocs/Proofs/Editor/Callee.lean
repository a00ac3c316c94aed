import AutoItDocs.Proofs.Catalog.Lookup
import AutoItDocs.Proofs.Script.Callee
import AutoItDocs.Proofs.Editor.SignatureHelp
/-!
The callee in a call is a token of the document. The reader of calls goes backwards from a bracket
through a part of the document, hovering goes forwards through a line; both stop at the same places.
Main statement: all over the callee of the call whose signature is shown, hovering shows the record
with that signature.
-/
namespace AutoItDocs.Editor

open Text Statement CallContext

/-- The cursor at the offset is in a call of `name`, which follows `front` in the text: the last
open call of the statement up to the cursor has its bracket behind the name, apart from blanks. -/
inductive IsCallee (text : List Char) (offset : Nat) : List Char → List Char → Prop where
  | behind {above statement inner name blanks typed after : List Char} :
      text = above ++ statement ++ after → byteLength (above ++ statement) = offset →
      IsLast (above ++ statement) above statement →
      statement = inner ++ (name ++ blanks) ++ '(' :: typed →
      IsLastCall statement (inner ++ (name ++ blanks)).length name → (∀ c ∈ blanks, isBlank c) →
        IsCallee text offset (above ++ inner) name

/-- The characters of `name`, which follows `front` in the text, have the columns of one line from
`column` on. -/
structure HasColumns (index : LineIndex) (front name : List Char) (number column : Nat) : Prop where
  offset : ∀ k ≤ name.length, index.offsetAt? ⟨number, column + k⟩ = some (byteLength front + k)
  position : ∀ k ≤ name.length, index.positionAt (byteLength front + k) = ⟨number, column + k⟩

variable {text above statement inner front name right : List Char} {offset j : Nat}
  {index : LineIndex} {catalog : Catalog} {position : Position}

/-- The text of a call is divided at its bracket. -/
theorem exists_append_of_isCall (h : IsCall statement j name) :
    ∃ before typed, statement = before ++ '(' :: typed ∧ before.length = j ∧
      calleeBefore? before.reverse = some name := by
  have hparenthesis := h.parenthesis
  rw [codeOf_eq, codeFrom_getElem?, Option.map_eq_some_iff] at hparenthesis
  obtain ⟨c, hc, hmark⟩ := hparenthesis
  obtain ⟨-, hsome⟩ := Option.ite_none_right_eq_some.mp hmark
  obtain rfl : c = '(' := Option.some.inj hsome
  obtain ⟨hlt, hget⟩ := List.getElem?_eq_some_iff.mp hc
  refine ⟨statement.take j, statement.drop (j + 1), ?_, List.length_take_of_le (by omega), h.callee⟩
  rw [← hget, List.getElem_cons_drop, List.take_append_drop]

/-- On the left a statement is bordered by a line feed. -/
theorem getLast?_above {p : Char → Prop} (h : IsLast text above statement)
    (hinner : ∀ c ∈ inner.getLast?, p c) (hfeed : p '\n') :
    ∀ c ∈ (above ++ inner).getLast?, p c := by
  intro c hc
  cases hlast : inner.getLast? with
  | none =>
    obtain rfl : inner = [] := List.getLast?_eq_none_iff.mp hlast
    rcases h.opens with rfl | ⟨front, rfl, -⟩
    · simp at hc
    · simp at hc
      exact hc ▸ hfeed
  | some d =>
    rw [List.getLast?_append, hlast] at hc
    cases hc
    exact hinner c hlast

namespace IsCallee

theorem exists_text_eq (h : IsCallee text offset front name) :
    ∃ right, text = front ++ (name ++ right) ∧ ∀ c ∈ right.head?, ¬ isNameChar c := by
  obtain @⟨above, _, inner, _, blanks, typed, after, htext, -, -, rfl, -, hblank⟩ := h
  refine ⟨blanks ++ '(' :: (typed ++ after), by simp [htext], ?_⟩
  cases blanks with
  | nil =>
    rintro _ ⟨⟩
    decide
  | cons c blanks =>
    rintro _ ⟨⟩
    exact not_isNameChar_of_isBlank (hblank c List.mem_cons_self)

theorem names (h : IsCallee text offset front name) : ∀ c ∈ name, isNameChar c := by
  obtain ⟨-, -, -, -, hcall, -⟩ := h
  exact names_of_calleeBefore? hcall.isCall.callee

theorem border (h : IsCallee text offset front name) :
    ∀ c ∈ front.getLast?, ¬ isNameChar c ∧ WordKind.ofSigil? c = none := by
  obtain ⟨-, -, hlast, rfl, hcall, hblank⟩ := h
  have hcallee := hcall.isCall.callee
  rw [List.take_left] at hcallee
  obtain ⟨hfront, hsigil⟩ := isFront_of_calleeBefore? hcallee hblank
  refine getLast?_above hlast (fun c hc => ⟨?_, Option.bind_eq_none_iff.mp hsigil c hc⟩) (by decide)
  rw [← List.head?_reverse] at hc
  exact hfront.opens c hc

/-- The reader of calls delimits a token. -/
theorem isToken (h : IsCallee text offset front name) (hfirst : ∃ c ∈ name.head?, ¬ c.isDigit) :
    IsToken text ⟨name, byteLength front, byteLength (front ++ name), .function⟩ := by
  obtain ⟨right, htext, hcloses⟩ := h.exists_text_eq
  have hparts : text = front ++ [] ++ name ++ right := by simp [htext]
  have hrun : IsRun front ([] ++ name) right := ⟨h.names, fun c hc => (h.border c hc).1, hcloses⟩
  have htoken := IsToken.bare hparts hrun (by simp) hfirst fun _ c hc => (h.border c hc).2
  rwa [List.append_nil] at htoken

/-- There is one name that the cursor is in a call of. -/
theorem unique {front' name' : List Char} (h : IsCallee text offset front name)
    (h' : IsCallee text offset front' name') : front = front' ∧ name = name' := by
  obtain ⟨htext, hoffset, hlast, rfl, hcall, hblank⟩ := h
  obtain ⟨htext', hoffset', hlast', hstatement', hcall', hblank'⟩ := h'
  obtain ⟨hbefore, -⟩ := append_inj_of_places_eq Char.utf8Size_pos (htext.symm.trans htext')
    (hoffset.trans hoffset'.symm)
  -- Both are in the one statement before the cursor, and this has one last call.
  rw [hbefore] at hlast
  obtain ⟨rfl, rfl⟩ := hlast.unique hlast'
  obtain ⟨hlength, rfl⟩ := hcall.unique hcall'
  obtain ⟨hbracket, -⟩ := List.append_inj hstatement' hlength
  have hcallee := hcall.isCall.callee
  rw [List.take_left] at hcallee
  rw [front_unique hcallee hblank hblank' hbracket]
  exact ⟨rfl, rfl⟩

end IsCallee

theorem exists_isCallee_of_callAt? {before after : List Char} {active : UInt32}
    (htext : text = before ++ after) (h : callAt? text (byteLength before) = some (name, active)) :
    ∃ front, IsCallee text (byteLength before) front name := by
  obtain ⟨above, statement, hlast⟩ := exists_isLast before
  rw [htext, callAt?_eq hlast] at h
  obtain ⟨-, j, hcall, -⟩ := find?_eq_some_iff_isLastCall.mp h
  obtain ⟨bracket, typed, rfl, rfl, hcallee⟩ := exists_append_of_isCall hcall.isCall
  obtain ⟨blanks, inner, hbracket, hfront, -, -⟩ := calleeBefore?_eq_some_iff.mp hcallee
  have hparts : bracket = inner.reverse ++ (name ++ blanks.reverse) := by
    rw [← bracket.reverse_reverse, hbracket]
    simp
  have hbefore := hlast.text_eq
  subst hparts
  rw [hbefore] at htext hlast
  rw [hbefore]
  exact ⟨_, .behind htext rfl hlast rfl hcall (by simpa using hfront.blank)⟩

/-- A name takes a column and a byte for each of its characters. -/
theorem takeUnits_within (hnames : ∀ c ∈ name, isNameChar c) (before rest : List Char) {k : Nat}
    (hk : k ≤ name.length) :
    takeUnits (unitLength before + k) (before ++ (name ++ rest)) = before ++ name.take k ∧
      unitLength (before ++ name.take k) = unitLength before + k ∧
      byteLength (before ++ name.take k) = byteLength before + k := by
  have htake : ∀ c ∈ name.take k, isNameChar c := fun c hc => hnames c (List.mem_of_mem_take hc)
  have hunits : unitLength (before ++ name.take k) = unitLength before + k := by
    rw [unitLength_append, unitLength_of_names htake, List.length_take_of_le hk]
  have hparts : before ++ (name ++ rest) = before ++ name.take k ++ (name.drop k ++ rest) := by
    rw [List.append_assoc, ← List.append_assoc (name.take k), List.take_append_drop]
  refine ⟨?_, hunits, ?_⟩
  · rw [hparts, ← hunits]
    exact takeWidth_places_append units_pos _ _
  · rw [byteLength_append, byteLength_of_names htake, List.length_take_of_le hk]

theorem exists_hasColumns (index : LineIndex) (htext : index.text = front ++ (name ++ right))
    (hnames : ∀ c ∈ name, isNameChar c) :
    ∃ number column, HasColumns index front name number column := by
  obtain ⟨above, before, below, rfl, -, hline⟩ := exists_isLine_of_cut front (name ++ right)
  have hfeed : ∀ c ∈ name, decide (c ≠ '\n') = true := by
    intro c hc
    exact decide_eq_true fun he : c = '\n' => absurd (he ▸ hnames c hc) (by decide)
  rw [← htext, List.takeWhile_append_of_pos hfeed] at hline
  refine ⟨(above ++ before).count '\n', unitLength before, fun k hk => ?_, fun k hk => ?_⟩
  · obtain ⟨htake, -, hbytes⟩ := takeUnits_within hnames before _ hk
    rw [LineIndex.offsetAt?_eq hline, htake, hbytes, byteLength_append, Nat.add_assoc]
  · obtain ⟨htake, hunits, hbytes⟩ := takeUnits_within hnames before _ hk
    have hposition := LineIndex.positionAt_of_isLine hline (unitLength before + k)
    rwa [htake, hunits, hbytes, ← Nat.add_assoc, ← byteLength_append] at hposition

theorem HasColumns.rangeOf_eq {number column : Nat} (h : HasColumns index front name number column)
    (hnames : ∀ c ∈ name, isNameChar c) :
    index.rangeOf (byteLength front) (byteLength (front ++ name)) =
      ⟨⟨number, column⟩, ⟨number, column + name.length⟩⟩ := by
  have hstart := h.position 0 (Nat.zero_le _)
  have hstop := h.position name.length (Nat.le_refl _)
  rw [Nat.add_zero, Nat.add_zero] at hstart
  rw [LineIndex.rangeOf, byteLength_append, byteLength_of_names hnames, hstart, hstop]

/-- Hovering shows what the catalog says of a callee from its start up to its end. -/
theorem hoverAt_of_isCallee (h : IsCallee index.text offset front name)
    (hfirst : ∃ c ∈ name.head?, ¬ c.isDigit) {markdown : String}
    (hmarkdown : catalog.hover? (String.ofList name) = some markdown) :
    ∃ number column, HasColumns index front name number column ∧
      ∀ position' offset', index.offsetAt? position' = some offset' →
        byteLength front ≤ offset' → offset' ≤ byteLength (front ++ name) →
          hoverAt index catalog position' = .ok (some ⟨markdown,
            ⟨⟨number, column⟩, ⟨number, column + name.length⟩⟩⟩) := by
  obtain ⟨right, htext, -⟩ := h.exists_text_eq
  obtain ⟨number, column, hcolumns⟩ := exists_hasColumns index htext h.names
  refine ⟨number, column, hcolumns, fun position' offset' hoffset' hstart hstop => ?_⟩
  have hword : IsFunctionAt index.text offset'
      ⟨name, byteLength front, byteLength (front ++ name), .function⟩ :=
    ⟨h.isToken hfirst, rfl, hstart, hstop⟩
  rw [hoverAt_of_isFunctionAt hoffset' hword, Except.ok.injEq, ofWord?_eq_some_iff]
  exact ⟨rfl, hmarkdown, (hcolumns.rangeOf_eq h.names).symm⟩

/-- The callee of the call whose signature is shown is one name of the text, and when it does not
begin with a digit, hovering shows the record with that signature from its start up to its end, with
the range of the name. -/
theorem hoverAt_callee {policy : MergePolicy} {modules : List Library} {help : SignatureHelp}
    (hok : Catalog.build policy modules = .ok catalog)
    (hhelp : signatureHelpAt? index catalog position = some help) :
    ∃ offset front name r active, index.offsetAt? position = some offset ∧
      (∀ front' name', IsCallee index.text offset front' name' ↔ front' = front ∧ name' = name) ∧
      r ∈ catalog.merged.table.entries ∧ catalog.signature? (String.ofList name) = some r ∧
      help = .ofSignature r active ∧
      ((∃ c ∈ name.head?, ¬ c.isDigit) →
        ∃ number column, HasColumns index front name number column ∧
          ∀ position' offset', index.offsetAt? position' = some offset' →
            byteLength front ≤ offset' → offset' ≤ byteLength (front ++ name) →
              hoverAt index catalog position' = .ok (some ⟨r.markdown,
                ⟨⟨number, column⟩, ⟨number, column + name.length⟩⟩⟩)) := by
  obtain ⟨offset, hoffset⟩ : ∃ offset, index.offsetAt? position = some offset := by
    rw [← Option.isSome_iff_exists, Option.isSome_iff_ne_none]
    intro hnone
    rw [signatureHelpAt?, hnone] at hhelp
    cases hhelp
  rw [signatureHelpAt?_eq hoffset, Option.bind_eq_some_iff] at hhelp
  obtain ⟨⟨name, active⟩, hcall, hhelp⟩ := hhelp
  obtain ⟨r, hr, rfl⟩ := Option.map_eq_some_iff.mp hhelp
  obtain ⟨before, after, htext, hbefore⟩ :=
    isBoundary_iff.mp (LineIndex.isBoundary_of_offsetAt? hoffset)
  rw [← hbefore] at hcall
  obtain ⟨front, hcallee⟩ := exists_isCallee_of_callAt? htext hcall
  rw [hbefore] at hcallee
  obtain ⟨m, hadd, rfl⟩ := Catalog.exists_merged_of_build hok
  have hconsistent := Catalog.consistent_of_keeps (Merged.Keeps.empty.addAll hadd) modules
  obtain ⟨hstored, hanswers⟩ := hconsistent.answers_of_signature? hr
  refine ⟨offset, front, name, r, active, hoffset, fun front' name' => ?_, hstored, hr, rfl,
    fun hfirst => hoverAt_of_isCallee hcallee hfirst hanswers.hover⟩
  constructor
  · exact fun hcallee' => hcallee'.unique hcallee
  · rintro ⟨rfl, rfl⟩
    exact hcallee

/-- A callee that starts the second line of a statement, with a blank in front of the bracket. -/
def calledBelow : LineIndex :=
  .ofText ['$', 'a', ' ', '_', '\n', '_', 'm', 'A', 'x', ' ', '(', '1', ',']

theorem isCallee_calledBelow :
    IsCallee calledBelow.text 13 ['$', 'a', ' ', '_', '\n'] ['_', 'm', 'A', 'x'] := by
  have hsecond : '\n' ∉ ['_', 'm', 'A', 'x', ' ', '(', '1', ','] := by decide
  have hfirst : '\n' ∉ ['$', 'a', ' ', '_'] := by decide
  have hcontinued : IsContinued (lastLine ['$', 'a', ' ', '_']) := by decide
  have hstatement : Continues calledBelow.text := continues_append_cons_iff.mpr
    ⟨continues_of_not_mem hfirst, hcontinued, continues_of_not_mem hsecond⟩
  have hcall : IsLastCall calledBelow.text 10 ['_', 'm', 'A', 'x'] := by
    refine ⟨by decide, fun k hk other hother => ?_⟩
    have hparenthesis := hother.parenthesis
    have hlt : k < 13 := (List.getElem?_eq_some_iff.mp hparenthesis).1
    obtain rfl | rfl : k = 11 ∨ k = 12 := by omega
    all_goals exact absurd hparenthesis (by decide)
  exact @IsCallee.behind _ _ [] _ ['$', 'a', ' ', '_', '\n'] _ [' '] ['1', ','] [] rfl rfl
    (.of_continues hstatement) rfl hcall (List.all_eq_true.mp rfl)

theorem hoverAt_calledBelow :
    ∃ help hover, signatureHelpAt? calledBelow documented ⟨1, 8⟩ = some help ∧
      help.label = "_Max ( $a, $b )" ∧ help.activeParameter = 1 ∧
      hover.markdown = "```autoit\n_Max ( $a, $b )\n```" ∧
      hover.range = ⟨⟨1, 0⟩, ⟨1, 4⟩⟩ ∧
      hoverAt calledBelow documented ⟨1, 0⟩ = .ok (some hover) ∧
      hoverAt calledBelow documented ⟨1, 4⟩ = .ok (some hover) := by
  have hok : Catalog.build .lastWins
      [.ofSignatures "Math" none [{ name := "_Max", label := "_Max ( $a, $b )" }]] =
        .ok documented := rfl
  obtain ⟨help, hhelp, hlabel, hactive⟩ : ∃ help,
      signatureHelpAt? calledBelow documented ⟨1, 8⟩ = some help ∧
        help.label = "_Max ( $a, $b )" ∧ help.activeParameter = 1 := ⟨_, rfl, rfl, rfl⟩
  obtain ⟨offset, front, name, r, active, hoffset, hcallee, -, hr, -, hshown⟩ :=
    hoverAt_callee hok hhelp
  have hcursor : calledBelow.offsetAt? ⟨1, 8⟩ = some 13 := by decide
  obtain rfl : 13 = offset := Option.some.inj (hcursor.symm.trans hoffset)
  obtain ⟨rfl, rfl⟩ := (hcallee _ _).mp isCallee_calledBelow
  have hrecord : documented.signature? (String.ofList ['_', 'm', 'A', 'x']) =
      some { name := "_Max", label := "_Max ( $a, $b )" } := by decide
  obtain rfl := Option.some.inj (hrecord.symm.trans hr)
  obtain ⟨number, column, hcolumns, hhover⟩ := hshown ⟨'_', rfl, by decide⟩
  have hline : IsLine calledBelow.text 1 ['$', 'a', ' ', '_', '\n']
      ['_', 'm', 'A', 'x', ' ', '(', '1', ','] [] := ⟨rfl, rfl, by simp, by decide, by simp⟩
  have hposition : calledBelow.positionAt 5 = ⟨1, 0⟩ := LineIndex.positionAt_of_isLine hline 0
  have hstart := hposition.symm.trans (hcolumns.position 0 (by decide))
  obtain ⟨rfl, rfl⟩ : 1 = number ∧ 0 = column := Position.mk.inj hstart
  refine ⟨help, _, hhelp, hlabel, hactive, ?_, ?_, hhover ⟨1, 0⟩ 5 ?_ ?_ ?_,
    hhover ⟨1, 4⟩ 9 ?_ ?_ ?_⟩
  all_goals decide

end AutoItDocs.Editor
