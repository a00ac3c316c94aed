import AutoItDocs.Proofs.Script.Hidden
import AutoItDocs.Proofs.Script.PositionOrder
import AutoItDocs.Proofs.Editor.SignatureHelp
/-!
Signature help around a comment. Main statement: inside the comment there is the help of the place
where it begins, and below its line what it says makes no difference, apart from a marker at its end
that continues the line.
-/
namespace AutoItDocs.Editor

open Text Statement CallContext

variable {before above statement body body' front front' : List Char}

theorem not_mem_comment (h : '\n' ∉ body) : '\n' ∉ ';' :: body := by simpa using h

theorem isContinued_comment_iff (h : '\n' ∉ body) (before : List Char) :
    IsContinued (lastLine (before ++ ';' :: body)) ↔
      EndsInMarker (lastLine (before ++ ';' :: body)) := by
  have hsemicolon : ';' ∈ lastLine (before ++ ';' :: body) := by
    rw [lastLine_append (not_mem_comment h)]
    simp
  exact isContinued_iff_endsInMarker hsemicolon (by decide) (by decide)

theorem count_comment (h : '\n' ∉ body) (before : List Char) :
    (before ++ ';' :: body).count '\n' = before.count '\n' := by
  rw [List.count_append, List.count_eq_zero_of_not_mem (not_mem_comment h), Nat.add_zero]

/-- Where the line above it is not continued into it, a text ends in the same statement whatever
stands above. -/
theorem exists_isLast_below (left : List Char) :
    ∃ last, ∀ front, ¬ (IsContinued (lastLine front) ∧ Continues left) →
      ∃ above, IsLast (front ++ '\n' :: left) above last := by
  obtain ⟨above, last, h⟩ := exists_isLast left
  refine ⟨last, fun front hended => ⟨_, h.append_cons_of_ended ?_⟩⟩
  rintro rfl hcontinued
  have hleft : left = last := h.text_eq
  exact hended ⟨hcontinued, hleft ▸ h.continues⟩

/-- A position below a line leads to the same place in what follows the line, whatever stands up to
the end of that line. -/
theorem exists_cut_below (after : List Char) (number character : Nat) :
    (∀ front, (LineIndex.ofText (front ++ '\n' :: after)).offsetAt?
        ⟨front.count '\n' + number + 1, character⟩ = none) ∨
      ∃ left right, after = left ++ right ∧ ∀ front,
        (LineIndex.ofText (front ++ '\n' :: after)).offsetAt?
          ⟨front.count '\n' + number + 1, character⟩ =
            some (byteLength (front ++ '\n' :: left)) := by
  cases hoffset : (LineIndex.ofText after).offsetAt? ⟨number, character⟩ with
  | none =>
    left
    intro front
    rw [LineIndex.offsetAt?_append_feed, hoffset, Option.map_none]
  | some offset =>
    right
    obtain ⟨left, right, hafter, rfl⟩ :=
      isBoundary_iff.mp (LineIndex.isBoundary_of_offsetAt? hoffset)
    refine ⟨left, right, hafter, fun front => ?_⟩
    rw [LineIndex.offsetAt?_append_feed, hoffset, Option.map_some, ← byteLength_append]
    simp

/-- Texts that cannot be told apart by the calls below their last lines: both of these are continued
or neither is, and a statement that goes on below them leaves the same call open. -/
structure AlikeBelow (front front' : List Char) : Prop where
  continued : IsContinued (lastLine front) ↔ IsContinued (lastLine front')
  call : ∀ left, IsContinued (lastLine front) → Continues left →
    ∃ above above' statement statement', IsLast (front ++ '\n' :: left) above statement ∧
      IsLast (front' ++ '\n' :: left) above' statement' ∧ find? statement = find? statement'

theorem AlikeBelow.signatureHelpAt?_eq (h : AlikeBelow front front') (catalog : Catalog)
    (after : List Char) (number character : Nat) :
    signatureHelpAt? (.ofText (front ++ '\n' :: after)) catalog
        ⟨front.count '\n' + number + 1, character⟩ =
      signatureHelpAt? (.ofText (front' ++ '\n' :: after)) catalog
        ⟨front'.count '\n' + number + 1, character⟩ := by
  rcases exists_cut_below after number character with hnone | ⟨left, right, rfl, hoffset⟩
  · simp only [signatureHelpAt?, hnone]
    rfl
  · have htext : ∀ front : List Char,
        (LineIndex.ofText (front ++ '\n' :: (left ++ right))).text =
          front ++ '\n' :: left ++ right :=
      fun front => (List.append_assoc front ('\n' :: left) right).symm
    by_cases hheld : IsContinued (lastLine front) ∧ Continues left
    · obtain ⟨above, above', statement, statement', hlast, hlast', hcall⟩ :=
        h.call left hheld.1 hheld.2
      rw [signatureHelpAt?_eq_find? hlast (htext front) (hoffset front),
        signatureHelpAt?_eq_find? hlast' (htext front') (hoffset front'), hcall]
    · obtain ⟨last, hbelow⟩ := exists_isLast_below left
      obtain ⟨above, hlast⟩ := hbelow front hheld
      obtain ⟨above', hlast'⟩ := hbelow front' (by rwa [← h.continued])
      rw [signatureHelpAt?_eq_find? hlast (htext front) (hoffset front),
        signatureHelpAt?_eq_find? hlast' (htext front') (hoffset front')]

/-- All comments behind one text that leave its line continued are alike, and so are all others. -/
theorem alikeBelow_comments (h : IsLast before above statement) (hcode : Lexes statement .code)
    (hbody : '\n' ∉ body) (hbody' : '\n' ∉ body')
    (hmarker : EndsInMarker (lastLine (before ++ ';' :: body)) ↔
      EndsInMarker (lastLine (before ++ ';' :: body'))) :
    AlikeBelow (before ++ ';' :: body) (before ++ ';' :: body') := by
  have hcontinued : IsContinued (lastLine (before ++ ';' :: body)) ↔
      IsContinued (lastLine (before ++ ';' :: body')) := by
    rw [isContinued_comment_iff hbody, isContinued_comment_iff hbody', hmarker]
  refine ⟨hcontinued, fun left hline hleft => ?_⟩
  have hlast := h.append (not_mem_comment hbody)
  have hlast' := h.append (not_mem_comment hbody')
  have hends := (isContinued_comment_iff hbody before).mp hline
  have hends' := hmarker.mp hends
  rw [hlast.lastLine_eq] at hends
  rw [hlast'.lastLine_eq] at hends'
  refine ⟨above, above, _, _, hlast.append_cons_of_continued hline hleft,
    hlast'.append_cons_of_continued (hcontinued.mp hline) hleft, ?_⟩
  have hcall := find?_behind_comment hcode hbody hbody' hends hends' left
  simpa using hcall

/-- Up to any place in a comment, the call is the one in front of the comment. -/
theorem find?_append_within (hcode : Lexes statement .code) (hbody : '\n' ∉ body)
    {part : List Char} (hpart : part <+: ';' :: body) :
    find? (statement ++ part) = find? statement := by
  cases part with
  | nil => rw [List.append_nil]
  | cons c part =>
    obtain ⟨rfl, hrest⟩ := List.cons_prefix_cons.mp hpart
    exact find?_append_comment hcode fun hfeed => hbody (hrest.subset hfeed)

theorem signatureHelpAt?_within (h : IsLast before above statement)
    (hcode : Lexes statement .code) (hbody : '\n' ∉ body) (catalog : Catalog) (after : List Char)
    {position : Position} (hline : position.line = (Position.behind before).line)
    (hcolumn : (Position.behind before).character ≤ position.character) :
    signatureHelpAt? (.ofText (before ++ ';' :: (body ++ '\n' :: after))) catalog position =
      (find? statement).bind (helpFor catalog) := by
  have hinside : ∀ c ∈ ';' :: body, decide (c ≠ '\n') = true := by
    intro c hc
    exact decide_eq_true fun he : c = '\n' => not_mem_comment hbody (he ▸ hc)
  have hrest : (';' :: (body ++ '\n' :: after)).takeWhile (· ≠ '\n') = ';' :: body :=
    takeWhile_append_exact hinside (by simp)
  have hoffset := LineIndex.offsetAt?_append_of_behind_le before (';' :: (body ++ '\n' :: after))
    hline hcolumn
  rw [hrest, ← byteLength_append] at hoffset
  have hpart : takeUnits (position.character - (Position.behind before).character) (';' :: body) <+:
      ';' :: body := takeWidth_isPrefix units _ _
  generalize takeUnits _ (';' :: body) = part at hoffset hpart
  have hlast := h.append fun hfeed => not_mem_comment hbody (hpart.subset hfeed)
  obtain ⟨rest, hparts⟩ := id hpart
  have htext : before ++ ';' :: (body ++ '\n' :: after) =
      before ++ part ++ (rest ++ '\n' :: after) := by
    rw [← List.cons_append, ← hparts]
    simp
  rw [signatureHelpAt?_eq_find? hlast htext hoffset, find?_append_within hcode hbody hpart]

/-- Inside a comment, up to the end of its line, there is the help of the place of its semicolon.
Below its line, another comment in its place makes no difference unless just one of the two lines is
continued. -/
theorem signatureHelpAt?_comment (catalog : Catalog) (h : IsLast before above statement)
    (hcode : Lexes statement .code) (hbody : '\n' ∉ body) (after : List Char) :
    let index := LineIndex.ofText (before ++ ';' :: (body ++ '\n' :: after))
    let semicolon := index.positionAt (byteLength before)
    (∀ body', '\n' ∉ body' →
      (EndsInMarker (lastLine (before ++ ';' :: body)) ↔
        EndsInMarker (lastLine (before ++ ';' :: body'))) →
      ∀ position : Position, semicolon.line < position.line →
        signatureHelpAt? index catalog position =
          signatureHelpAt? (.ofText (before ++ ';' :: (body' ++ '\n' :: after))) catalog
            position) ∧
      ∀ position : Position, position.line = semicolon.line →
        semicolon.character ≤ position.character →
        signatureHelpAt? index catalog position = signatureHelpAt? index catalog semicolon := by
  intro index semicolon
  have hsemicolon : semicolon = .behind before := LineIndex.positionAt_byteLength _ _
  rw [hsemicolon]
  refine ⟨fun body' hbody' hmarker position hbelow => ?_, fun position hline hcolumn => ?_⟩
  · obtain ⟨number, hnumber⟩ := Nat.exists_eq_add_of_lt hbelow
    obtain ⟨line, character⟩ := position
    obtain rfl : line = before.count '\n' + number + 1 := hnumber
    have halike := (alikeBelow_comments h hcode hbody hbody' hmarker).signatureHelpAt?_eq catalog
      after number character
    rw [count_comment hbody, count_comment hbody'] at halike
    simpa [index] using halike
  · rw [signatureHelpAt?_within h hcode hbody catalog after hline hcolumn]
    exact (signatureHelpAt?_within h hcode hbody catalog after rfl (Nat.le_refl _)).symm

/-- The first comment leaves a literal and a bracket open, the second one closes a bracket; both
continue their line. The help below is for the call in front of them. -/
theorem signatureHelpAt?_comment_continued :
    let before := ['_', 'M', 'a', 'x', '(']
    let body := ['"', '(', ' ', '_']
    let body' := [')', ',', '\t', '_', ' ']
    let index := LineIndex.ofText (before ++ ';' :: (body ++ '\n' :: ['1', ',']))
    IsLast before [] before ∧ Lexes before .code ∧
      (EndsInMarker (lastLine (before ++ ';' :: body)) ↔
        EndsInMarker (lastLine (before ++ ';' :: body'))) ∧
      signatureHelpAt? index documented ⟨1, 2⟩ =
        signatureHelpAt? (.ofText (before ++ ';' :: (body' ++ '\n' :: ['1', ',']))) documented
          ⟨1, 2⟩ ∧
      (signatureHelpAt? index documented ⟨1, 2⟩).map (·.activeParameter) = some 1 ∧
      signatureHelpAt? index documented ⟨0, 8⟩ = signatureHelpAt? index documented ⟨0, 5⟩ := by
  intro before body body' index
  have hlast : IsLast before [] before := .of_continues (continues_of_not_mem (by decide))
  have hcode : Lexes before .code := by decide
  have hmarker : EndsInMarker (lastLine (before ++ ';' :: body)) ↔
      EndsInMarker (lastLine (before ++ ';' :: body')) := by decide
  have hsemicolon : index.positionAt (byteLength before) = ⟨0, 5⟩ :=
    LineIndex.positionAt_byteLength before (';' :: (body ++ '\n' :: ['1', ',']))
  obtain ⟨hbelow, hwithin⟩ := signatureHelpAt?_comment documented hlast hcode
    (show '\n' ∉ body by decide) ['1', ',']
  rw [hsemicolon] at hbelow hwithin
  exact ⟨hlast, hcode, hmarker, hbelow body' (by decide) hmarker ⟨1, 2⟩ (by decide),
    by decide, hwithin ⟨0, 8⟩ rfl (by decide)⟩

end AutoItDocs.Editor
