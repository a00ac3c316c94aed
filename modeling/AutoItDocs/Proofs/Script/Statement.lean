import AutoItDocs.Script.Statement
import AutoItDocs.Proofs.Text.Width
import AutoItDocs.Proofs.Text.Lines
/-!
Logical statements, said by the line feeds of a text. Main statement: the statement up to an offset
is the part of the text before the offset that continued lines hold together, and it starts where
the text starts or behind a line that is not continued.
-/
namespace AutoItDocs.Statement

open Text

/-- The line, apart from blanks at its end, is an underscore or ends in one after a space or tab. -/
def IsContinued (line : List Char) : Prop :=
  trimEnd line = ['_'] ∨ [' ', '_'] <:+ trimEnd line ∨ ['\t', '_'] <:+ trimEnd line

instance (line : List Char) : Decidable (IsContinued line) :=
  inferInstanceAs (Decidable (_ ∨ _ ∨ _))

/-- The line, apart from blanks at its end, ends in an underscore after a space or a tab. -/
def EndsInMarker (line : List Char) : Prop :=
  [' ', '_'] <:+ trimEnd line ∨ ['\t', '_'] <:+ trimEnd line

instance (line : List Char) : Decidable (EndsInMarker line) :=
  inferInstanceAs (Decidable (_ ∨ _))

def lineEnd : List Char := [' ', '_', '\n']

/-- Every line of the text but the last one is continued. -/
def Continues (text : List Char) : Prop :=
  ∀ front rest, text = front ++ '\n' :: rest → IsContinued (lastLine front)

/-- A blank line comes first, and further lines come after it. -/
def StartsBlank (text : List Char) : Prop :=
  ∃ line rest, text = line ++ '\n' :: rest ∧ ∀ c ∈ line, isBlank c

/-- The text ends in `statement`, which `above` comes before. -/
structure IsLast (text above statement : List Char) : Prop where
  text_eq : text = above ++ statement
  opens : above = [] ∨ ∃ front, above = front ++ ['\n'] ∧ ¬ IsContinued (lastLine front)
  continues : Continues statement

variable {text line above statement left right before after : List Char}

theorem isContinued_reverse_iff : isContinued line.reverse = true ↔ IsContinued line := by
  have htrim : trimEnd line = (trimStart line.reverse).reverse := rfl
  have hspace : [' ', '_'] <:+ trimEnd line ↔ ['_', ' '] <+: trimStart line.reverse := by
    rw [htrim, ← List.reverse_prefix, List.reverse_reverse]
    rfl
  have htab : ['\t', '_'] <:+ trimEnd line ↔ ['_', '\t'] <+: trimStart line.reverse := by
    rw [htrim, ← List.reverse_prefix, List.reverse_reverse]
    rfl
  rw [IsContinued, hspace, htab, htrim, List.reverse_eq_iff, isContinued]
  generalize trimStart line.reverse = trimmed
  match trimmed with
  | [] => simp
  | [c] => by_cases hc : c = '_' <;> simp [hc]
  | c :: d :: rest =>
    by_cases hc : c = '_' <;> simp [hc, eq_comm (a := '_'), eq_comm (a := ' '), eq_comm (a := '\t')]

theorem isContinued_append_of_exists {backwards : List Char} (h : ∃ c ∈ backwards, ¬ isBlank c)
    (further : List Char) : isContinued (backwards ++ ' ' :: further) = isContinued backwards := by
  have hrest : ¬ (backwards.dropWhile isBlank).isEmpty = true := by simpa using h
  rw [isContinued, isContinued, trimStart, trimStart, List.dropWhile_append, if_neg hrest]
  generalize backwards.dropWhile isBlank = trimmed at hrest
  match trimmed with
  | [] => exact absurd rfl hrest
  | [c] => by_cases hc : c = '_' <;> simp [hc]
  | c :: d :: rest => by_cases hc : c = '_' <;> simp [hc]

theorem not_isContinued_of_blank (h : ∀ c ∈ line, isBlank c) : ¬ IsContinued line := by
  have hall : ∀ c ∈ line.reverse, isBlank c := by simpa using h
  have htrim : line.reverse.dropWhile isBlank = [] := by simpa using hall
  rw [← isContinued_reverse_iff, isContinued, trimStart, htrim]
  decide

/-- What stands before a space on a line counts when the line is blank from there on. -/
theorem isContinued_append_space_iff (front line : List Char) :
    IsContinued (front ++ ' ' :: line) ↔
      IsContinued line ∨ (∀ c ∈ line, isBlank c) ∧ IsContinued front := by
  have hreverse : (front ++ ' ' :: line).reverse = line.reverse ++ ' ' :: front.reverse := by simp
  rw [← isContinued_reverse_iff, hreverse]
  by_cases hblank : ∀ c ∈ line, isBlank c
  · have hall : ∀ c ∈ line.reverse, isBlank c := by simpa using hblank
    have hspace : isBlank ' ' := by decide
    rw [or_iff_right (not_isContinued_of_blank hblank), and_iff_right hblank, isContinued,
      trimStart, List.dropWhile_append_of_pos hall, List.dropWhile_cons_of_pos hspace]
    exact isContinued_reverse_iff
  · have hexists : ∃ c ∈ line.reverse, ¬ isBlank c := by simpa using hblank
    rw [or_iff_left fun h => hblank h.1, isContinued_append_of_exists hexists,
      isContinued_reverse_iff]

theorem exists_blanks_behind (line : List Char) :
    ∃ blanks, line = trimEnd line ++ blanks ∧ ∀ c ∈ blanks, isBlank c := by
  refine ⟨(line.reverse.takeWhile isBlank).reverse, ?_, ?_⟩
  · rw [trimEnd, ← List.reverse_append, List.takeWhile_append_dropWhile, List.reverse_reverse]
  · exact fun c hc => List.mem_takeWhile_imp (List.mem_reverse.mp hc)

theorem mem_trimEnd {c : Char} (hc : c ∈ line) (hblank : ¬ isBlank c) : c ∈ trimEnd line := by
  obtain ⟨blanks, hline, hblanks⟩ := exists_blanks_behind line
  rw [hline, List.mem_append] at hc
  exact hc.resolve_right fun hmem => hblank (hblanks c hmem)

theorem EndsInMarker.exists_text_eq (h : EndsInMarker line) :
    ∃ front c blanks, line = front ++ c :: '_' :: blanks ∧ (c = ' ' ∨ c = '\t') ∧
      ∀ d ∈ blanks, isBlank d := by
  obtain ⟨blanks, hline, hblanks⟩ := exists_blanks_behind line
  rcases h with ⟨front, hfront⟩ | ⟨front, hfront⟩
  · rw [← hfront] at hline
    exact ⟨front, ' ', blanks, by simpa using hline, .inl rfl, hblanks⟩
  · rw [← hfront] at hline
    exact ⟨front, '\t', blanks, by simpa using hline, .inr rfl, hblanks⟩

/-- A line with more than an underscore on it is continued only by a marker at its end. -/
theorem isContinued_iff_endsInMarker {c : Char} (hc : c ∈ line) (hblank : ¬ isBlank c)
    (hne : c ≠ '_') : IsContinued line ↔ EndsInMarker line := by
  apply or_iff_right
  intro htrim
  have hmem := mem_trimEnd hc hblank
  rw [htrim, List.mem_singleton] at hmem
  exact hne hmem

theorem continues_of_not_mem (h : '\n' ∉ line) : Continues line := by
  rintro front rest rfl
  exact absurd (by simp) h

theorem continues_append_cons_iff :
    Continues (left ++ '\n' :: right) ↔
      Continues left ∧ IsContinued (lastLine left) ∧ Continues right := by
  constructor
  · intro h
    refine ⟨?_, h left right rfl, ?_⟩
    · rintro front rest rfl
      exact h front (rest ++ '\n' :: right) (by simp)
    · rintro front rest rfl
      rw [← lastLine_append_cons left front]
      exact h (left ++ '\n' :: front) rest (by simp)
  · rintro ⟨hleft, hline, hright⟩ front rest htext
    -- The break is the one between the texts, or it stands in one of them.
    rcases List.append_eq_append_iff.mp htext with ⟨between, rfl, hrest⟩ | ⟨between, rfl, hrest⟩
    · cases between with
      | nil => rwa [List.append_nil]
      | cons c between =>
        rw [List.cons_append, List.cons.injEq] at hrest
        obtain ⟨rfl, rfl⟩ := hrest
        rw [lastLine_append_cons]
        exact hright between rest rfl
    · cases between with
      | nil =>
        rw [List.append_nil] at hline
        exact hline
      | cons c between =>
        rw [List.cons_append, List.cons.injEq] at hrest
        obtain ⟨rfl, -⟩ := hrest
        exact hleft front between rfl

/-- A text without a break at its end stays held together when its last line gets longer. -/
theorem Continues.append (h : Continues left) (hline : '\n' ∉ line) : Continues (left ++ line) := by
  intro front rest htext
  rcases List.append_eq_append_iff.mp htext with ⟨between, -, hrest⟩ | ⟨between, rfl, hrest⟩
  · exact absurd (by simp [hrest]) hline
  · cases between with
    | nil =>
      rw [List.nil_append] at hrest
      exact absurd (by simp [← hrest]) hline
    | cons c between =>
      rw [List.cons_append, List.cons.injEq] at hrest
      obtain ⟨rfl, -⟩ := hrest
      exact h front between rfl

theorem split_reverse_fst (text : List Char) :
    (split (· == '\n') text.reverse).1 = (lastLine text).reverse := by
  have hclass : (fun c : Char => ! (c == '\n')) = fun c => decide (c ≠ '\n') := by
    funext c
    by_cases hc : c = '\n' <;> simp [hc]
  rw [split_fst, hclass, lastLine, List.reverse_reverse]

theorem linesAbove_append_cons (left right : List Char) :
    linesAbove (left ++ '\n' :: right) =
      linesAbove right ++ (lastLine left).reverse :: linesAbove left := by
  have hsplit : split (· == '\n') (right.reverse ++ '\n' :: left.reverse) = _ :=
    split_append_cons rfl right.reverse left.reverse
  rw [linesAbove, List.reverse_append, List.reverse_cons, List.append_assoc, List.singleton_append,
    hsplit, split_reverse_fst left]
  rfl

theorem linesAbove_of_not_mem (h : '\n' ∉ line) : linesAbove line = [] := by
  have hnot : ∀ c ∈ line.reverse, ¬ (c == '\n') = true := by
    intro c hc he
    obtain rfl : c = '\n' := by simpa using he
    exact h (List.mem_reverse.mp hc)
  rw [linesAbove, split_of_forall_not hnot]

theorem byteLength_split (text : List Char) :
    byteLength (split (· == '\n') text).1 + bytesOf (split (· == '\n') text).2 =
      byteLength text := by
  induction text with
  | nil => rfl
  | cons c text ih =>
    rw [split, byteLength_cons, ← ih]
    by_cases hc : c = '\n'
    · have hsize : '\n'.utf8Size = 1 := rfl
      simp only [hc, beq_self_eq_true, if_true, bytesOf, byteLength_nil, hsize]
      omega
    · have hne : (c == '\n') = false := by simpa using hc
      simp only [hne, Bool.false_eq_true, if_false, byteLength_cons]
      omega

/-- All lines of a text together, its last one included, have its bytes and a further line feed. -/
theorem bytesOf_lines (text : List Char) :
    bytesOf ((lastLine text).reverse :: linesAbove text) = byteLength text + 1 := by
  have h := byteLength_split text.reverse
  rw [split_reverse_fst, byteLength_reverse text] at h
  rw [bytesOf, linesAbove, ← h]
  omega

theorem Continues.forall_linesAbove (h : Continues text) :
    ∀ line ∈ linesAbove text, isContinued line = true := by
  induction text using lines_induction with
  | line line hline => simp [linesAbove_of_not_mem hline]
  | feed front line hline ih =>
    obtain ⟨hfront, hlast, -⟩ := continues_append_cons_iff.mp h
    rw [linesAbove_append_cons, linesAbove_of_not_mem hline, List.nil_append, List.forall_mem_cons]
    exact ⟨isContinued_reverse_iff.mpr hlast, ih hfront⟩

namespace IsLast

theorem of_continues (h : Continues text) : IsLast text [] text := ⟨rfl, .inl rfl, h⟩

/-- A line that is not continued ends the statement before it. -/
theorem append_cons_of_ended (h : IsLast right above statement)
    (hline : above = [] → ¬ IsContinued (lastLine left)) :
    IsLast (left ++ '\n' :: right) (left ++ '\n' :: above) statement := by
  refine ⟨by simp [h.text_eq], .inr ?_, h.continues⟩
  rcases h.opens with rfl | ⟨front, rfl, hfront⟩
  · exact ⟨left, rfl, hline rfl⟩
  · exact ⟨left ++ '\n' :: front, by simp, by rwa [lastLine_append_cons]⟩

theorem lastLine_eq (h : IsLast text above statement) : lastLine text = lastLine statement := by
  rcases h.opens with habove | ⟨front, habove, -⟩
  · rw [h.text_eq, habove, List.nil_append]
  · rw [h.text_eq, habove, List.append_assoc, List.singleton_append, lastLine_append_cons]

/-- A line that is continued leads the statement on. -/
theorem append_cons_of_continued (h : IsLast left above statement)
    (hline : IsContinued (lastLine left)) (hright : Continues right) :
    IsLast (left ++ '\n' :: right) above (statement ++ '\n' :: right) := by
  refine ⟨by simp [h.text_eq], h.opens, continues_append_cons_iff.mpr ⟨h.continues, ?_, hright⟩⟩
  rwa [← h.lastLine_eq]

theorem append (h : IsLast text above statement) (hline : '\n' ∉ line) :
    IsLast (text ++ line) above (statement ++ line) :=
  ⟨by simp [h.text_eq], h.opens, h.continues.append hline⟩

theorem linesAbove_eq (h : IsLast text above statement) :
    (linesAbove text).dropWhile isContinued = [] ∧ above = [] ∨
      ∃ front, above = front ++ ['\n'] ∧
        (linesAbove text).dropWhile isContinued = (lastLine front).reverse :: linesAbove front := by
  have hcontinued := h.continues.forall_linesAbove
  rcases h.opens with habove | ⟨front, habove, hfront⟩
  · refine .inl ⟨?_, habove⟩
    rw [h.text_eq, habove, List.nil_append]
    simpa using hcontinued
  · refine .inr ⟨front, habove, ?_⟩
    rw [← isContinued_reverse_iff] at hfront
    rw [h.text_eq, habove, List.append_assoc, List.singleton_append, linesAbove_append_cons,
      List.dropWhile_append_of_pos hcontinued, List.dropWhile_cons_of_neg hfront]

theorem start_eq (h : IsLast before above statement) (after : List Char) :
    start (before ++ after) (byteLength before) = byteLength above := by
  have htake : takeBytes (byteLength before) (before ++ after) = before :=
    takeBytes_byteLength_append before after
  rw [start, htake]
  rcases h.linesAbove_eq with ⟨hlines, rfl⟩ | ⟨front, rfl, hlines⟩
  · rw [hlines]
    rfl
  · rw [hlines, bytesOf_lines, byteLength_append]
    rfl

theorem upTo_eq (h : IsLast before above statement) (after : List Char) :
    upTo (before ++ after) (byteLength before) = statement := by
  have htake : takeBytes (byteLength before) (before ++ after) = before :=
    takeBytes_byteLength_append before after
  rw [upTo, h.start_eq, htake, h.text_eq]
  exact dropWidth_places_append Char.utf8Size_pos above statement

theorem unique {above' statement' : List Char} (h : IsLast text above statement)
    (h' : IsLast text above' statement') : above = above' ∧ statement = statement' := by
  obtain rfl : statement = statement' := (h.upTo_eq []).symm.trans (h'.upTo_eq [])
  exact ⟨List.append_cancel_right (h.text_eq.symm.trans h'.text_eq), rfl⟩

end IsLast

theorem exists_isLast (text : List Char) : ∃ above statement, IsLast text above statement := by
  induction text using lines_induction with
  | line line hline => exact ⟨[], line, .of_continues (continues_of_not_mem hline)⟩
  | feed front line hline ih =>
    have hlast := IsLast.of_continues (continues_of_not_mem hline)
    by_cases hcontinued : IsContinued (lastLine front)
    · obtain ⟨above, statement, h⟩ := ih
      exact ⟨above, _, h.append_cons_of_continued hcontinued (continues_of_not_mem hline)⟩
    · exact ⟨_, line, hlast.append_cons_of_ended fun _ => hcontinued⟩

variable {a b : List Char}

theorem lastLine_append_lineEnd (a line : List Char) :
    lastLine (a ++ (lineEnd ++ line)) = lastLine line := by
  have happend : a ++ (lineEnd ++ line) = (a ++ [' ', '_']) ++ '\n' :: line := by simp [lineEnd]
  rw [happend, lastLine_append_cons]

theorem IsLast.append_lineEnd (h : IsLast a above statement) (hb : Continues b) :
    IsLast (a ++ (lineEnd ++ b)) above (statement ++ (lineEnd ++ b)) := by
  have hmarker : '\n' ∉ [' ', '_'] := by decide
  have hline : IsContinued (lastLine (a ++ [' ', '_'])) := by
    rw [lastLine_append hmarker, isContinued_append_space_iff]
    exact .inl (by decide)
  simpa [lineEnd] using (h.append hmarker).append_cons_of_continued hline hb

/-- A continued line and the next one belong to the statements that their joined line belongs to,
unless the joined line would be continued by a marker of the first of them. -/
theorem isLast_lineEnd_or_space (h : IsLast a above statement)
    (hjoin : ¬ (IsContinued (lastLine a) ∧ StartsBlank b)) :
    (Continues b ∧ IsLast (a ++ (lineEnd ++ b)) above (statement ++ (lineEnd ++ b)) ∧
        IsLast (a ++ ' ' :: b) above (statement ++ ' ' :: b)) ∨
      ∃ front front' last, IsLast (a ++ (lineEnd ++ b)) front last ∧
        IsLast (a ++ ' ' :: b) front' last := by
  by_cases hfeed : '\n' ∈ b
  · obtain ⟨line, rest, rfl, hline⟩ := List.eq_append_cons_of_mem hfeed
    have hspace : '\n' ∉ ' ' :: line := by simpa using hline
    have hsame : IsContinued (lastLine (a ++ ' ' :: line)) ↔ IsContinued line := by
      rw [lastLine_append hspace, isContinued_append_space_iff]
      apply or_iff_left
      rintro ⟨hblank, hcontinued⟩
      exact hjoin ⟨hcontinued, line, rest, rfl, hblank⟩
    -- Either all of `b` belongs to the statement, or one that begins in `b` does not reach `a`.
    by_cases hb : IsContinued line ∧ Continues rest
    · have hheld : Continues (line ++ '\n' :: rest) := by
        rw [continues_append_cons_iff, lastLine_of_not_mem hline]
        exact ⟨continues_of_not_mem hline, hb⟩
      have hjoined := (h.append hspace).append_cons_of_continued (hsame.mpr hb.1) hb.2
      exact .inl ⟨hheld, h.append_lineEnd hheld, by simpa using hjoined⟩
    · obtain ⟨front, last, hlast⟩ := exists_isLast rest
      have hended : front = [] → ¬ IsContinued line := by
        rintro rfl hcontinued
        have hrest : rest = last := hlast.text_eq
        exact hb ⟨hcontinued, hrest ▸ hlast.continues⟩
      have hleft : front = [] → ¬ IsContinued (lastLine (a ++ (lineEnd ++ line))) := by
        rwa [lastLine_append_lineEnd, lastLine_of_not_mem hline]
      have hjoined : front = [] → ¬ IsContinued (lastLine (a ++ ' ' :: line)) := by rwa [hsame]
      refine .inr ⟨a ++ (lineEnd ++ line) ++ '\n' :: front, a ++ ' ' :: line ++ '\n' :: front, last,
        ?_, ?_⟩
      · simpa using hlast.append_cons_of_ended hleft
      · simpa using hlast.append_cons_of_ended hjoined
  · have hb := continues_of_not_mem hfeed
    have hspace : '\n' ∉ ' ' :: b := by simpa using hfeed
    exact .inl ⟨hb, h.append_lineEnd hb, h.append hspace⟩

end AutoItDocs.Statement
