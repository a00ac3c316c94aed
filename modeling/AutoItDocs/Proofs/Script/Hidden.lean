import AutoItDocs.Proofs.Script.Callee
import AutoItDocs.Proofs.Script.Continuation
/-!
What stands in literals and comments is hidden from the reader of calls: it changes no open bracket,
and the callee of a later bracket is not sought inside. Main statement: the call that is open at the
end of a text does not depend on what a literal before it holds.
-/
namespace AutoItDocs.CallContext

open Text Statement

/-- Nothing is code in the text when it is read on from `mode`. -/
def IsHidden (mode : Mode) (text : List Char) : Prop := ∀ mark ∈ codeFrom mode text, mark = none

variable {text before body u v line a b : List Char} {quote c : Char} {mode : Mode}

theorem isHidden_nil (mode : Mode) : IsHidden mode [] := fun _ hmark => absurd hmark List.not_mem_nil

theorem isHidden_cons_iff :
    IsHidden mode (c :: text) ↔ markOf mode c = none ∧ IsHidden (stepMode mode c) text :=
  List.forall_mem_cons

theorem isHidden_append_iff :
    IsHidden mode (a ++ b) ↔ IsHidden mode a ∧ IsHidden (modeAfter mode a) b := by
  induction a generalizing mode with
  | nil => exact (and_iff_right (isHidden_nil mode)).symm
  | cons c a ih => rw [List.cons_append, isHidden_cons_iff, isHidden_cons_iff, ih, and_assoc]; rfl

theorem markOf_of_ne_code (h : mode ≠ .code) (c : Char) : markOf mode c = none :=
  if_neg fun hmark => h hmark.2

theorem markOf_of_not_isPlain (h : ¬ IsPlain c) (mode : Mode) : markOf mode c = none :=
  if_neg fun hmark => h hmark.1

theorem Doubled.isHidden (h : Doubled quote body) (hquote : IsQuote quote) :
    IsHidden (.literal quote) body := by
  have hinside : Mode.literal quote ≠ .code := Mode.noConfusion
  induction h with
  | nil => exact isHidden_nil _
  | other hne _ ih =>
    rw [isHidden_cons_iff, stepMode, if_neg hne]
    exact ⟨markOf_of_ne_code hinside _, ih⟩
  | pair _ ih =>
    -- Between the two quotes the reader is in code, but sees no character there.
    rw [isHidden_cons_iff, isHidden_cons_iff, stepMode, if_pos rfl, stepMode_quote hquote]
    exact ⟨markOf_of_ne_code hinside _, markOf_of_not_isPlain (fun hplain => hplain.1 hquote) _, ih⟩

theorem isHidden_literal (hquote : IsQuote quote) (h : Doubled quote body) :
    IsHidden .code (quote :: (body ++ [quote])) := by
  have hplain : ¬ IsPlain quote := fun hplain => hplain.1 hquote
  rw [isHidden_cons_iff, stepMode_quote hquote, isHidden_append_iff, isHidden_cons_iff]
  exact ⟨markOf_of_not_isPlain hplain _, h.isHidden hquote, markOf_of_not_isPlain hplain _,
    isHidden_nil _⟩

theorem isHidden_of_comment (h : '\n' ∉ body) : IsHidden .comment body := by
  induction body with
  | nil => exact isHidden_nil _
  | cons c body ih =>
    rw [List.mem_cons, not_or] at h
    rw [isHidden_cons_iff, stepMode, if_neg (Ne.symm h.1)]
    exact ⟨markOf_of_ne_code Mode.noConfusion c, ih h.2⟩

theorem isHidden_comment (h : '\n' ∉ body) : IsHidden .code (';' :: body) :=
  isHidden_cons_iff.mpr ⟨rfl, isHidden_of_comment h⟩

theorem isHidden_comment_feed (h : '\n' ∉ body) : IsHidden .code (';' :: (body ++ ['\n'])) := by
  rw [← List.cons_append, isHidden_append_iff]
  have hmode : modeAfter .code (';' :: body) = .comment := modeAfter_comment h
  rw [hmode]
  exact ⟨isHidden_comment h, isHidden_cons_iff.mpr ⟨rfl, isHidden_nil _⟩⟩

theorem modeAfter_comment_feed (h : '\n' ∉ body) :
    modeAfter .code (';' :: (body ++ ['\n'])) = .code := by
  change modeAfter .comment (body ++ ['\n']) = .code
  rw [modeAfter_append, modeAfter_comment h]
  rfl

theorem modeAfter_literal (hquote : IsQuote quote) (h : Doubled quote body) :
    modeAfter .code (quote :: (body ++ [quote])) = .code := by
  change modeAfter (stepMode .code quote) (body ++ [quote]) = .code
  rw [stepMode_quote hquote, modeAfter_append, h.modeAfter_eq hquote]
  exact if_pos rfl

theorem readOn_frames_of_isHidden {r : Reader} (h : IsHidden r.mode text) :
    (readOn r text).frames = r.frames := by
  induction text generalizing r with
  | nil => rfl
  | cons c text ih =>
    obtain ⟨hmark, htext⟩ := isHidden_cons_iff.mp h
    have hframes : (step r c).frames = r.frames := by rw [step_frames, hmark, roleOf_none]
    exact (ih htext).trans hframes

/-- Two texts leave the same calls open behind them when the reader is in the same place with the
same frames, and a bracket that comes later has the same callee. -/
theorem find?_append_congr (hmode : (read a).mode = (read b).mode)
    (hframes : (read a).frames = (read b).frames)
    (hcallee : ∀ near, calleeBefore? (near ++ a.reverse) = calleeBefore? (near ++ b.reverse))
    (after : List Char) : find? (a ++ after) = find? (b ++ after) := by
  have hopen : openFrames a.reverse (read b).mode after =
      openFrames b.reverse (read b).mode after :=
    openFrames_congr fun near _ _ => hcallee near.reverse
  have hmode' : (readOn (read a) after).mode = (readOn (read b) after).mode := by
    rw [readOn_mode, readOn_mode, hmode]
  have hframes' : (readOn (read a) after).frames = (readOn (read b) after).frames := by
    rw [readOn_frames, readOn_frames, read_before, read_before, hmode, hframes, hopen]
  simp only [find?, read_append, hmode', hframes']

theorem read_frames_append (hcode : Lexes before .code) (h : IsHidden .code text) :
    (read (before ++ text)).frames = (read before).frames := by
  rw [read_append, readOn_frames_of_isHidden]
  rwa [read_mode, lexes_iff.mp hcode]

theorem read_mode_append (hcode : Lexes before .code) (text : List Char) :
    (read (before ++ text)).mode = modeAfter .code text := by
  rw [read_mode, modeAfter_append, lexes_iff.mp hcode]

/-- Hidden pieces are alike to what follows them when they end in one mode and no callee of a later
bracket tells them apart. -/
theorem find?_hidden_congr (hcode : Lexes before .code) (ha : IsHidden .code a)
    (hb : IsHidden .code b) (hmode : modeAfter .code a = modeAfter .code b)
    (hcallee : ∀ near, calleeBefore? (near ++ (before ++ a).reverse) =
      calleeBefore? (near ++ (before ++ b).reverse)) (after : List Char) :
    find? (before ++ a ++ after) = find? (before ++ b ++ after) := by
  refine find?_append_congr ?_ ?_ hcallee after
  · rw [read_mode_append hcode, read_mode_append hcode, hmode]
  · rw [read_frames_append hcode ha, read_frames_append hcode hb]

theorem calleeBefore?_append_quote (hquote : IsQuote quote) (near far : List Char) :
    calleeBefore? (near ++ quote :: far) = calleeBefore? near := by
  rcases hquote with rfl | rfl
  · exact calleeBefore?_append_cons (by decide) (by decide)
      (dropWhile_append_cons_of_neg (by decide) near far)
  · exact calleeBefore?_append_cons (by decide) (by decide)
      (dropWhile_append_cons_of_neg (by decide) near far)

/-- The call at the end of a text does not depend on what a literal holds: brackets and commas in it
are not counted, it ends at the same place, and the callee of a later bracket is not sought in it.
This is so for quotes right in front of the literal and right behind it, too. -/
theorem find?_literal_contents (hcode : Lexes before .code) (hquote : IsQuote quote)
    (hu : Doubled quote u) (hv : Doubled quote v) (after : List Char) :
    find? (before ++ quote :: (u ++ quote :: after)) =
      find? (before ++ quote :: (v ++ quote :: after)) := by
  have hcallee : ∀ near, calleeBefore? (near ++ (before ++ quote :: (u ++ [quote])).reverse) =
      calleeBefore? (near ++ (before ++ quote :: (v ++ [quote])).reverse) := by
    intro near
    simp [calleeBefore?_append_quote hquote near]
  have hmode := (modeAfter_literal hquote hu).trans (modeAfter_literal hquote hv).symm
  have h := find?_hidden_congr hcode (isHidden_literal hquote hu) (isHidden_literal hquote hv) hmode
    hcallee after
  simpa using h

/-- One literal holds a bracket, a semicolon and the quote itself, the other one a line feed. -/
theorem find?_literal_contents_brackets :
    Lexes ['f', '(', '1', ','] .code ∧ Doubled '"' [')', ';', '"', '"', '(', ','] ∧
      Doubled '"' ['\'', '\n'] ∧
      find? (['f', '(', '1', ','] ++ '"' :: ([')', ';', '"', '"', '(', ','] ++
          '"' :: [' ', '(', 'x', ','])) =
        find? (['f', '(', '1', ','] ++ '"' :: (['\'', '\n'] ++ '"' :: [' ', '(', 'x', ','])) := by
  have hcode : Lexes ['f', '(', '1', ','] .code := by decide
  have hu : Doubled '"' [')', ';', '"', '"', '(', ','] :=
    .other (by decide) (.other (by decide) (.pair (.other (by decide) (.other (by decide) .nil))))
  have hv : Doubled '"' ['\'', '\n'] := .other (by decide) (.other (by decide) .nil)
  exact ⟨hcode, hu, hv, find?_literal_contents hcode (.inl rfl) hu hv _⟩

/-- The call at the end of a comment is the one in front of the comment. -/
theorem find?_append_comment (hcode : Lexes before .code) (h : '\n' ∉ body) :
    find? (before ++ ';' :: body) = find? before := by
  have hcomment : (read (before ++ ';' :: body)).mode = .comment := by
    rw [read_mode_append hcode]
    exact modeAfter_comment h
  have hmode : (read before).mode = .code := by rw [read_mode, lexes_iff.mp hcode]
  simp only [find?, hcomment, hmode, read_frames_append hcode (isHidden_comment h)]

/-- The callee of a bracket that comes first on the next line is the marker of the continued line,
whatever else stands on that line. -/
theorem calleeBefore?_behind_marker (h : EndsInMarker line) (near far : List Char) :
    calleeBefore? (near ++ '\n' :: (line.reverse ++ far)) =
      if near.all isBlank then some ['_'] else calleeBefore? near := by
  have hfeed : isBlank '\n' := by decide
  have hmark : isNameChar '_' := by decide
  by_cases hnear : near.all isBlank
  · obtain ⟨front, c, blanks, rfl, hc, hblanks⟩ := h.exists_text_eq
    rw [if_pos hnear]
    rw [List.all_eq_true] at hnear
    refine calleeBefore?_eq_some_iff.mpr
      ⟨near ++ '\n' :: blanks.reverse, c :: (front.reverse ++ far), by simp, ?_, by decide, ?_⟩
    · constructor
      · simpa [or_imp, forall_and, hfeed] using ⟨hnear, hblanks⟩
      · simpa using hmark
      · intro b hb
        obtain rfl : c = b := by simpa using hb
        rcases hc with rfl | rfl <;> decide
      · exact fun hempty => absurd hempty (by decide)
    · rcases hc with rfl | rfl <;> rfl
  · have hexists : ∃ c ∈ near, ¬ isBlank c := by simpa using hnear
    rw [if_neg hnear, calleeBefore?_append_blank hexists hfeed]

theorem reverse_append_comment (before body : List Char) :
    (before ++ ';' :: (body ++ ['\n'])).reverse = '\n' :: (before ++ ';' :: body).reverse := by
  simp

/-- Behind a comment on a continued line, the call does not depend on what the comment says. -/
theorem find?_behind_comment (hcode : Lexes before .code) (hu : '\n' ∉ u) (hv : '\n' ∉ v)
    (hmarker : EndsInMarker (lastLine (before ++ ';' :: u)))
    (hmarker' : EndsInMarker (lastLine (before ++ ';' :: v))) (after : List Char) :
    find? (before ++ ';' :: (u ++ '\n' :: after)) =
      find? (before ++ ';' :: (v ++ '\n' :: after)) := by
  have hcallee : ∀ near, calleeBefore? (near ++ (before ++ ';' :: (u ++ ['\n'])).reverse) =
      calleeBefore? (near ++ (before ++ ';' :: (v ++ ['\n'])).reverse) := by
    intro near
    rw [reverse_append_comment, reverse_append_comment]
    obtain ⟨front, hfront⟩ := exists_append_lastLine (before ++ ';' :: u)
    obtain ⟨front', hfront'⟩ := exists_append_lastLine (before ++ ';' :: v)
    rw [hfront, hfront', List.reverse_append, List.reverse_append,
      calleeBefore?_behind_marker hmarker, calleeBefore?_behind_marker hmarker']
  have hmode := (modeAfter_comment_feed hu).trans (modeAfter_comment_feed hv).symm
  have h := find?_hidden_congr hcode (isHidden_comment_feed hu) (isHidden_comment_feed hv) hmode
    hcallee after
  simpa using h

end AutoItDocs.CallContext
