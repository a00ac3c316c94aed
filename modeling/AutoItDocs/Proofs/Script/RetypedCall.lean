import AutoItDocs.Proofs.Script.Callee
import AutoItDocs.Proofs.Script.Continuation
import AutoItDocs.Proofs.Script.Retyping
/-!
Statements and calls of a text that is typed anew. The blanks in front of a line feed neither end
the statement nor part a callee from its bracket, so the reader goes through the new text like
through the old one and finds the same call, under the new spelling of its name.
-/
namespace AutoItDocs.Retyping

open Text Statement CallContext

variable {text line above before statement margin : List Char} {mode : Mode} {c : Char}
  (t : Retyping)

theorem lastLine_apply (text : List Char) :
    lastLine (t.apply text) = (lastLine text).map t.letter := by
  induction text using lines_induction with
  | line line hline =>
    rw [t.apply_of_not_mem hline, lastLine_of_not_mem (t.feed_not_mem_map hline),
      lastLine_of_not_mem hline]
  | feed front line hline ih =>
    rw [apply_append_feed, lastLine_append_cons, lastLine_append_cons, t.apply_of_not_mem hline,
      lastLine_of_not_mem (t.feed_not_mem_map hline), lastLine_of_not_mem hline]

theorem isContinued_line (hmargin : ∀ c ∈ margin, isBlank c) (line : List Char) :
    IsContinued (line.map t.letter ++ margin) ↔ IsContinued line := by
  have hblank : isBlank ∘ t.letter = isBlank := funext t.isBlank_letter
  have hreverse : ∀ c ∈ margin.reverse, isBlank c := by simpa using hmargin
  have hmarker : ∀ c, t.letter c = '_' ↔ c = '_' := fun c => t.letter_eq_iff (by decide)
  have hmarker' : t.letter '_' = '_' := (hmarker '_').mpr rfl
  have hspace : ∀ c, t.letter c = ' ' ↔ c = ' ' := fun c => t.letter_eq_iff (by decide)
  have htab : ∀ c, t.letter c = '\t' ↔ c = '\t' := fun c => t.letter_eq_iff (by decide)
  rw [← isContinued_reverse_iff, ← isContinued_reverse_iff, List.reverse_append, ← List.map_reverse,
    isContinued, isContinued, trimStart, trimStart, List.dropWhile_append_of_pos hreverse,
    List.dropWhile_map, hblank]
  generalize line.reverse.dropWhile isBlank = trimmed
  cases trimmed with
  | nil => rfl
  | cons c trimmed =>
    cases trimmed with
    | nil => by_cases hc : c = '_' <;> simp [hc, hmarker, hmarker']
    | cons d rest => by_cases hc : c = '_' <;> simp [hc, hmarker, hmarker', hspace, htab]

theorem isContinued_lastLine (text : List Char) :
    IsContinued (lastLine (t.apply text ++ t.margin)) ↔ IsContinued (lastLine text) := by
  rw [lastLine_append t.margin_line, lastLine_apply]
  exact t.isContinued_line t.margin_blank (lastLine text)

theorem continues (h : Continues text) : Continues (t.apply text) := by
  induction text using lines_induction with
  | line line hline =>
    rw [t.apply_of_not_mem hline]
    exact continues_of_not_mem (t.feed_not_mem_map hline)
  | feed front line hline ih =>
    obtain ⟨hfront, hlast, -⟩ := continues_append_cons_iff.mp h
    have hline' := continues_of_not_mem (t.feed_not_mem_map hline)
    rw [apply_append_feed, continues_append_cons_iff, isContinued_lastLine,
      t.apply_of_not_mem hline]
    exact ⟨(ih hfront).append t.margin_line, hlast, hline'⟩

theorem isLast (h : IsLast before above statement) :
    IsLast (t.apply before) (t.apply above) (t.apply statement) := by
  refine ⟨by rw [h.text_eq, apply_append], ?_, t.continues h.continues⟩
  rcases h.opens with rfl | ⟨front, rfl, hfront⟩
  · exact .inl rfl
  · refine .inr ⟨t.apply front ++ t.margin, t.apply_append_feed front [], ?_⟩
    rwa [isContinued_lastLine]

/-! The text in front of a bracket is read backwards. -/

def back (before : List Char) : List Char := (t.apply before.reverse).reverse

theorem back_cons (c : Char) (before : List Char) :
    t.back (c :: before) = (t.piece c).reverse ++ t.back before := by
  rw [back, List.reverse_cons, apply_append, List.reverse_append, back, apply_cons, apply_nil,
    List.append_nil]

theorem back_append (a b : List Char) : t.back (a ++ b) = t.back a ++ t.back b := by
  rw [back, List.reverse_append, apply_append, List.reverse_append, back, back]

theorem back_of_not_mem (h : '\n' ∉ line) : t.back line = line.map t.letter := by
  have hreverse : '\n' ∉ line.reverse := by simpa using h
  rw [back, t.apply_of_not_mem hreverse, List.map_reverse, List.reverse_reverse]

theorem head?_back (before : List Char) : (t.back before).head? = before.head?.map t.letter := by
  have hfeed : t.letter '\n' = '\n' := (t.letter_eq_iff (by decide)).mpr rfl
  cases before with
  | nil => rfl
  | cons c before =>
    rw [back_cons]
    by_cases hc : c = '\n'
    · simp [hc, piece_feed, hfeed]
    · simp [t.piece_of_ne hc]

theorem isBlank_of_mem_back (h : ∀ c ∈ before, isBlank c) : ∀ c ∈ t.back before, isBlank c := by
  induction before with
  | nil => simp [back]
  | cons d before ih =>
    rw [List.forall_mem_cons] at h
    rw [back_cons]
    intro c hc
    rcases List.mem_append.mp hc with hpiece | hrest
    · by_cases hd : d = '\n'
      · subst hd
        have hc' : c = '\n' ∨ c ∈ t.margin := by simpa [piece_feed] using hpiece
        rcases hc' with rfl | hmargin
        · decide
        · exact t.margin_blank c hmargin
      · obtain rfl : c = t.letter d := by simpa [t.piece_of_ne hd] using hpiece
        rw [isBlank_letter]
        exact h.1
    · exact ih h.2 c hrest

theorem isFront {blanks run rest : List Char} (h : IsFront blanks run rest) :
    IsFront (t.back blanks) (run.map t.letter) (t.back rest) where
  blank := t.isBlank_of_mem_back h.blank
  names c hc := by
    obtain ⟨d, hd, rfl⟩ := List.mem_map.mp hc
    rw [isNameChar_letter]
    exact h.names d hd
  opens c hc := by
    rw [head?_back] at hc
    obtain ⟨d, hd, rfl⟩ := Option.map_eq_some_iff.mp hc
    rw [isNameChar_letter]
    exact h.opens d hd
  parted hrun c hc := by
    rw [head?_back] at hc
    obtain ⟨d, hd, rfl⟩ := Option.map_eq_some_iff.mp hc
    rw [isBlank_letter]
    exact h.parted (List.map_eq_nil_iff.mp hrun) d hd

theorem calleeBefore?_back (before : List Char) :
    calleeBefore? (t.back before) = (calleeBefore? before).map (·.map t.letter) := by
  obtain ⟨blanks, run, rest, rfl, hfront⟩ := exists_isFront before
  have hrun : '\n' ∉ run := fun hmem => absurd (hfront.names _ hmem) (by decide)
  have hsigil : (t.back rest).head?.bind WordKind.ofSigil? = rest.head?.bind WordKind.ofSigil? := by
    rw [head?_back]
    cases rest.head? <;> simp
  rw [back_append, back_append, t.back_of_not_mem hrun, calleeBefore?_eq (t.isFront hfront),
    calleeBefore?_eq hfront, hsigil]
  simp only [ne_eq, List.map_eq_nil_iff]
  split <;> simp

/-! A reader of the new text is, between two characters of the old one, where a reader of the old
text is. -/

def frame (f : Frame) : Frame := { f with callee := f.callee.map (·.map t.letter) }

def reader (r : Reader) : Reader where
  mode := r.mode
  frames := r.frames.map t.frame
  before := t.back r.before

/-- A literal is between quotes. -/
def IsProper (mode : Mode) : Prop := ∀ quote, mode = .literal quote → IsQuote quote

theorem isProper_code : IsProper .code := nofun

theorem isProper_stepMode (h : IsProper mode) (c : Char) : IsProper (stepMode mode c) := by
  intro quote hquote
  cases mode with
  | code =>
    simp only [stepMode] at hquote
    split at hquote
    · cases hquote
      assumption
    · split at hquote <;> cases hquote
  | literal opening =>
    simp only [stepMode] at hquote
    split at hquote
    · cases hquote
    · exact h quote hquote
  | comment =>
    simp only [stepMode] at hquote
    split at hquote <;> cases hquote

/-- The characters that mean something to a reader. -/
def marks : List Char := ['"', '\'', ';', '(', '[', ')', ']', ',', '\n']

theorem not_mem_marks_of_isBlank (h : isBlank c) (hfeed : c ≠ '\n') : c ∉ marks := by
  have hmarks : ∀ d ∈ marks, (!isBlank d || d == '\n') = true := List.all_eq_true.mp rfl
  intro hc
  simpa [h, hfeed] using hmarks c hc

theorem not_mem_marks_of_isAlpha (h : c.isAlpha) : c ∉ marks := by
  have hmarks : ∀ d ∈ marks, (!d.isAlpha) = true := List.all_eq_true.mp rfl
  intro hc
  simpa [h] using hmarks c hc

theorem step_of_not_mem_marks {r : Reader} (hmode : IsProper r.mode) (h : c ∉ marks) :
    step r c = { r with before := c :: r.before } := by
  have hne : ∀ d ∈ marks, c ≠ d := fun d hd he => h (he ▸ hd)
  simp only [marks, List.forall_mem_cons] at hne
  obtain ⟨hdouble, hsingle, hcomment, hopen, hbracket, hclose, hclose', hcomma, hfeed, -⟩ := hne
  have hframes : stepFrames r.before r.frames c = r.frames := by
    simp [stepFrames, hopen, hbracket, hclose, hclose', hcomma]
  have hstep : stepMode r.mode c = r.mode := by
    cases hr : r.mode with
    | code => simp [stepMode, hdouble, hsingle, hcomment]
    | literal quote =>
      have hquote : c ≠ quote := by
        rcases hmode quote hr with rfl | rfl
        · exact hdouble
        · exact hsingle
      rw [stepMode, if_neg hquote]
    | comment => rw [stepMode, if_neg hfeed]
  rw [step, hstep, hframes, ite_self]

/-- The blanks at the end of a line are read over. -/
theorem readOn_margin {r : Reader} (hmode : IsProper r.mode) (hblank : ∀ c ∈ margin, isBlank c)
    (hfeed : '\n' ∉ margin) :
    readOn r margin = { r with before := margin.reverse ++ r.before } := by
  induction margin generalizing r with
  | nil => rfl
  | cons c margin ih =>
    rw [List.forall_mem_cons] at hblank
    rw [List.mem_cons, not_or] at hfeed
    have hc := not_mem_marks_of_isBlank hblank.1 (Ne.symm hfeed.1)
    have hrest := ih (r := { r with before := c :: r.before }) hmode hblank.2 hfeed.2
    change readOn (step r c) margin = _
    rw [step_of_not_mem_marks hmode hc, hrest]
    simp

theorem stepFrames_back (before : List Char) (frames : List Frame) (c : Char) :
    stepFrames (t.back before) (frames.map t.frame) c =
      (stepFrames before frames c).map t.frame := by
  have hcomma : countComma (frames.map t.frame) = (countComma frames).map t.frame := by
    cases frames <;> rfl
  simp only [stepFrames, hcomma, calleeBefore?_back]
  split_ifs
  · rfl
  · rfl
  · rw [List.map_tail]
  · rfl
  · rfl

theorem step_letter {r : Reader} (hmode : IsProper r.mode) (hc : c ≠ '\n') :
    step (t.reader r) (t.letter c) = t.reader (step r c) := by
  have hbefore : t.letter c :: t.back r.before = t.back (c :: r.before) := by
    rw [back_cons, t.piece_of_ne hc]
    rfl
  -- A letter may be another one afterwards, but neither of the two means anything to a reader.
  rcases eq_or_isAlpha_of_toLower_eq (t.letter_toLower c) with hsame | ⟨hnew, hold⟩
  · rw [hsame] at hbefore ⊢
    simp only [step, reader, stepFrames_back, hbefore]
    split <;> rfl
  · have hmode' : IsProper (t.reader r).mode := hmode
    rw [step_of_not_mem_marks hmode' (not_mem_marks_of_isAlpha hnew),
      step_of_not_mem_marks hmode (not_mem_marks_of_isAlpha hold)]
    simp only [reader, hbefore]

theorem readOn_piece {r : Reader} (hmode : IsProper r.mode) (c : Char) :
    readOn (t.reader r) (t.piece c) = t.reader (step r c) := by
  by_cases hc : c = '\n'
  · subst hc
    have hmode' : IsProper (t.reader r).mode := hmode
    have hbefore : '\n' :: (t.margin.reverse ++ t.back r.before) = t.back ('\n' :: r.before) := by
      simp [back_cons, piece_feed]
    have hframes : ∀ before frames, stepFrames before frames '\n' = frames := fun _ _ => rfl
    rw [piece_feed, readOn, List.foldl_append]
    change step (readOn (t.reader r) t.margin) '\n' = _
    rw [readOn_margin hmode' t.margin_blank t.margin_line]
    simp only [step, reader, hbefore, hframes, ite_self]
  · rw [t.piece_of_ne hc]
    exact t.step_letter hmode hc

theorem readOn_apply {r : Reader} (hmode : IsProper r.mode) (text : List Char) :
    readOn (t.reader r) (t.apply text) = t.reader (readOn r text) := by
  induction text generalizing r with
  | nil => rfl
  | cons c text ih =>
    rw [apply_cons, readOn, List.foldl_append]
    change readOn (readOn (t.reader r) (t.piece c)) (t.apply text) =
      t.reader (readOn (step r c) text)
    rw [t.readOn_piece hmode, ih (isProper_stepMode hmode c)]

theorem innermost?_map (frames : List Frame) :
    innermost? (frames.map t.frame) =
      (innermost? frames).map fun (name, commas) => (name.map t.letter, commas) := by
  induction frames with
  | nil => rfl
  | cons f frames ih =>
    obtain ⟨callee, commas⟩ := f
    cases callee with
    | none => exact ih
    | some name => rfl

theorem find?_apply (text : List Char) :
    find? (t.apply text) =
      (find? text).map fun (name, commas) => (name.map t.letter, commas) := by
  have hread : read (t.apply text) = t.reader (read text) :=
    t.readOn_apply (r := {}) isProper_code text
  simp only [find?, hread, reader, innermost?_map]
  split <;> rfl

end AutoItDocs.Retyping
