import AutoItDocs.Proofs.Script.CallContext
import AutoItDocs.Proofs.Script.Statement
import AutoItDocs.Proofs.Script.Token
/-!
Calls across the end of a continued line. What is read there is a space, the underscore that marks
the line as continued, and a line feed. Main statement: a space alone would do as well, unless the
text ends directly inside a parenthesis that comes first on the next line; the underscore is then
taken for the callee.
-/
namespace AutoItDocs.CallContext

open Text Statement

/-- Apart from blanks, the text begins with a parenthesis that is open at its end, and no call is
open inside of that. -/
def OpensFirst (text : List Char) : Prop :=
  ∃ rest, trimStart text = '(' :: rest ∧ IsOpen (codeOf ('(' :: rest)) 0 ∧
    ∀ j name, ¬ IsCall rest j name

/-- The innermost call at the end of a text behind a continued line is one of the marker. -/
structure CallsMarker (text : List Char) : Prop where
  opens : OpensFirst text
  continues : Continues text
  outside : ∀ quote, ¬ Lexes text (.literal quote)

variable {text before before' name near far a b : List Char} {c d d' : Char} {mode : Mode}

theorem isPlain_of_isBlank (h : isBlank c) : IsPlain c := by
  constructor
  · rintro (rfl | rfl) <;> exact absurd h (by decide)
  · rintro rfl
    exact absurd h (by decide)

/-- The callee of a bracket is not sought beyond a blank when something else stands in between. -/
theorem calleeBefore?_append_blank (hnear : ∃ c ∈ near, ¬ isBlank c) (hd : isBlank d)
    (far : List Char) : calleeBefore? (near ++ d :: far) = calleeBefore? near := by
  apply calleeBefore?_append_cons (not_isNameChar_of_isBlank hd)
  · constructor
    · rintro rfl
      exact absurd hd (by decide)
    · rintro rfl
      exact absurd hd (by decide)
  · have hrest : ¬ (near.dropWhile isBlank).isEmpty = true := by simpa using hnear
    rw [trimStart, List.dropWhile_append, if_neg hrest, trimStart]

theorem isOpen_first_iff :
    IsOpen (codeOf ('(' :: text)) 0 ↔ unmatched (codeFrom .code text) = 0 := by
  rw [isOpen_iff, codeOf_eq]
  exact and_iff_right (.inl rfl)

theorem opensFirst_cons_iff (h : isBlank c) : OpensFirst (c :: text) ↔ OpensFirst text := by
  simp only [OpensFirst, trimStart, List.dropWhile_cons_of_pos h]

theorem innermost?_openFrames_blank (h : isBlank c) :
    innermost? (openFrames before .code (c :: text)) =
      innermost? (openFrames (c :: before) .code text) := by
  have hplain := isPlain_of_isBlank h
  have hmark : markOf .code c ≠ some '(' := by
    rintro hmark
    obtain ⟨-, hc⟩ := Option.ite_none_right_eq_some.mp hmark
    obtain rfl := Option.some.inj hc
    exact absurd h (by decide)
  rw [innermost?_openFrames_cons, stepMode_plain hplain]
  simp [hmark]

/-- Which blank stands before a text does not matter to the call that is open at its end. -/
theorem innermost?_openFrames_congr (hd : isBlank d) (hd' : isBlank d') (far far' : List Char)
    (h : ¬ OpensFirst text) :
    innermost? (openFrames (d :: far) .code text) =
      innermost? (openFrames (d' :: far') .code text) := by
  induction text generalizing d d' far far' with
  | nil => rfl
  | cons c text ih =>
    by_cases hc : isBlank c
    · rw [innermost?_openFrames_blank hc, innermost?_openFrames_blank hc]
      exact ih hc hc _ _ fun hopens => h ((opensFirst_cons_iff hc).mpr hopens)
    · have hinner : ∀ (mode : Mode) (far : List Char) {d : Char}, isBlank d →
          openFrames (c :: d :: far) mode text = openFrames [c] mode text := by
        intro mode far d hd
        apply openFrames_congr
        intro near rest _
        have hnear : ∃ e ∈ near.reverse ++ [c], ¬ isBlank e := ⟨c, by simp, hc⟩
        simpa using calleeBefore?_append_blank hnear hd far
      rw [innermost?_openFrames_cons, innermost?_openFrames_cons, hinner _ far hd,
        hinner _ far' hd']
      by_cases hfirst : markOf .code c = some '(' ∧
          unmatched (codeFrom (stepMode .code c) text) = 0
      · -- Such a parenthesis has a call inside, which hides what the parenthesis is preceded by.
        obtain ⟨hmark, hopen⟩ := hfirst
        obtain ⟨-, hparenthesis⟩ := Option.ite_none_right_eq_some.mp hmark
        obtain rfl : c = '(' := Option.some.inj hparenthesis
        have hcall : innermost? (openFrames [] .code text) ≠ none := by
          intro hnone
          refine h ⟨text, List.dropWhile_cons_of_neg hc, isOpen_first_iff.mpr hopen, ?_⟩
          exact innermost?_eq_none_iff.mp hnone
        obtain ⟨call, hcall⟩ := Option.ne_none_iff_exists'.mp hcall
        have hmode : stepMode .code '(' = .code := rfl
        rw [openFrames_behind_parenthesis, hmode, hcall, Option.some_or, Option.some_or]
      · rw [if_neg hfirst, if_neg hfirst]

theorem calleeBefore?_cons_blank (h : isBlank c) (before : List Char) :
    calleeBefore? (c :: before) = calleeBefore? before := by
  rw [calleeBefore?, trimStart, List.dropWhile_cons_of_pos h, calleeBefore?, trimStart]

/-- A text that opens first ends in a call of the name before it. -/
theorem innermost?_openFrames_of_opensFirst (hcallee : calleeBefore? before = some name)
    (h : OpensFirst text) :
    ∃ commas, innermost? (openFrames before .code text) = some (name, commas) := by
  induction text generalizing before with
  | nil =>
    obtain ⟨rest, hrest, -⟩ := h
    cases hrest
  | cons c text ih =>
    by_cases hc : isBlank c
    · rw [innermost?_openFrames_blank hc]
      exact ih (by rwa [calleeBefore?_cons_blank hc]) ((opensFirst_cons_iff hc).mp h)
    · obtain ⟨rest, hrest, hopen, hcalls⟩ := h
      rw [trimStart, List.dropWhile_cons_of_neg hc, List.cons.injEq] at hrest
      obtain ⟨rfl, rfl⟩ := hrest
      have hmode : stepMode .code '(' = .code := rfl
      have hmark : markOf .code '(' = some '(' := rfl
      rw [innermost?_openFrames_cons, hmode, openFrames_behind_parenthesis,
        innermost?_eq_none_iff.mpr hcalls, isOpen_first_iff.mp hopen, hmark, hcallee]
      simp

/-- What a reader of a text has read when the text ends in code. -/
theorem read_eq (h : Lexes a .code) : read a = ⟨.code, (read a).frames, a.reverse⟩ := by
  have hmode : (read a).mode = .code := by rw [read_mode, lexes_iff.mp h]
  rw [← hmode, ← read_before]

theorem read_append_lineEnd (h : Lexes a .code) :
    read (a ++ lineEnd) = ⟨.code, (read a).frames, '\n' :: '_' :: ' ' :: a.reverse⟩ := by
  rw [read_append, read_eq h]
  rfl

theorem read_append_space (h : Lexes a .code) :
    read (a ++ [' ']) = ⟨.code, (read a).frames, ' ' :: a.reverse⟩ := by
  rw [read_append, read_eq h]
  rfl

/-- Text behind code is lexed as if it stood alone. -/
theorem lexes_append_iff (hcode : Lexes a .code) : Lexes (a ++ b) mode ↔ Lexes b mode := by
  rw [lexes_iff, lexes_iff, modeAfter_append, lexes_iff.mp hcode]

theorem lexes_append_lineEnd_iff (hcode : Lexes a .code) :
    Lexes (a ++ (lineEnd ++ b)) mode ↔ Lexes b mode := by
  rw [lexes_append_iff hcode, lexes_append_iff (by decide)]

theorem lexes_append_space_iff (hcode : Lexes a .code) :
    Lexes (a ++ ' ' :: b) mode ↔ Lexes b mode := by
  have hspace : Lexes [' '] .code := by decide
  rw [lexes_append_iff hcode, ← List.singleton_append, lexes_append_iff hspace]

theorem innermost?_lineEnd (hcode : Lexes a .code) (h : ¬ OpensFirst b) :
    innermost? (openFrames [] .code (a ++ (lineEnd ++ b))) =
      innermost? (openFrames [] .code (a ++ ' ' :: b)) := by
  have hcontinued := read_append (a ++ lineEnd) b
  have hjoined := read_append (a ++ [' ']) b
  rw [read_append_lineEnd hcode, List.append_assoc] at hcontinued
  rw [read_append_space hcode, List.append_assoc, List.singleton_append] at hjoined
  have hfeed : isBlank '\n' := by decide
  have hspace : isBlank ' ' := by decide
  rw [← read_frames, ← read_frames, hcontinued, hjoined, readOn_frames, readOn_frames,
    innermost?_append, innermost?_append, innermost?_openFrames_congr hfeed hspace _ _ h]

/-- A continued line and the next one are read like one line. -/
theorem find?_append_lineEnd (hcode : Lexes a .code)
    (h : OpensFirst b → ∃ quote, Lexes b (.literal quote)) :
    find? (a ++ (lineEnd ++ b)) = find? (a ++ ' ' :: b) := by
  by_cases hliteral : ∃ quote, Lexes b (.literal quote)
  · obtain ⟨quote, hquote⟩ := hliteral
    rw [find?_of_literal ((lexes_append_lineEnd_iff hcode).mpr hquote),
      find?_of_literal ((lexes_append_space_iff hcode).mpr hquote)]
  · rw [find?_of_not_literal, find?_of_not_literal, innermost?_lineEnd hcode (mt h hliteral)]
    · simpa only [lexes_append_space_iff hcode, not_exists] using hliteral
    · simpa only [lexes_append_lineEnd_iff hcode, not_exists] using hliteral

/-- The underscore at the end of the line is a callee to a parenthesis on the next line. -/
theorem find?_append_lineEnd_of_callsMarker (hcode : Lexes a .code) (h : CallsMarker b) :
    ∃ commas, find? (a ++ (lineEnd ++ b)) = some (['_'], commas) := by
  have houtside : ∀ quote, ¬ Lexes (a ++ (lineEnd ++ b)) (.literal quote) := by
    intro quote
    rw [lexes_append_lineEnd_iff hcode]
    exact h.outside quote
  have hmarker : calleeBefore? ('\n' :: '_' :: ' ' :: a.reverse) = some ['_'] := rfl
  obtain ⟨commas, hcommas⟩ := innermost?_openFrames_of_opensFirst hmarker h.opens
  refine ⟨commas, ?_⟩
  rw [find?_of_not_literal houtside, ← read_frames, ← List.append_assoc, read_append,
    read_append_lineEnd hcode, readOn_frames, innermost?_append, hcommas, Option.some_or]

end AutoItDocs.CallContext
