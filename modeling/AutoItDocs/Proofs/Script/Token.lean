import AutoItDocs.Script.Word
import AutoItDocs.Text.Blank
import AutoItDocs.Proofs.Script.LineIndex
import Mathlib.Data.List.Basic
/-!
Tokens of a text, said without reading it from left to right: in each maximal run of name
characters, what is left of it without its leading digits. Main statement: the word at an offset is
the leftmost of the tokens there.
-/
namespace AutoItDocs

open Text

/-- All of the run are name characters, and the characters around it are none. -/
structure IsRun (left run right : List Char) : Prop where
  names : ∀ c ∈ run, isNameChar c
  opens : ∀ c ∈ left.getLast?, ¬ isNameChar c
  closes : ∀ c ∈ right.head?, ¬ isNameChar c

/-- A token is a run without its leading digits. When there are none, a sigil right before the run
is part of the token. -/
inductive IsToken (text : List Char) : Word → Prop where
  | bare {left digits name right : List Char} :
      text = left ++ digits ++ name ++ right → IsRun left (digits ++ name) right →
      (∀ c ∈ digits, c.isDigit) → (∃ c ∈ name.head?, ¬ c.isDigit) →
      (digits = [] → ∀ c ∈ left.getLast?, WordKind.ofSigil? c = none) →
        IsToken text ⟨name, byteLength (left ++ digits), byteLength (left ++ digits ++ name),
          .function⟩
  | withSigil {left name right : List Char} {sigil : Char} {kind : WordKind} :
      text = left ++ [sigil] ++ name ++ right → IsRun (left ++ [sigil]) name right →
      (∃ c ∈ name.head?, ¬ c.isDigit) → WordKind.ofSigil? sigil = some kind →
        IsToken text ⟨name, byteLength left, byteLength (left ++ [sigil] ++ name), kind⟩

/-- What is written in front of a name of the kind. -/
def WordKind.sigil : WordKind → List Char
  | .function => []
  | .variable => ['$']
  | .systemMacro => ['@']

/-- The characters of a word. -/
def Word.spelling (w : Word) : List Char := w.kind.sigil ++ w.name

variable {text right front name : List Char} {a b w : Word} {kind : WordKind} {c : Char}

theorem isAlpha_iff :
    c.isAlpha ↔ (65 ≤ c.val ∧ c.val ≤ 90) ∨ (97 ≤ c.val ∧ c.val ≤ 122) := by
  have hupper : c.isUpper = decide (65 ≤ c.val ∧ c.val ≤ 90) := rfl
  have hlower : c.isLower = (decide (97 ≤ c.val) && decide (c.val ≤ 122)) := rfl
  have halpha : c.isAlpha = (c.isUpper || c.isLower) := rfl
  simp only [halpha, hupper, hlower, Bool.or_eq_true, Bool.and_eq_true, decide_eq_true_eq]

theorem isDigit_iff : c.isDigit ↔ 48 ≤ c.val ∧ c.val ≤ 57 := by
  simp only [Char.isDigit, Bool.and_eq_true, decide_eq_true_eq]
  rfl

theorem utf8Size_of_isNameChar (h : isNameChar c) : c.utf8Size = 1 := by
  rw [Char.utf8Size_eq_one_iff]
  simp only [isNameChar, Char.isAlphanum, Bool.or_eq_true, beq_iff_eq, isAlpha_iff,
    isDigit_iff] at h
  rcases h with h | rfl
  · grind
  · decide

theorem byteLength_of_names (h : ∀ c ∈ name, isNameChar c) : byteLength name = name.length :=
  places_eq_length fun c hc => utf8Size_of_isNameChar (h c hc)

theorem isNameStart_iff : isNameStart c ↔ isNameChar c ∧ ¬ c.isDigit := by
  have hdigit : c.isAlpha → ¬ c.isDigit := by
    rw [isAlpha_iff, isDigit_iff]
    grind
  have hunderscore : c = '_' → ¬ c.isDigit := by
    rintro rfl
    decide
  simp only [isNameStart, isNameChar, Char.isAlphanum, Bool.or_eq_true, beq_iff_eq]
  grind

theorem isNameChar_of_isDigit (h : c.isDigit) : isNameChar c := by
  simp [isNameChar, Char.isAlphanum, h]

theorem toNat_of_isNameChar (h : isNameChar c) : 48 ≤ c.toNat ∧ c.toNat ≤ 122 := by
  simp only [isNameChar, Char.isAlphanum, Bool.or_eq_true, beq_iff_eq, isAlpha_iff, isDigit_iff,
    UInt32.le_iff_toNat_le] at h
  rcases h with h | rfl
  · change _ ≤ c.val.toNat ∧ c.val.toNat ≤ _
    simp only [UInt32.reduceToNat] at h
    omega
  · decide

theorem units_of_isNameChar (h : isNameChar c) : units c = 1 := by
  have hrange := (toNat_of_isNameChar h).2
  rw [units, if_pos (by omega)]

theorem unitLength_of_names (h : ∀ c ∈ name, isNameChar c) : unitLength name = name.length :=
  places_eq_length fun c hc => units_of_isNameChar (h c hc)

theorem not_isNameChar_of_isBlank (h : isBlank c) : ¬ isNameChar c := by
  intro hname
  have hrange := toNat_of_isNameChar hname
  simp only [isBlank, blankRanges, List.any_cons, List.any_nil, Bool.or_eq_true, Bool.and_eq_true,
    decide_eq_true_eq, Bool.false_eq_true, or_false] at h
  omega

theorem eq_of_ofSigil? (h : WordKind.ofSigil? c = some kind) : c = '$' ∨ c = '@' := by
  rw [WordKind.ofSigil?] at h
  grind

theorem not_isNameChar_of_ofSigil? (h : WordKind.ofSigil? c = some kind) :
    ¬ isNameChar c ∧ c.utf8Size = 1 := by
  rcases eq_of_ofSigil? h with rfl | rfl <;> decide

theorem sigil_of_ofSigil? (h : WordKind.ofSigil? c = some kind) : kind.sigil = [c] := by
  cases eq_of_ofSigil? h with
  | inl hc => subst hc; cases h; rfl
  | inr hc => subst hc; cases h; rfl

theorem ne_function_of_ofSigil? (h : WordKind.ofSigil? c = some kind) : kind ≠ .function := by
  rw [WordKind.ofSigil?] at h
  grind

/-- A name in the text that begins with no digit and is not preceded by the rest of one. -/
structure NameAt (text front name right : List Char) : Prop where
  text_eq : text = front ++ (name ++ right)
  names : ∀ c ∈ name, isNameChar c
  first : ∃ c ∈ name.head?, ¬ c.isDigit
  closes : ∀ c ∈ right.head?, ¬ isNameChar c
  digits : ∀ c ∈ front.reverse.takeWhile isNameChar, c.isDigit

/-- The token of the name that follows `front`. -/
def wordAfter (front name : List Char) : Word :=
  match front.getLast?.bind WordKind.ofSigil? with
  | some kind => ⟨name, byteLength front - 1, byteLength (front ++ name), kind⟩
  | none => ⟨name, byteLength front, byteLength (front ++ name), .function⟩

theorem IsToken.exists_nameAt (h : IsToken text w) :
    ∃ front right, NameAt text front w.name right ∧ w = wordAfter front w.name := by
  cases h with
  | @bare left digits name right htext hrun hdigits hfirst hsigil =>
    refine ⟨left ++ digits, right, ⟨?_, ?_, hfirst, hrun.closes, ?_⟩, ?_⟩
    · rw [htext, List.append_assoc _ name]
    · exact fun c hc => hrun.names c (List.mem_append_right digits hc)
    · have hrun' : ∀ c ∈ digits.reverse, isNameChar c := by
        intro c hc
        exact isNameChar_of_isDigit (hdigits c (List.mem_reverse.mp hc))
      have hopens : ∀ c ∈ left.reverse.head?, ¬ isNameChar c := by
        rw [List.head?_reverse]
        exact hrun.opens
      rw [List.reverse_append, takeWhile_append_exact hrun' hopens]
      simpa using hdigits
    · have hnone : (left ++ digits).getLast?.bind WordKind.ofSigil? = none := by
        rw [Option.bind_eq_none_iff]
        intro c hc
        by_cases hempty : digits = []
        · exact hsigil hempty c (by simpa [hempty] using hc)
        · rw [List.getLast?_append_of_ne_nil left hempty] at hc
          cases hkind : WordKind.ofSigil? c with
          | none => rfl
          | some kind =>
            have hname := isNameChar_of_isDigit (hdigits c (List.mem_of_getLast? hc))
            exact absurd hname (not_isNameChar_of_ofSigil? hkind).1
      rw [wordAfter, hnone]
  | @withSigil left name right sigil kind htext hrun hfirst hsigil =>
    obtain ⟨hname, hsize⟩ := not_isNameChar_of_ofSigil? hsigil
    refine ⟨left ++ [sigil], right, ⟨?_, hrun.names, hfirst, hrun.closes, ?_⟩, ?_⟩
    · rw [htext, List.append_assoc _ name]
    · simp [hname]
    · simp [wordAfter, hsigil, hsize]

theorem wordAfter_start_add_one_le (front name : List Char) :
    byteLength front ≤ (wordAfter front name).start + 1 := by
  rw [wordAfter]
  split
  · simp only
    omega
  · exact Nat.le_add_right _ 1

theorem wordAfter_start_le (front name : List Char) :
    (wordAfter front name).start ≤ byteLength front := by
  rw [wordAfter]
  split
  · exact Nat.sub_le _ 1
  · exact Nat.le_refl _

theorem wordAfter_stop (front name : List Char) :
    (wordAfter front name).stop = byteLength (front ++ name) := by
  rw [wordAfter]
  split <;> rfl

theorem wordAfter_start_of_function (h : (wordAfter front name).kind = .function) :
    (wordAfter front name).start = byteLength front := by
  rw [wordAfter] at h ⊢
  split
  · rename_i kind hkind
    obtain ⟨c, -, hc⟩ := Option.bind_eq_some_iff.mp hkind
    rw [hkind] at h
    exact absurd h (ne_function_of_ofSigil? hc)
  · rfl

namespace NameAt

variable {right' front' name' : List Char}

/-- A name does not begin within another one. -/
theorem not_within (h : NameAt text front name right) {between : List Char}
    (h' : NameAt text (front ++ between) name' right') (hwithin : ∀ c ∈ between, isNameChar c)
    (hfirst : between.head? = name.head?) : False := by
  obtain ⟨c, hc, hdigit⟩ := h.first
  rw [← hfirst] at hc
  apply hdigit
  apply h'.digits
  rw [List.reverse_append, List.takeWhile_append_of_pos (by simpa using hwithin)]
  exact List.mem_append_left _ (List.mem_reverse.mpr (List.mem_of_head? hc))

/-- Of two names in the text, the one behind the other does not touch it. -/
theorem exists_gap (h : NameAt text front name right) {between : List Char}
    (h' : NameAt text (front ++ between) name' right') (hne : between ≠ []) :
    ∃ gap, gap ≠ [] ∧ between = name ++ gap := by
  have htext := h.text_eq.symm.trans h'.text_eq
  rw [List.append_assoc, List.append_cancel_left_eq] at htext
  rcases List.append_eq_append_iff.mp htext with ⟨gap, rfl, hright⟩ | ⟨rest, rfl, -⟩
  · refine ⟨gap, ?_, rfl⟩
    rintro rfl
    obtain ⟨c, hc, -⟩ := h'.first
    apply h.closes c
    · rw [hright, List.nil_append, List.head?_append, Option.mem_def.mp hc]
      rfl
    · exact h'.names c (List.mem_of_head? hc)
  · refine (h.not_within h' (fun c hc => h.names c (List.mem_append_left rest hc)) ?_).elim
    rw [List.head?_append_of_ne_nil between hne]

theorem name_inj (h : NameAt text front name right) (h' : NameAt text front name' right') :
    name = name' := by
  have htext := h.text_eq.symm.trans h'.text_eq
  rw [List.append_cancel_left_eq] at htext
  have hname := takeWhile_append_exact h.names h.closes
  rwa [htext, takeWhile_append_exact h'.names h'.closes, eq_comm] at hname

/-- A token ends before the next one, and a character earlier when that one has no sigil. -/
theorem stop_le_start (h : NameAt text front name right) (h' : NameAt text front' name' right')
    (hlt : byteLength front < byteLength front') :
    (wordAfter front name).stop ≤ (wordAfter front' name').start ∧
      ((wordAfter front' name').kind = .function →
        (wordAfter front name).stop < (wordAfter front' name').start) := by
  obtain ⟨between, rfl, -⟩ := exists_append_of_places_le Char.utf8Size_pos
    (h.text_eq.symm.trans h'.text_eq) (Nat.le_of_lt hlt)
  have hne : between ≠ [] := by
    rintro rfl
    simp at hlt
  obtain ⟨gap, hgap, rfl⟩ := h.exists_gap h' hne
  have hpos := byteLength_pos hgap
  have hstart := wordAfter_start_add_one_le (front ++ (name ++ gap)) name'
  simp only [wordAfter_stop, byteLength_append] at hstart ⊢
  refine ⟨by omega, fun hkind => ?_⟩
  rw [wordAfter_start_of_function hkind]
  simp only [byteLength_append]
  omega

end NameAt

namespace IsToken

theorem names (h : IsToken text w) : ∀ c ∈ w.name, isNameChar c := by
  obtain ⟨front, right, hname, -⟩ := h.exists_nameAt
  exact hname.names

theorem start_lt_stop (h : IsToken text w) : w.start < w.stop := by
  obtain ⟨front, right, hname, hword⟩ := h.exists_nameAt
  have hne : w.name ≠ [] := by
    obtain ⟨c, hc, -⟩ := hname.first
    exact List.ne_nil_of_mem (List.mem_of_head? hc)
  have hpos := byteLength_pos hne
  have hle := wordAfter_start_le front w.name
  rw [hword, wordAfter_stop, byteLength_append]
  rw [← hword] at hle ⊢
  omega

/-- Two different tokens do not overlap, and a token without a sigil does not begin where another
one ends. -/
theorem eq_or_apart (h : IsToken text a) (h' : IsToken text b) :
    a = b ∨ (a.stop ≤ b.start ∧ (b.kind = .function → a.stop < b.start)) ∨
      (b.stop ≤ a.start ∧ (a.kind = .function → b.stop < a.start)) := by
  obtain ⟨front, right, hname, hword⟩ := h.exists_nameAt
  obtain ⟨front', right', hname', hword'⟩ := h'.exists_nameAt
  rcases Nat.lt_trichotomy (byteLength front) (byteLength front') with hlt | heq | hlt
  · have hapart := hname.stop_le_start hname' hlt
    rw [← hword, ← hword'] at hapart
    exact .inr (.inl hapart)
  · obtain ⟨rfl, -⟩ := append_inj_of_places_eq Char.utf8Size_pos
      (hname.text_eq.symm.trans hname'.text_eq) heq
    rw [hword, hword', hname.name_inj hname']
    exact .inl rfl
  · have hapart := hname'.stop_le_start hname hlt
    rw [← hword, ← hword'] at hapart
    exact .inr (.inr hapart)

/-- The text has the characters of a token from its start to its stop. -/
theorem exists_text_eq (h : IsToken text w) :
    ∃ front rest, text = front ++ (w.spelling ++ rest) ∧ byteLength front = w.start ∧
      byteLength front + byteLength w.spelling = w.stop := by
  cases h with
  | @bare left digits name right htext hrun hdigits hfirst hsigil =>
    refine ⟨left ++ digits, right, ?_, rfl, ?_⟩
    · rw [htext, List.append_assoc _ name]
      rfl
    · rw [byteLength_append _ name]
      rfl
  | @withSigil left name right sigil kind htext hrun hfirst hsigil =>
    refine ⟨left, right, ?_, rfl, ?_⟩
    · simp [htext, Word.spelling, sigil_of_ofSigil? hsigil]
    · simp [Word.spelling, sigil_of_ofSigil? hsigil]

theorem slice_eq (h : IsToken text w) :
    dropBytes w.start (takeBytes w.stop text) = w.spelling := by
  obtain ⟨front, rest, htext, hstart, hstop⟩ := h.exists_text_eq
  rw [← hstart, ← hstop, ← byteLength_append, htext, ← List.append_assoc,
    takeBytes_byteLength_append]
  exact dropWidth_places_append Char.utf8Size_pos front w.spelling

theorem exists_piece (h : IsToken text w) :
    ∃ front piece rest, text = front ++ (piece ++ rest) ∧ byteLength front = w.start ∧
      byteLength front + byteLength piece = w.stop ∧ '\n' ∉ piece := by
  obtain ⟨front, rest, htext, hstart, hstop⟩ := h.exists_text_eq
  refine ⟨front, w.spelling, rest, htext, hstart, hstop, ?_⟩
  rw [Word.spelling, List.mem_append, not_or]
  constructor
  · cases w.kind <;> decide
  · intro hmem
    exact absurd (h.names _ hmem) (by decide)

theorem isBoundary_start (h : IsToken text w) : IsBoundary text w.start := by
  obtain ⟨front, piece, rest, htext, hstart, -, -⟩ := h.exists_piece
  exact isBoundary_iff.mpr ⟨front, piece ++ rest, htext, hstart⟩

theorem isBoundary_stop (h : IsToken text w) : IsBoundary text w.stop := by
  obtain ⟨front, piece, rest, htext, -, hstop, -⟩ := h.exists_piece
  refine isBoundary_iff.mpr ⟨front ++ piece, rest, by rw [htext, List.append_assoc], ?_⟩
  rw [byteLength_append, hstop]

/-- A token is on one line. -/
theorem within_line {number : Nat} {above line below : List Char} (h : IsToken text w)
    (hline : IsLine text number above line below) (hstop : byteLength above ≤ w.stop)
    (hstart : w.start ≤ byteLength above + byteLength line) :
    byteLength above ≤ w.start ∧ w.stop ≤ byteLength above + byteLength line := by
  obtain ⟨front, piece, rest, htext, hfront, hpiece, hfeed⟩ := h.exists_piece
  rw [hline.text_eq] at htext
  constructor
  · by_contra hlt
    rcases hline.above_cases with rfl | ⟨front', rfl⟩
    · exact hlt (Nat.zero_le _)
    · rw [List.append_assoc, List.singleton_append] at htext
      have hsize : byteLength (front' ++ ['\n']) = byteLength front' + 1 := byteLength_append _ _
      apply hfeed
      apply mem_of_places_lt Char.utf8Size_pos htext.symm
      · change byteLength front ≤ byteLength front'
        omega
      · change byteLength front' < byteLength front + byteLength piece
        omega
  · by_contra hlt
    rcases hline.below_cases with rfl | ⟨rest', rfl⟩
    · have hlength := congrArg byteLength htext
      simp only [List.append_nil, byteLength_append] at hlength
      omega
    · rw [← List.append_assoc] at htext
      have hsize := byteLength_append above line
      apply hfeed
      apply mem_of_places_lt Char.utf8Size_pos htext.symm
      · change byteLength front ≤ byteLength (above ++ line)
        omega
      · change byteLength (above ++ line) < byteLength front + byteLength piece
        omega

end IsToken

end AutoItDocs
