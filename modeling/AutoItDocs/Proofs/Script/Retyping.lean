import AutoItDocs.Proofs.Script.Word
/-!
Texts typed anew: the case of letters changes, and blanks are put in front of line feeds. Nothing
that is read from a script tells one letter from another, so the lines and the words of the new text
are those of the old one.
-/
namespace AutoItDocs

open Text

variable {text line above below margin : List Char} {c d : Char} {number : Nat} {width : Char → Nat}

/-- What holds of the letters in uppercase, one by one. -/
theorem of_isUpper (p : Char → Prop)
    (letters : ∀ n < 91, (Char.ofNat n).isUpper → p (Char.ofNat n)) (h : c.isUpper) : p c := by
  have hlast : c.toNat ≤ 90 := UInt32.le_iff_toNat_le.mp (of_decide_eq_true h).2
  have hletter := letters c.toNat (Nat.lt_succ_of_le hlast)
  rw [Char.ofNat_toNat] at hletter
  exact hletter h

theorem toLower_of_not_isUpper (h : ¬ c.isUpper) : c.toLower = c :=
  dif_neg fun hrange => h (decide_eq_true hrange)

theorem isUpper_toLower (c : Char) : c.toLower.isUpper = false := by
  by_cases h : c.isUpper
  · exact of_isUpper (fun c => c.toLower.isUpper = false) (by decide) h
  · rw [toLower_of_not_isUpper h, Bool.eq_false_iff]
    exact h

theorem isAlpha_toLower (c : Char) : c.toLower.isAlpha = c.isAlpha := by
  by_cases h : c.isUpper
  · exact of_isUpper (fun c => c.toLower.isAlpha = c.isAlpha) (by decide) h
  · rw [toLower_of_not_isUpper h]

theorem toLower_toLower (c : Char) : c.toLower.toLower = c.toLower :=
  toLower_of_not_isUpper (Bool.eq_false_iff.mp (isUpper_toLower c))

theorem eq_or_isAlpha_of_toLower_eq (h : c.toLower = d.toLower) :
    c = d ∨ c.isAlpha ∧ d.isAlpha := by
  have halpha : c.isAlpha = d.isAlpha := by rw [← isAlpha_toLower c, h, isAlpha_toLower]
  have hlower : ∀ c : Char, ¬ c.isAlpha → c.toLower = c := by
    intro c hc
    exact toLower_of_not_isUpper fun hupper => hc ((Bool.or_eq_true _ _).mpr (.inl hupper))
  by_cases hc : c.isAlpha
  · exact .inr ⟨hc, halpha ▸ hc⟩
  · rw [hlower c hc, hlower d (halpha ▸ hc)] at h
    exact .inl h

/-- What is the same for all letters is the same for a letter in upper and in lower case. -/
theorem congr_of_toLower_eq {α : Type} {value : α} (p : Char → α)
    (letters : ∀ c, c.isAlpha → p c = value) (h : c.toLower = d.toLower) : p c = p d := by
  rcases eq_or_isAlpha_of_toLower_eq h with rfl | ⟨hc, hd⟩
  · rfl
  · rw [letters c hc, letters d hd]

theorem isNameChar_of_isAlpha (h : c.isAlpha) : isNameChar c := by
  simp [isNameChar, Char.isAlphanum, h]

theorem ofSigil?_of_isNameChar (h : isNameChar c) : WordKind.ofSigil? c = none := by
  cases hkind : WordKind.ofSigil? c with
  | none => rfl
  | some kind => exact absurd h (not_isNameChar_of_ofSigil? hkind).1

theorem ofSigil?_of_isBlank (h : isBlank c) : WordKind.ofSigil? c = none := by
  cases hkind : WordKind.ofSigil? c with
  | none => rfl
  | some kind => rcases eq_of_ofSigil? hkind with rfl | rfl <;> exact absurd h (by decide)

/-- A way to type a text anew: `letter` changes the case of letters only, and the blanks of `margin`
are put in front of each line feed. -/
structure Retyping where
  letter : Char → Char
  margin : List Char
  letter_toLower : ∀ c, (letter c).toLower = c.toLower
  margin_blank : ∀ c ∈ margin, isBlank c
  margin_line : '\n' ∉ margin

namespace Retyping

/-- Letters in lowercase. -/
def lowercase : Retyping where
  letter := Char.toLower
  margin := []
  letter_toLower := toLower_toLower
  margin_blank := by simp
  margin_line := by simp

/-- A carriage return in front of each line feed. -/
def returns : Retyping where
  letter := id
  margin := ['\r']
  letter_toLower _ := rfl
  margin_blank := List.all_eq_true.mp rfl
  margin_line := by decide

def piece (t : Retyping) (c : Char) : List Char :=
  if c = '\n' then t.margin ++ ['\n'] else [t.letter c]

def apply (t : Retyping) (text : List Char) : List Char := text.flatMap t.piece

variable (t : Retyping)

@[simp] theorem apply_nil : t.apply [] = [] := rfl

theorem apply_cons (c : Char) (text : List Char) :
    t.apply (c :: text) = t.piece c ++ t.apply text :=
  List.flatMap_cons

theorem apply_append (a b : List Char) : t.apply (a ++ b) = t.apply a ++ t.apply b :=
  List.flatMap_append

theorem piece_feed : t.piece '\n' = t.margin ++ ['\n'] := if_pos rfl

theorem piece_of_ne (h : c ≠ '\n') : t.piece c = [t.letter c] := if_neg h

theorem apply_append_feed (a b : List Char) :
    t.apply (a ++ '\n' :: b) = t.apply a ++ t.margin ++ '\n' :: t.apply b := by
  rw [apply_append, apply_cons, piece_feed]
  simp

theorem apply_of_not_mem (h : '\n' ∉ line) : t.apply line = line.map t.letter := by
  induction line with
  | nil => rfl
  | cons c line ih =>
    rw [List.mem_cons, not_or] at h
    rw [apply_cons, t.piece_of_ne (Ne.symm h.1), ih h.2]
    rfl

/-! No class of characters tells letters apart. -/

@[simp] theorem isNameChar_letter (c : Char) : isNameChar (t.letter c) = isNameChar c :=
  congr_of_toLower_eq isNameChar (fun _ => isNameChar_of_isAlpha) (t.letter_toLower c)

@[simp] theorem isNameStart_letter (c : Char) : isNameStart (t.letter c) = isNameStart c := by
  have hletters : ∀ c : Char, c.isAlpha → isNameStart c = true := fun c hc => by
    simp [isNameStart, hc]
  exact congr_of_toLower_eq isNameStart hletters (t.letter_toLower c)

@[simp] theorem isBlank_letter (c : Char) : isBlank (t.letter c) = isBlank c := by
  have hletters : ∀ c : Char, c.isAlpha → isBlank c = false := fun c hc => by
    simpa using fun hblank => not_isNameChar_of_isBlank hblank (isNameChar_of_isAlpha hc)
  exact congr_of_toLower_eq isBlank hletters (t.letter_toLower c)

@[simp] theorem ofSigil?_letter (c : Char) :
    WordKind.ofSigil? (t.letter c) = WordKind.ofSigil? c :=
  congr_of_toLower_eq WordKind.ofSigil?
    (fun _ hc => ofSigil?_of_isNameChar (isNameChar_of_isAlpha hc)) (t.letter_toLower c)

@[simp] theorem utf8Size_letter (c : Char) : (t.letter c).utf8Size = c.utf8Size :=
  congr_of_toLower_eq Char.utf8Size
    (fun _ hc => utf8Size_of_isNameChar (isNameChar_of_isAlpha hc)) (t.letter_toLower c)

@[simp] theorem units_letter (c : Char) : units (t.letter c) = units c :=
  congr_of_toLower_eq units
    (fun _ hc => units_of_isNameChar (isNameChar_of_isAlpha hc)) (t.letter_toLower c)

/-- A character that is no letter stands where it stood before. -/
theorem letter_eq_iff (hd : ¬ d.isAlpha) : t.letter c = d ↔ c = d := by
  have hletters : ∀ c : Char, c.isAlpha → decide (c = d) = false := fun c hc =>
    decide_eq_false fun he => hd (he ▸ hc)
  have h := congr_of_toLower_eq (fun c => decide (c = d)) hletters (t.letter_toLower c)
  exact decide_eq_decide.mp h

/-! The lines of the new text are the old ones, with the blanks at their ends. -/

theorem letter_ne_feed (h : c ≠ '\n') : t.letter c ≠ '\n' :=
  mt (t.letter_eq_iff (by decide)).mp h

theorem feed_not_mem_map (h : '\n' ∉ line) : '\n' ∉ line.map t.letter := by
  rw [List.mem_map]
  rintro ⟨c, hc, he⟩
  exact t.letter_ne_feed (fun hfeed => h (hfeed ▸ hc)) he

theorem count_feed (text : List Char) : (t.apply text).count '\n' = text.count '\n' := by
  induction text with
  | nil => rfl
  | cons c text ih =>
    rw [apply_cons, List.count_append, ih, List.count_cons, Nat.add_comm]
    congr 1
    by_cases hc : c = '\n'
    · simp [hc, piece_feed, List.count_eq_zero_of_not_mem t.margin_line]
    · simp [hc, t.piece_of_ne hc, t.letter_ne_feed hc]

theorem isLine (h : IsLine text number above line below) :
    ∃ margin below', IsLine (t.apply text) number (t.apply above) (line.map t.letter ++ margin)
      below' ∧ (margin = [] ∨ margin = t.margin) := by
  have hinside := t.feed_not_mem_map h.inside
  have hnumber : (t.apply above).count '\n' = number := by rw [count_feed, h.number_eq]
  have hopens : ∀ c ∈ (t.apply above).getLast?, c = '\n' := by
    rcases h.above_cases with rfl | ⟨front, rfl⟩
    · simp
    · simp [apply_append_feed]
  rcases h.below_cases with rfl | ⟨rest, rfl⟩
  · refine ⟨[], [], ⟨?_, hnumber, hopens, by simpa using hinside, by simp⟩, .inl rfl⟩
    rw [h.text_eq, apply_append, apply_append, t.apply_of_not_mem h.inside]
    simp
  · have hmargin : '\n' ∉ line.map t.letter ++ t.margin := by
      rw [List.mem_append, not_or]
      exact ⟨hinside, t.margin_line⟩
    refine ⟨t.margin, '\n' :: t.apply rest, ⟨?_, hnumber, hopens, hmargin, by simp⟩, .inr rfl⟩
    rw [h.text_eq, apply_append, apply_append_feed, t.apply_of_not_mem h.inside]

/-! The words of a line are the old ones, with their letters as they are now. -/

theorem leadingName?_map (text : List Char) :
    Word.leadingName? (text.map t.letter) = (Word.leadingName? text).map (·.map t.letter) := by
  have hname : isNameChar ∘ t.letter = isNameChar := funext t.isNameChar_letter
  cases text with
  | nil => rfl
  | cons c rest =>
    rw [List.map_cons, Word.leadingName?, Word.leadingName?, isNameStart_letter, List.takeWhile_map,
      hname]
    split <;> rfl

def word (w : Word) : Word := { w with name := w.name.map t.letter }

theorem leading?_map (start : Nat) (text : List Char) :
    Word.leading? start (text.map t.letter) = (Word.leading? start text).map t.word := by
  have hmap := t.leadingName?_map text
  cases hname : Word.leadingName? text with
  | some name =>
    rw [hname] at hmap
    rw [Word.leading?_of_name hname, Word.leading?_of_name hmap, Option.map_some, word,
      List.length_map]
  | none =>
    rw [hname] at hmap
    cases text with
    | nil => rfl
    | cons c rest =>
      simp only [List.map_cons] at hmap
      simp only [List.map_cons, Word.leading?, hname, hmap, Option.map_none, ofSigil?_letter,
        leadingName?_map]
      cases WordKind.ofSigil? c <;> cases Word.leadingName? rest <;> simp [word]

theorem scan_map (start : Nat) (text : List Char) :
    Word.scan start (text.map t.letter) = (Word.scan start text).map t.word := by
  fun_induction Word.scan start text with
  | case1 start => rw [List.map_nil, Word.scan, List.map_nil]
  | case2 start c text word hword ih =>
    have hmap := t.leading?_map start (c :: text)
    rw [hword, List.map_cons] at hmap
    rw [List.map_cons, Word.scan, hmap, Option.map_some, List.map_cons, ← ih, List.map_drop]
    rfl
  | case3 start c text hnone ih =>
    have hmap := t.leading?_map start (c :: text)
    rw [hnone, List.map_cons] at hmap
    rw [List.map_cons, Word.scan, hmap, Option.map_none, utf8Size_letter]
    exact ih

theorem scan_line (hmargin : ∀ c ∈ margin, isBlank c) (start : Nat) (line : List Char) :
    Word.scan start (line.map t.letter ++ margin) = (Word.scan start line).map t.word := by
  have hnothing : ∀ c ∈ margin, ¬ isNameChar c ∧ WordKind.ofSigil? c = none := fun c hc =>
    ⟨not_isNameChar_of_isBlank (hmargin c hc), ofSigil?_of_isBlank (hmargin c hc)⟩
  rw [Word.scan_append hnothing, scan_map]

/-! A text takes as many places as before. -/

theorem places_map (hwidth : ∀ c, width (t.letter c) = width c) (text : List Char) :
    places width (text.map t.letter) = places width text := by
  induction text with
  | nil => rfl
  | cons c text ih => rw [List.map_cons, places, places, hwidth, ih]

theorem takeWidth_map (hwidth : ∀ c, width (t.letter c) = width c) (n : Nat) (text : List Char) :
    takeWidth width n (text.map t.letter) = (takeWidth width n text).map t.letter := by
  induction text generalizing n with
  | nil => cases n <;> rfl
  | cons c text ih =>
    cases n with
    | zero => rw [takeWidth_zero, takeWidth_zero, List.map_nil]
    | succ n =>
      rw [List.map_cons, takeWidth_cons n.add_one_pos, takeWidth_cons n.add_one_pos, hwidth, ih,
        List.map_cons]

end Retyping

end AutoItDocs
