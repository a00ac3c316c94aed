import AutoItDocs.Proofs.Script.Token
import Mathlib.Order.WellFounded
/-!
The words that are read from a line are the tokens on it, from left to right. Main statement: the
word at an offset is the leftmost of the tokens of the text that touch the offset.
-/
namespace AutoItDocs

open Text

variable {text before after right name : List Char} {w : Word} {kind : WordKind} {c : Char}
  {start offset : Nat}

namespace Word

theorem leadingName?_eq_some (h : leadingName? text = some name) :
    ∃ right, text = name ++ right ∧ (∀ c ∈ name, isNameChar c) ∧
      (∃ c ∈ name.head?, isNameStart c) ∧ ∀ c ∈ right.head?, ¬ isNameChar c := by
  cases text with
  | nil => cases h
  | cons c text =>
    obtain ⟨hc, hname⟩ := Option.ite_none_right_eq_some.mp h
    obtain ⟨run, right, htext, hrun, hinside, hcloses⟩ := exists_leading_run isNameChar text
    rw [← hrun] at hname
    cases hname
    refine ⟨right, by rw [htext]; rfl, ?_, ⟨c, rfl, hc⟩, hcloses⟩
    rw [List.forall_mem_cons]
    exact ⟨(isNameStart_iff.mp hc).1, hinside⟩

theorem leadingName?_append (names : ∀ c ∈ name, isNameChar c)
    (first : ∃ c ∈ name.head?, isNameStart c) (closes : ∀ c ∈ right.head?, ¬ isNameChar c) :
    leadingName? (name ++ right) = some name := by
  obtain ⟨c, hc, hstart⟩ := first
  cases name with
  | nil => cases hc
  | cons d name =>
    cases hc
    rw [List.forall_mem_cons] at names
    rw [List.cons_append, leadingName?, if_pos hstart, takeWhile_append_exact names.2 closes]

theorem leadingName?_eq_none_iff :
    leadingName? text = none ↔ ∀ c ∈ text.head?, ¬ isNameStart c := by
  cases text with
  | nil => simp [leadingName?]
  | cons c text => simp [leadingName?]

theorem not_isNameStart (h : ¬ isNameChar c) : ¬ isNameStart c := fun hstart =>
  h (isNameStart_iff.mp hstart).1

theorem closes_append (closes : ∀ c ∈ right.head?, ¬ isNameChar c)
    (hafter : ∀ c ∈ after.head?, ¬ isNameChar c) :
    ∀ c ∈ (right ++ after).head?, ¬ isNameChar c := by
  cases right with
  | nil => exact hafter
  | cons c right => exact closes

/-- What follows a text matters only when it goes on with a name character. -/
theorem leadingName?_append_after (hafter : ∀ c ∈ after.head?, ¬ isNameChar c)
    (text : List Char) : leadingName? (text ++ after) = leadingName? text := by
  cases hname : leadingName? text with
  | none =>
    rw [leadingName?_eq_none_iff] at hname ⊢
    cases text with
    | nil => exact fun c hc => not_isNameStart (hafter c hc)
    | cons c text => exact hname
  | some name =>
    obtain ⟨right, rfl, hnames, hfirst, hcloses⟩ := leadingName?_eq_some hname
    rw [List.append_assoc]
    exact leadingName?_append hnames hfirst (closes_append hcloses hafter)

theorem leading?_of_name (h : leadingName? text = some name) :
    leading? start text = some ⟨name, start, start + name.length, .function⟩ := by
  simp only [leading?, h]

theorem leading?_of_sigil (hsigil : WordKind.ofSigil? c = some kind)
    (h : leadingName? text = some name) :
    leading? start (c :: text) = some ⟨name, start, start + 1 + name.length, kind⟩ := by
  have hnone : leadingName? (c :: text) = none := by
    rw [leadingName?_eq_none_iff]
    rintro d hd
    cases hd
    exact not_isNameStart (not_isNameChar_of_ofSigil? hsigil).1
  simp only [leading?, hnone, hsigil, h]

theorem leading?_cases (h : leading? start text = some w) :
    (∃ name, leadingName? text = some name ∧
      w = ⟨name, start, start + name.length, .function⟩) ∨
    ∃ sigil rest name kind, text = sigil :: rest ∧ WordKind.ofSigil? sigil = some kind ∧
      leadingName? rest = some name ∧ w = ⟨name, start, start + 1 + name.length, kind⟩ := by
  cases hname : leadingName? text with
  | some name =>
    rw [leading?_of_name hname, Option.some.injEq] at h
    exact .inl ⟨name, rfl, h.symm⟩
  | none =>
    cases text with
    | nil => simp [leading?, hname] at h
    | cons c rest =>
      simp only [leading?, hname] at h
      split at h
      · rename_i kind name hsigil hrest
        exact .inr ⟨c, rest, name, kind, rfl, hsigil, hrest, (Option.some.inj h).symm⟩
      · cases h

theorem leading?_append_after (hafter : ∀ c ∈ after.head?, ¬ isNameChar c) (hne : text ≠ []) :
    leading? start (text ++ after) = leading? start text := by
  obtain ⟨c, rest, rfl⟩ := List.exists_cons_of_ne_nil hne
  simp only [leading?, List.cons_append]
  rw [← List.cons_append, leadingName?_append_after hafter, leadingName?_append_after hafter]

/-- The piece of the text that a word takes. -/
theorem exists_piece_of_leading? (h : leading? start text = some w) :
    ∃ piece right, text = piece ++ right ∧ piece ≠ [] ∧ byteLength piece = piece.length ∧
      w.start = start ∧ w.stop = start + piece.length ∧ ∀ c ∈ right.head?, ¬ isNameChar c := by
  rcases leading?_cases h with ⟨name, hname, rfl⟩ |
    ⟨sigil, rest, name, kind, rfl, hsigil, hname, rfl⟩
  · obtain ⟨right, rfl, hnames, ⟨c, hc, -⟩, hcloses⟩ := leadingName?_eq_some hname
    exact ⟨name, right, rfl, List.ne_nil_of_mem (List.mem_of_head? hc), byteLength_of_names hnames,
      rfl, rfl, hcloses⟩
  · obtain ⟨right, rfl, hnames, -, hcloses⟩ := leadingName?_eq_some hname
    refine ⟨sigil :: name, right, rfl, List.cons_ne_nil _ _, ?_, rfl, ?_, hcloses⟩
    · rw [byteLength_cons, (not_isNameChar_of_ofSigil? hsigil).2, byteLength_of_names hnames,
        List.length_cons, Nat.add_comm]
    · rw [List.length_cons, Nat.add_assoc, Nat.add_comm 1]

theorem exists_isNameStart_iff (names : ∀ c ∈ name, isNameChar c) :
    (∃ c ∈ name.head?, isNameStart c) ↔ ∃ c ∈ name.head?, ¬ c.isDigit := by
  constructor
  · rintro ⟨c, hc, hstart⟩
    exact ⟨c, hc, (isNameStart_iff.mp hstart).2⟩
  · rintro ⟨c, hc, hdigit⟩
    exact ⟨c, hc, isNameStart_iff.mpr ⟨names c (List.mem_of_head? hc), hdigit⟩⟩

theorem leading?_of_isToken (h : IsToken text w) :
    ∃ front rest, text = front ++ rest ∧ byteLength front = w.start ∧
      leading? w.start rest = some w := by
  cases h with
  | @bare left digits name right htext hrun hdigits hfirst hsigil =>
    have hnames : ∀ c ∈ name, isNameChar c := fun c hc =>
      hrun.names c (List.mem_append_right digits hc)
    have hstart := (exists_isNameStart_iff hnames).mpr hfirst
    refine ⟨left ++ digits, name ++ right, by rw [htext, List.append_assoc _ name], rfl, ?_⟩
    rw [leading?_of_name (leadingName?_append hnames hstart hrun.closes), byteLength_append _ name,
      byteLength_of_names hnames]
  | @withSigil left name right sigil kind htext hrun hfirst hsigil =>
    have hstart := (exists_isNameStart_iff hrun.names).mpr hfirst
    refine ⟨left, sigil :: (name ++ right), by simp [htext], rfl, ?_⟩
    rw [leading?_of_sigil hsigil (leadingName?_append hrun.names hstart hrun.closes),
      byteLength_append _ name, byteLength_of_names hrun.names, byteLength_append left,
      byteLength_cons, (not_isNameChar_of_ofSigil? hsigil).2, byteLength_nil]

/-- A word that is read from here on is a token of the whole text: what stands before is not the
rest of its name or its sigil. -/
structure Ready (before text : List Char) : Prop where
  digits : ∀ c ∈ text.head?, isNameChar c → ∀ d ∈ before.reverse.takeWhile isNameChar, d.isDigit
  sigil : ∀ c ∈ text.head?, isNameStart c → ∀ d ∈ before.getLast?, WordKind.ofSigil? d = none

namespace Ready

theorem isToken_of_leading? (hready : Ready before text)
    (hafter : ∀ c ∈ after.head?, ¬ isNameChar c)
    (h : leading? (byteLength before) text = some w) : IsToken (before ++ text ++ after) w := by
  rcases leading?_cases h with ⟨name, hname, rfl⟩ |
    ⟨sigil, rest, name, kind, rfl, hsigil, hname, rfl⟩
  · obtain ⟨right, rfl, hnames, hfirst, hcloses⟩ := leadingName?_eq_some hname
    -- The digits before the name are the beginning of its run.
    obtain ⟨left, digits, rfl, hdigits, hrun, hopens⟩ := exists_trailing_run isNameChar before
    have hfirst' : ∃ c ∈ (name ++ right).head?, isNameStart c := by
      obtain ⟨c, hc, hstart⟩ := hfirst
      exact ⟨c, by rw [List.head?_append, Option.mem_def.mp hc]; rfl, hstart⟩
    obtain ⟨c, hc, hstart⟩ := hfirst'
    have hdigit : ∀ d ∈ digits, d.isDigit := by
      intro d hd
      rw [hdigits, List.mem_reverse] at hd
      exact hready.digits c hc (isNameStart_iff.mp hstart).1 d hd
    have hnames' : ∀ c ∈ digits ++ name, isNameChar c := by
      intro d hd
      exact (List.mem_append.mp hd).elim (hrun d) (hnames d)
    have hsigil : digits = [] → ∀ d ∈ left.getLast?, WordKind.ofSigil? d = none := by
      rintro rfl
      simpa using hready.sigil c hc hstart
    have htext : left ++ digits ++ (name ++ right) ++ after =
        left ++ digits ++ name ++ (right ++ after) := by simp
    have htoken := IsToken.bare htext ⟨hnames', hopens, closes_append hcloses hafter⟩ hdigit
      ((exists_isNameStart_iff hnames).mp hfirst) hsigil
    rwa [byteLength_append _ name, byteLength_of_names hnames] at htoken
  · obtain ⟨right, rfl, hnames, hfirst, hcloses⟩ := leadingName?_eq_some hname
    have htext : before ++ sigil :: (name ++ right) ++ after =
        before ++ [sigil] ++ name ++ (right ++ after) := by simp
    have hopens : ∀ c ∈ (before ++ [sigil]).getLast?, ¬ isNameChar c := by
      rw [List.getLast?_concat]
      rintro c ⟨⟩
      exact (not_isNameChar_of_ofSigil? hsigil).1
    have htoken := IsToken.withSigil htext ⟨hnames, hopens, closes_append hcloses hafter⟩
      ((exists_isNameStart_iff hnames).mp hfirst) hsigil
    rwa [byteLength_append _ name, byteLength_of_names hnames, byteLength_append before,
      byteLength_cons, (not_isNameChar_of_ofSigil? hsigil).2, byteLength_nil] at htoken

theorem of_closes (closes : ∀ c ∈ text.head?, ¬ isNameChar c) : Ready before text where
  digits c hc hname := absurd hname (closes c hc)
  sigil c hc hstart := absurd hstart (not_isNameStart (closes c hc))

theorem concat (hready : Ready before (c :: text)) (hnone : leading? start (c :: text) = none) :
    Ready (before ++ [c]) text := by
  have hfirst : ¬ isNameStart c := by
    intro hstart
    simp [leading?, leadingName?, hstart] at hnone
  constructor
  · intro d hd hname
    rw [List.reverse_append, List.reverse_singleton, List.singleton_append]
    by_cases hc : isNameChar c
    · rw [List.takeWhile_cons_of_pos hc, List.forall_mem_cons]
      have hdigit : c.isDigit := by
        by_contra hdigit
        exact hfirst (isNameStart_iff.mpr ⟨hc, hdigit⟩)
      exact ⟨hdigit, hready.digits c rfl hc⟩
    · simp [List.takeWhile_cons_of_neg hc]
  · intro d hd hstart e he
    rw [List.getLast?_concat] at he
    cases he
    cases hsigil : WordKind.ofSigil? c with
    | none => rfl
    | some kind =>
      cases hname : leadingName? text with
      | none => exact absurd hstart (leadingName?_eq_none_iff.mp hname d hd)
      | some name =>
        rw [leading?_of_sigil hsigil hname] at hnone
        cases hnone

end Ready

/-- No token begins where no word can be read. -/
theorem lt_start_of_leading?_eq_none {text : List Char} (hafter : ∀ c ∈ after.head?, ¬ isNameChar c)
    (hnone : leading? (byteLength before) (c :: text) = none)
    (htoken : IsToken (before ++ c :: text ++ after) w) (hle : byteLength before ≤ w.start) :
    byteLength before + c.utf8Size ≤ w.start := by
  obtain ⟨front, rest, htext, hstart, hleading⟩ := leading?_of_isToken htoken
  rw [← hstart] at hle hleading ⊢
  rw [List.append_assoc] at htext
  obtain ⟨between, rfl, hrest⟩ := exists_append_of_places_le Char.utf8Size_pos htext hle
  cases between with
  | nil =>
    rw [List.append_nil, ← List.nil_append rest, ← hrest,
      leading?_append_after hafter (List.cons_ne_nil c text), hnone] at hleading
    cases hleading
  | cons d between =>
    obtain rfl : c = d := (List.cons.inj hrest).1
    rw [byteLength_append, byteLength_cons]
    omega

/-- What is read from a part of the text are the tokens in it. -/
theorem mem_scan_iff (hready : Ready before text) (hafter : ∀ c ∈ after.head?, ¬ isNameChar c) :
    w ∈ scan (byteLength before) text ↔ IsToken (before ++ text ++ after) w ∧
      byteLength before ≤ w.start ∧ w.stop ≤ byteLength (before ++ text) := by
  generalize hstart : byteLength before = start
  fun_induction scan start text generalizing before with
  | case1 start =>
    rw [List.append_nil, hstart]
    constructor
    · exact fun h => absurd h List.not_mem_nil
    · rintro ⟨htoken, hle, hstop⟩
      have hlt := htoken.start_lt_stop
      omega
  | case2 start c text word hword ih =>
    obtain ⟨piece, right, htext, hne, hlength, hbegin, hend, hcloses⟩ :=
      exists_piece_of_leading? hword
    have hdrop : text.drop (word.stop - start - 1) = right := by
      obtain ⟨d, piece, rfl⟩ := List.exists_cons_of_ne_nil hne
      obtain ⟨rfl, rfl⟩ : c = d ∧ text = piece ++ right := by simpa using htext
      rw [hend, Nat.add_sub_cancel_left, List.length_cons, Nat.add_sub_cancel, List.drop_left]
    have hstop : byteLength (before ++ piece) = word.stop := by
      rw [byteLength_append, hlength, hstart, hend]
    rw [hdrop] at ih ⊢
    rw [List.mem_cons, ih (.of_closes hcloses) hstop]
    rw [← hstart] at hword
    have htoken := hready.isToken_of_leading? hafter hword
    rw [htext, ← List.append_assoc before] at htoken ⊢
    have hlt := htoken.start_lt_stop
    constructor
    · rintro (rfl | ⟨hw, hle, hle'⟩)
      · refine ⟨htoken, Nat.le_of_eq hbegin.symm, ?_⟩
        rw [byteLength_append, hstop]
        exact Nat.le_add_right _ _
      · exact ⟨hw, by omega, hle'⟩
    · -- Tokens do not overlap, so another one in the text begins where the word ends or later.
      rintro ⟨hw, hle, hle'⟩
      rcases htoken.eq_or_apart hw with rfl | ⟨hbehind, -⟩ | ⟨hahead, -⟩
      · exact .inl rfl
      · exact .inr ⟨hw, hbehind, hle'⟩
      · have hlt' := hw.start_lt_stop
        omega
  | case3 start c text hnone ih =>
    have hnext := ih (hready.concat hnone) (by rw [byteLength_append, hstart]; rfl)
    rw [List.append_assoc before, List.singleton_append] at hnext
    rw [hnext]
    constructor
    · rintro ⟨htoken, hle, hle'⟩
      exact ⟨htoken, by omega, hle'⟩
    · rintro ⟨htoken, hle, hle'⟩
      subst hstart
      exact ⟨htoken, lt_start_of_leading?_eq_none hafter hnone htoken hle, hle'⟩

theorem le_start_of_mem_scan (h : w ∈ scan start text) : start ≤ w.start := by
  fun_induction scan start text with
  | case1 start => cases h
  | case2 start c text word hword ih =>
    obtain ⟨piece, right, htext, hne, hlength, hbegin, hend, hcloses⟩ :=
      exists_piece_of_leading? hword
    rcases List.mem_cons.mp h with rfl | h
    · exact Nat.le_of_eq hbegin.symm
    · have := ih h
      omega
  | case3 start c text hnone ih =>
    have := ih h
    omega

theorem pairwise_scan (start : Nat) (text : List Char) :
    (scan start text).Pairwise fun a b => a.stop ≤ b.start := by
  fun_induction scan start text with
  | case1 start => exact .nil
  | case2 start c text word hword ih =>
    exact .cons (fun b hb => le_start_of_mem_scan hb) ih
  | case3 start c text hnone ih => exact ih

theorem isToken_of_mem_scan (h : w ∈ scan 0 text) :
    IsToken text w ∧ w.stop ≤ byteLength text := by
  have hready : Ready [] text := ⟨by simp, by simp⟩
  have hnothing : ∀ c ∈ ([] : List Char).head?, ¬ isNameChar c := by simp
  simpa using (mem_scan_iff hready hnothing).mp h

/-- The same word in a text that `n` bytes stand before. -/
def shift (n : Nat) (w : Word) : Word := { w with start := n + w.start, stop := n + w.stop }

theorem leading?_shift (n start : Nat) (text : List Char) :
    leading? (n + start) text = (leading? start text).map (shift n) := by
  cases hname : leadingName? text with
  | some name =>
    rw [leading?_of_name hname, leading?_of_name hname, Option.map_some, shift, Nat.add_assoc]
  | none =>
    cases text with
    | nil => simp only [leading?, hname, Option.map_none]
    | cons c rest =>
      simp only [leading?, hname]
      split
      · simp only [Option.map_some, shift, Nat.add_assoc]
      · rfl

theorem scan_shift (n start : Nat) (text : List Char) :
    scan (n + start) text = (scan start text).map (shift n) := by
  fun_induction scan start text with
  | case1 start => rw [scan, List.map_nil]
  | case2 start c text word hword ih =>
    have hdrop : (word.shift n).stop - (n + start) - 1 = word.stop - start - 1 := by
      rw [shift, Nat.add_sub_add_left]
    rw [scan, leading?_shift, hword, Option.map_some, List.map_cons, ← ih, ← hdrop]
    rfl
  | case3 start c text hnone ih =>
    rw [scan, leading?_shift, hnone, Option.map_none, ← ih, Nat.add_assoc]

theorem leading?_eq_none (hname : ¬ isNameChar c) (hsigil : WordKind.ofSigil? c = none)
    (text : List Char) : leading? start (c :: text) = none := by
  have hnone : leadingName? (c :: text) = none := by
    rw [leadingName?_eq_none_iff]
    rintro d ⟨⟩
    exact not_isNameStart hname
  simp only [leading?, hnone, hsigil]

theorem scan_eq_nil (h : ∀ c ∈ text, ¬ isNameChar c ∧ WordKind.ofSigil? c = none) (start : Nat) :
    scan start text = [] := by
  induction text generalizing start with
  | nil => rw [scan]
  | cons c text ih =>
    rw [List.forall_mem_cons] at h
    rw [scan, leading?_eq_none h.1.1 h.1.2]
    exact ih h.2 _

/-- There is no word in the blanks at the end of a line. -/
theorem scan_append (h : ∀ c ∈ after, ¬ isNameChar c ∧ WordKind.ofSigil? c = none) (start : Nat)
    (text : List Char) : scan start (text ++ after) = scan start text := by
  have hafter : ∀ c ∈ after.head?, ¬ isNameChar c := fun c hc => (h c (List.mem_of_head? hc)).1
  fun_induction scan start text with
  | case1 start => rw [List.nil_append, scan_eq_nil h]
  | case2 start c text word hword ih =>
    obtain ⟨piece, right, htext, hne, hlength, hbegin, hend, hcloses⟩ :=
      exists_piece_of_leading? hword
    have hpiece := List.length_pos_of_ne_nil hne
    have htotal := congrArg List.length htext
    rw [List.length_cons, List.length_append] at htotal
    have hdrop : word.stop - start - 1 ≤ text.length := by omega
    rw [List.cons_append, scan, ← List.cons_append,
      leading?_append_after hafter (List.cons_ne_nil c text), hword]
    simp only [List.drop_append_of_le_length hdrop, ih]
  | case3 start c text hnone ih =>
    rw [List.cons_append, scan, ← List.cons_append,
      leading?_append_after hafter (List.cons_ne_nil c text), hnone]
    exact ih

theorem ready_of_isLine {number : Nat} {above line below : List Char}
    (h : IsLine text number above line below) : Ready above line := by
  constructor
  · intro c hc hname d hd
    rcases h.above_cases with rfl | ⟨front, rfl⟩
    · cases hd
    · have hfeed : isNameChar '\n' = false := by decide
      simp [hfeed] at hd
  · intro c hc hstart d hd
    rw [h.opens d hd]
    rfl

end Word

/-- The word is the leftmost of the tokens that touch the offset. -/
structure IsWordAt (text : List Char) (offset : Nat) (w : Word) : Prop where
  isToken : IsToken text w
  start_le : w.start ≤ offset
  le_stop : offset ≤ w.stop
  leftmost : ∀ other, IsToken text other → other.start ≤ offset → offset ≤ other.stop →
    w.start ≤ other.start

/-- The word at an offset is only one. -/
theorem IsWordAt.unique {w' : Word} (h : IsWordAt text offset w) (h' : IsWordAt text offset w') :
    w = w' := by
  have hle := h.leftmost w' h'.isToken h'.start_le h'.le_stop
  have hle' := h'.leftmost w h.isToken h.start_le h.le_stop
  have hlt := h.isToken.start_lt_stop
  have hlt' := h'.isToken.start_lt_stop
  rcases h.isToken.eq_or_apart h'.isToken with heq | ⟨hapart, -⟩ | ⟨hapart, -⟩
  · exact heq
  · omega
  · omega

/-- Of the tokens that touch an offset one has the smallest start. -/
theorem IsToken.exists_isWordAt (h : IsToken text w) (hstart : w.start ≤ offset)
    (hstop : offset ≤ w.stop) : ∃ w', IsWordAt text offset w' := by
  obtain ⟨w', ⟨htoken, hstart', hstop'⟩, hmin⟩ := (measure Word.start).wf.has_min
    {w | IsToken text w ∧ w.start ≤ offset ∧ offset ≤ w.stop} ⟨w, h, hstart, hstop⟩
  refine ⟨w', htoken, hstart', hstop', fun other hother hle hle' => ?_⟩
  exact Nat.not_lt.mp (hmin other ⟨hother, hle, hle'⟩)

namespace Word

/-- The word at an offset is looked for on the line around it. -/
theorem at?_eq {number : Nat} {above below : List Char}
    (h : IsLine text number above (before ++ after) below) :
    at? text (byteLength above + byteLength before) =
      .ok ((scan (byteLength above) (before ++ after)).find?
        (·.touches (byteLength above + byteLength before))) := by
  have hoffset : byteLength (above ++ before) = byteLength above + byteLength before :=
    byteLength_append above before
  have htext : text = (above ++ before) ++ (after ++ below) := by simp [h.text_eq]
  have hpast : ¬ byteLength text < byteLength above + byteLength before := by
    rw [htext, byteLength_append (above ++ before)]
    omega
  have hboundary : IsBoundary text (byteLength above + byteLength before) :=
    isBoundary_iff.mpr ⟨_, _, htext, hoffset⟩
  have htake : takeBytes (byteLength above + byteLength before) text = above ++ before := by
    rw [htext, ← hoffset, takeBytes_byteLength_append]
  have hdrop : dropBytes (byteLength above + byteLength before) text = after ++ below := by
    rw [htext, ← hoffset]
    exact dropWidth_places_append Char.utf8Size_pos _ _
  have hinside := h.inside
  rw [List.mem_append, not_or] at hinside
  have hbefore : (above ++ before).reverse.takeWhile (· ≠ '\n') = before.reverse := by
    rw [List.reverse_append]
    apply takeWhile_append_exact
    · intro c hc
      simpa using fun he : c = '\n' => hinside.1 (he ▸ List.mem_reverse.mp hc)
    · intro c hc
      rw [List.head?_reverse] at hc
      simpa using h.opens c hc
  have hafter : (after ++ below).takeWhile (· ≠ '\n') = after := by
    apply takeWhile_append_exact
    · intro c hc
      simpa using fun he : c = '\n' => hinside.2 (he ▸ hc)
    · intro c hc
      simpa using h.closes c hc
  simp only [at?, hpast, hboundary, not_true, if_false, htake, hdrop, hbefore, hafter,
    List.reverse_reverse, byteLength_reverse, Nat.add_sub_cancel]

/-- The words of the line around an offset, of which those that touch it are the tokens that do. -/
theorem exists_at?_eq (h : IsBoundary text offset) :
    ∃ words : List Word, at? text offset = .ok (words.find? (·.touches offset)) ∧
      (words.Pairwise fun a b => a.stop ≤ b.start) ∧
      ∀ w : Word, w.touches offset → (w ∈ words ↔ IsToken text w) := by
  obtain ⟨above, before, below, hleft, -, hline⟩ :=
    exists_isLine_of_cut (takeBytes offset text) (dropBytes offset text)
  rw [takeBytes_append_dropBytes] at hline
  have hoffset : byteLength above + byteLength before = offset := by
    rw [← byteLength_append, ← hleft]
    exact h
  have hafter : ∀ c ∈ below.head?, ¬ isNameChar c := by
    intro c hc
    rw [hline.closes c hc]
    decide
  have hat := at?_eq hline
  rw [hoffset] at hat
  refine ⟨_, hat, pairwise_scan _ _, fun w hw => ?_⟩
  have htouches : w.start ≤ offset ∧ offset ≤ w.stop := by simpa [touches] using hw
  rw [mem_scan_iff (ready_of_isLine hline) hafter, List.append_assoc above, ← hline.text_eq]
  refine and_iff_left_of_imp fun htoken => ?_
  rw [byteLength_append above]
  apply htoken.within_line hline
  · omega
  · rw [byteLength_append]
    omega

/-- There is a word at an offset just when a token touches it, and it is the leftmost of them. -/
theorem exists_isWordAt_iff (h : IsBoundary text offset) :
    ∃ answer, at? text offset = .ok answer ∧ ∀ w, answer = some w ↔ IsWordAt text offset w := by
  obtain ⟨words, hat, hsorted, hwords⟩ := exists_at?_eq h
  have htouches : ∀ w : Word, w.touches offset ↔ w.start ≤ offset ∧ offset ≤ w.stop := by
    simp [touches]
  have hfound : ∀ w, words.find? (·.touches offset) = some w → IsWordAt text offset w := by
    intro w hfind
    obtain ⟨hw, skipped, rest, rfl, hskipped⟩ := List.find?_eq_some_iff_append.mp hfind
    have htoken := (hwords w hw).mp (by simp)
    obtain ⟨hstart, hstop⟩ := (htouches w).mp hw
    refine ⟨htoken, hstart, hstop, fun other hother hle hle' => ?_⟩
    have hmem := (hwords other ((htouches other).mpr ⟨hle, hle'⟩)).mpr hother
    rcases List.mem_append.mp hmem with hmem | hmem
    · have hnot := hskipped other hmem
      rw [(htouches other).mpr ⟨hle, hle'⟩] at hnot
      cases hnot
    · rcases List.mem_cons.mp hmem with rfl | hmem
      · exact Nat.le_refl _
      · have hlt := htoken.start_lt_stop
        have hnext := (List.pairwise_cons.mp (List.pairwise_append.mp hsorted).2.1).1 other hmem
        omega
  refine ⟨_, hat, fun w => ⟨hfound w, fun hw => ?_⟩⟩
  have hmem := (hwords w ((htouches w).mpr ⟨hw.start_le, hw.le_stop⟩)).mpr hw.isToken
  cases hfind : words.find? (·.touches offset) with
  | none =>
    have hnot := List.find?_eq_none.mp hfind w hmem
    exact absurd ((htouches w).mpr ⟨hw.start_le, hw.le_stop⟩) hnot
  | some found => rw [(hfound found hfind).unique hw]

/-- Between two characters there is a word just when a token of the text is there or ends there: the
token with the smallest start, which the text spells from its start to its stop. Past the end of the
text there is no word. -/
theorem at?_leftmost_token (text : List Char) (offset : Nat) :
    (IsBoundary text offset → ∃ answer, at? text offset = .ok answer ∧
      (answer.isSome ↔ ∃ w, IsToken text w ∧ w.start ≤ offset ∧ offset ≤ w.stop) ∧
      (∀ w, answer = some w ↔ IsWordAt text offset w) ∧
      ∀ w, answer = some w → dropBytes w.start (takeBytes w.stop text) = w.spelling) ∧
    (byteLength text < offset → at? text offset = .ok none) := by
  constructor
  · intro h
    obtain ⟨answer, hat, hanswer⟩ := exists_isWordAt_iff h
    refine ⟨answer, hat, ?_, hanswer, fun w hw => ((hanswer w).mp hw).isToken.slice_eq⟩
    rw [Option.isSome_iff_exists]
    constructor
    · intro hsome
      obtain ⟨w, hw⟩ := hsome
      have hword := (hanswer w).mp hw
      exact ⟨w, hword.isToken, hword.start_le, hword.le_stop⟩
    · intro htoken
      obtain ⟨w, hw, hstart, hstop⟩ := htoken
      obtain ⟨w', hword⟩ := hw.exists_isWordAt hstart hstop
      exact ⟨w', (hanswer w').mpr hword⟩
  · intro h
    rw [at?, if_pos h]

/-- Two tokens that touch, behind a sigil that belongs to neither. -/
theorem at?_leftmost_token_shared :
    at? ['$', '$', 'a', '@', 'b'] 3 = .ok (some ⟨['a'], 1, 3, .variable⟩) ∧
      at? ['$', '$', 'a', '@', 'b'] 6 = .ok none := by
  obtain ⟨hinside, -⟩ := at?_leftmost_token ['$', '$', 'a', '@', 'b'] 3
  obtain ⟨-, hpast⟩ := at?_leftmost_token ['$', '$', 'a', '@', 'b'] 6
  obtain ⟨answer, hat, -, hanswer, -⟩ := hinside (by decide)
  have htoken : IsToken ['$', '$', 'a', '@', 'b'] ⟨['a'], 1, 3, .variable⟩ :=
    @IsToken.withSigil _ ['$'] ['a'] ['@', 'b'] '$' .variable rfl
      ⟨List.all_eq_true.mp rfl, by simp [isNameChar], by simp [isNameChar]⟩ ⟨'a', rfl, by decide⟩
      rfl
  have hword : IsWordAt ['$', '$', 'a', '@', 'b'] 3 ⟨['a'], 1, 3, .variable⟩ := by
    refine ⟨htoken, by decide, by decide, fun other hother hstart hstop => ?_⟩
    rcases htoken.eq_or_apart hother with rfl | ⟨hbehind, -⟩ | ⟨hahead, -⟩
    · exact Nat.le_refl _
    · simp only at hbehind ⊢
      omega
    · simp only at hahead ⊢
      omega
  rw [(hanswer _).mpr hword] at hat
  exact ⟨hat, hpast (by decide)⟩

end Word

end AutoItDocs
