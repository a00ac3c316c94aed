import AutoItDocs.Script.LineIndex
import AutoItDocs.Proofs.Text.Width
import AutoItDocs.Proofs.Text.Runs
/-!
Lines of a text and the conversions between offsets and positions. On the line that an offset or a
position is on, both conversions are cuts of that line, one in bytes and one in units; everything
about going back and forth follows from that.
-/
namespace AutoItDocs

open Text

/-- The text has `line` as its line with the index `number`, with `above` before it and `below`
after it; a line feed between lines is the last of `above` or the first of `below`. -/
structure IsLine (text : List Char) (number : Nat) (above line below : List Char) : Prop where
  text_eq : text = above ++ (line ++ below)
  number_eq : above.count '\n' = number
  opens : ∀ c ∈ above.getLast?, c = '\n'
  inside : '\n' ∉ line
  closes : ∀ c ∈ below.head?, c = '\n'

variable {text above line below : List Char} {number start offset : Nat}

/-- The line around a cut of the text. -/
theorem exists_isLine_of_cut (left right : List Char) :
    ∃ above before below, left = above ++ before ∧
      before = (left.reverse.takeWhile (· ≠ '\n')).reverse ∧
      IsLine (left ++ right) (left.count '\n') above (before ++ right.takeWhile (· ≠ '\n'))
        below := by
  obtain ⟨above, before, hleft, hbefore, hinside, hopens⟩ :=
    exists_trailing_run (· ≠ '\n') left
  obtain ⟨after, below, hright, hafter, hinside', hcloses⟩ := exists_leading_run (· ≠ '\n') right
  have hnot : '\n' ∉ before ++ after := by
    rw [List.mem_append]
    rintro (h | h)
    · simpa using hinside _ h
    · simpa using hinside' _ h
  refine ⟨above, before, below, hleft, hbefore, ?_⟩
  rw [← hafter]
  constructor
  · rw [hleft, hright, List.append_assoc, List.append_assoc]
  · rw [hleft, List.count_append, List.count_eq_zero_of_not_mem fun h =>
      hnot (List.mem_append_left after h), Nat.add_zero]
  · simpa using hopens
  · exact hnot
  · simpa using hcloses

theorem exists_append_of_le_count {c : Char} {n : Nat} (h : n ≤ text.count c) :
    ∃ left right, text = left ++ right ∧ left.count c = n := by
  induction text generalizing n with
  | nil => exact ⟨[], [], rfl, (Nat.le_zero.mp h).symm⟩
  | cons d text ih =>
    cases n with
    | zero => exact ⟨[], d :: text, rfl, rfl⟩
    | succ n =>
      rw [List.count_cons] at h
      obtain ⟨left, right, rfl, hleft⟩ := ih (n := if d == c then n else n + 1) (by grind)
      refine ⟨d :: left, right, rfl, ?_⟩
      rw [List.count_cons, hleft]
      split <;> rfl

theorem exists_isLine (h : number ≤ text.count '\n') :
    ∃ above line below, IsLine text number above line below := by
  obtain ⟨left, right, rfl, rfl⟩ := exists_append_of_le_count h
  obtain ⟨above, before, below, -, -, hline⟩ := exists_isLine_of_cut left right
  exact ⟨above, _, below, hline⟩

namespace IsLine

theorem above_cases (h : IsLine text number above line below) :
    above = [] ∨ ∃ front, above = front ++ ['\n'] := by
  by_cases hne : above = []
  · exact .inl hne
  · have hlast := h.opens (above.getLast hne) (List.getLast?_eq_some_getLast hne)
    exact .inr ⟨above.dropLast, by rw [← hlast, List.dropLast_concat_getLast]⟩

theorem below_cases (h : IsLine text number above line below) :
    below = [] ∨ ∃ rest, below = '\n' :: rest := by
  cases below with
  | nil => exact .inl rfl
  | cons c rest => exact .inr ⟨rest, by rw [h.closes c rfl]⟩

theorem dropBytes_above (h : IsLine text number above line below) :
    dropBytes (byteLength above) text = line ++ below := by
  rw [h.text_eq]
  exact dropWidth_places_append Char.utf8Size_pos above _

theorem number_le (h : IsLine text number above line below) : number ≤ text.count '\n' := by
  rw [← h.number_eq, h.text_eq, List.count_append]
  exact Nat.le_add_right _ _

end IsLine

/-- An offset is on a line of the text, an offset past the end on the last one. -/
theorem exists_isLine_of_offset (text : List Char) (offset : Nat) :
    ∃ number above line below, IsLine text number above line below ∧ byteLength above ≤ offset ∧
      (offset ≤ byteLength above + byteLength line ∨ below = []) := by
  obtain ⟨above, before, below, hleft, -, hline⟩ := exists_isLine_of_cut (takeBytes offset text)
    (dropBytes offset text)
  rw [takeBytes_append_dropBytes] at hline
  refine ⟨_, _, _, _, hline, ?_, ?_⟩
  · -- The line feed before the line is a character that starts before the offset.
    rcases hline.above_cases with rfl | ⟨front, rfl⟩
    · exact Nat.zero_le _
    · rw [List.append_assoc, List.singleton_append] at hleft
      have hlt : byteLength front < offset := places_lt_of_takeWidth hleft
      rwa [byteLength_append]
  · rcases Nat.le_total offset (byteLength text) with h | h
    · have hle : offset ≤ byteLength (takeBytes offset text) := le_places_takeWidth h
      rw [hleft, byteLength_append] at hle
      rw [byteLength_append]
      omega
    · have htake : takeBytes offset text = text := takeWidth_of_places_le Char.utf8Size_pos h
      rw [htake] at hleft
      have happend := hleft.symm.trans hline.text_eq
      simp only [List.append_assoc, List.append_cancel_left_eq, List.self_eq_append_right,
        List.append_eq_nil_iff] at happend
      exact .inr happend.2

theorem length_startsAfterFeeds (start : Nat) (text : List Char) :
    (startsAfterFeeds start text).length = text.count '\n' := by
  induction text generalizing start with
  | nil => rfl
  | cons c text ih =>
    rw [startsAfterFeeds, List.count_cons]
    split <;> simp_all

theorem startsAfterFeeds_append (start : Nat) (left right : List Char) :
    startsAfterFeeds start (left ++ right) =
      startsAfterFeeds start left ++ startsAfterFeeds (start + byteLength left) right := by
  induction left generalizing start with
  | nil => rfl
  | cons c left ih =>
    simp only [List.cons_append, startsAfterFeeds, ih, byteLength_cons, Nat.add_assoc]
    split <;> rfl

theorem startsAfterFeeds_of_not_mem (start : Nat) (h : '\n' ∉ line) :
    startsAfterFeeds start line = [] := by
  apply List.eq_nil_of_length_eq_zero
  rw [length_startsAfterFeeds, List.count_eq_zero_of_not_mem h]

theorem bounds_of_mem_startsAfterFeeds {n : Nat} (h : n ∈ startsAfterFeeds start text) :
    start < n ∧ n ≤ start + byteLength text := by
  induction text generalizing start with
  | nil => cases h
  | cons c text ih =>
    have hc := c.utf8Size_pos
    rw [byteLength_cons]
    rw [startsAfterFeeds] at h
    split at h
    · rcases List.mem_cons.mp h with rfl | h
      · omega
      · have := ih h
        omega
    · have := ih h
      omega

namespace IsLine

theorem lineStarts_eq (h : IsLine text number above line below) :
    lineStarts text = (0 :: startsAfterFeeds 0 above) ++
      startsAfterFeeds (byteLength above + byteLength line) below := by
  rw [lineStarts, h.text_eq, startsAfterFeeds_append, startsAfterFeeds_append,
    startsAfterFeeds_of_not_mem _ h.inside, List.nil_append, List.cons_append, Nat.zero_add]

theorem length_front (h : IsLine text number above line below) :
    (0 :: startsAfterFeeds 0 above).length = number + 1 := by
  rw [List.length_cons, length_startsAfterFeeds, h.number_eq]

theorem lineStarts_getElem? (h : IsLine text number above line below) :
    (lineStarts text)[number]? = some (byteLength above) := by
  rw [h.lineStarts_eq, List.getElem?_append_left (by rw [h.length_front]; omega)]
  rcases h.above_cases with rfl | ⟨front, rfl⟩
  · rw [← h.number_eq]
    rfl
  · have hlength : number = (startsAfterFeeds 0 front).length + 1 := by
      rw [length_startsAfterFeeds, ← h.number_eq, List.count_append, List.count_singleton_self]
    have hlast :
        startsAfterFeeds (0 + byteLength front) ['\n'] = [byteLength (front ++ ['\n'])] := by
      rw [Nat.zero_add, byteLength_append]
      rfl
    rw [hlength, List.getElem?_cons_succ, startsAfterFeeds_append, hlast,
      List.getElem?_concat_length]

theorem lineStarts_getElem?_succ (h : IsLine text number above line below) :
    (lineStarts text)[number + 1]? =
      below.head?.map fun _ => byteLength above + byteLength line + 1 := by
  rw [h.lineStarts_eq, List.getElem?_append_right (by rw [h.length_front]), h.length_front,
    Nat.sub_self]
  rcases h.below_cases with rfl | ⟨rest, rfl⟩ <;> rfl

theorem takeWhile_eq (h : IsLine text number above line below) :
    (line ++ below).takeWhile (· ≠ '\n') = line := by
  apply takeWhile_append_exact
  · intro c hc
    simpa using fun he : c = '\n' => h.inside (he ▸ hc)
  · intro c hc
    simpa using h.closes c hc

/-- A line of a text keeps its place when another text and a line feed come before. -/
theorem append_feed (h : IsLine text number above line below) (front : List Char) :
    IsLine (front ++ '\n' :: text) (front.count '\n' + number + 1) (front ++ '\n' :: above) line
      below where
  text_eq := by simp [h.text_eq]
  number_eq := by simp [h.number_eq, Nat.add_assoc]
  opens := by
    rcases h.above_cases with rfl | ⟨lines, rfl⟩
    · simp
    · have hlast : front ++ '\n' :: (lines ++ ['\n']) = (front ++ '\n' :: lines) ++ ['\n'] := by simp
      rw [hlast, List.getLast?_concat]
      simp
  inside := h.inside
  closes := h.closes

/-- A text has one line with a number. -/
theorem unique {above' line' below' : List Char} (h : IsLine text number above line below)
    (h' : IsLine text number above' line' below') :
    above = above' ∧ line = line' ∧ below = below' := by
  have hstart := h.lineStarts_getElem?
  rw [h'.lineStarts_getElem?, Option.some.injEq] at hstart
  obtain ⟨rfl, hrest⟩ := append_inj_of_places_eq Char.utf8Size_pos
    (h.text_eq.symm.trans h'.text_eq) hstart.symm
  obtain rfl : line = line' := by rw [← h.takeWhile_eq, hrest, h'.takeWhile_eq]
  exact ⟨rfl, rfl, List.append_cancel_left hrest⟩

end IsLine

namespace LineIndex

theorem eq_ofText (index : LineIndex) : index = .ofText index.text := by
  obtain ⟨text, _, rfl⟩ := index
  rfl

variable {index : LineIndex} {k low high : Nat}

/-- Bisection finds the border between the entries up to the offset and those above it. -/
theorem bisect_eq {starts : Array Nat} (hlow : low ≤ k) (hhigh : k ≤ high)
    (hle : ∀ i < k, starts.getD i 0 ≤ offset)
    (hgt : ∀ i < high, k ≤ i → offset < starts.getD i 0) :
    bisect starts offset low high = k := by
  fun_induction bisect starts offset low high with
  | case1 low high hlt middle hmiddle ih =>
    have hk : middle < k := by
      by_contra hk
      have := hgt middle (by omega) (by omega)
      omega
    exact ih hk hhigh hgt
  | case2 low high hlt middle hmiddle ih =>
    have hk : k ≤ middle := by
      by_contra hk
      exact hmiddle (hle middle (by omega))
    exact ih hlow hk fun i hi => hgt i (by omega)
  | case3 low high hge => omega

theorem starts_getElem? (index : LineIndex) (i : Nat) :
    index.starts[i]? = (lineStarts index.text)[i]? := by
  rw [index.starts_eq, List.getElem?_toArray]

theorem starts_getD (index : LineIndex) (i : Nat) :
    index.starts.getD i 0 = (lineStarts index.text)[i]?.getD 0 := by
  rw [← starts_getElem?, Array.getD_eq_getD_getElem?]

theorem size_starts (h : IsLine index.text number above line below) :
    index.starts.size = number + 1 +
      (startsAfterFeeds (byteLength above + byteLength line) below).length := by
  rw [index.starts_eq, List.size_toArray, h.lineStarts_eq, List.length_append, h.length_front]

theorem starts_getD_le (h : IsLine index.text number above line below) {i : Nat}
    (hi : i < number + 1) : index.starts.getD i 0 ≤ byteLength above := by
  rw [← h.length_front] at hi
  rw [starts_getD, h.lineStarts_eq, List.getElem?_append_left hi, List.getElem?_eq_getElem hi,
    Option.getD_some]
  rcases List.mem_cons.mp (List.getElem_mem hi) with hzero | hmem
  · omega
  · have hbound := (bounds_of_mem_startsAfterFeeds hmem).2
    omega

theorem starts_getD_mem (h : IsLine index.text number above line below) {i : Nat}
    (hi : i < index.starts.size) (hge : number + 1 ≤ i) :
    index.starts.getD i 0 ∈ startsAfterFeeds (byteLength above + byteLength line) below := by
  rw [size_starts h] at hi
  rw [← h.length_front] at hge hi
  have hlater : i - (0 :: startsAfterFeeds 0 above).length <
      (startsAfterFeeds (byteLength above + byteLength line) below).length := by omega
  rw [starts_getD, h.lineStarts_eq, List.getElem?_append_right hge,
    List.getElem?_eq_getElem hlater, Option.getD_some]
  exact List.getElem_mem hlater

/-- The starts up to that of the line do not exceed an offset on it, the later ones do. -/
theorem bisect_starts_eq (h : IsLine index.text number above line below)
    (hstart : byteLength above ≤ offset)
    (hstop : offset ≤ byteLength above + byteLength line ∨ below = []) :
    bisect index.starts offset 0 index.starts.size = number + 1 := by
  have hborder : number + 1 ≤ index.starts.size := by
    rw [size_starts h]
    exact Nat.le_add_right _ _
  refine bisect_eq (Nat.zero_le _) hborder ?_ ?_
  · intro i hi
    exact Nat.le_trans (starts_getD_le h hi) hstart
  · intro i hi hge
    have hmem := starts_getD_mem h hi hge
    rcases hstop with hstop | rfl
    · exact Nat.lt_of_le_of_lt hstop (bounds_of_mem_startsAfterFeeds hmem).1
    · exact absurd hmem List.not_mem_nil

theorem lineOf_eq (h : IsLine index.text number above line below)
    (hstart : byteLength above ≤ offset)
    (hstop : offset ≤ byteLength above + byteLength line ∨ below = []) :
    index.lineOf offset = number := by
  rw [lineOf, bisect_starts_eq h hstart hstop, Nat.add_sub_cancel]

theorem lineFrom_eq (h : IsLine index.text number above line below) :
    index.lineFrom (byteLength above) = line := by
  rw [lineFrom, h.dropBytes_above, h.takeWhile_eq]

theorem positionAt_eq (h : IsLine index.text number above line below)
    (hstart : byteLength above ≤ offset)
    (hstop : offset ≤ byteLength above + byteLength line ∨ below = []) :
    index.positionAt offset =
      ⟨number, unitLength (takeBytes (offset - byteLength above) line)⟩ := by
  have hbegin : index.starts.getD number 0 = byteLength above := by
    rw [starts_getD, h.lineStarts_getElem?, Option.getD_some]
  simp only [positionAt, lineOf_eq h hstart hstop, hbegin, lineFrom_eq h]

theorem lineBounds?_eq (h : IsLine index.text number above line below) :
    index.lineBounds? number = some (byteLength above, byteLength above + byteLength line) := by
  rw [lineBounds?, starts_getElem?, starts_getElem?, h.lineStarts_getElem?,
    h.lineStarts_getElem?_succ, Option.map_some]
  rcases h.below_cases with rfl | ⟨rest, rfl⟩
  · simp [h.text_eq]
  · rfl

theorem offsetAt?_eq (h : IsLine index.text number above line below) (character : Nat) :
    index.offsetAt? ⟨number, character⟩ =
      some (byteLength above + byteLength (takeUnits character line)) := by
  have hline : takeBytes (byteLength line) (dropBytes (byteLength above) index.text) = line := by
    rw [h.dropBytes_above]
    exact takeWidth_places_append Char.utf8Size_pos line below
  simp only [offsetAt?, lineBounds?_eq h, Option.map_some, Nat.add_sub_cancel_left, hline]

theorem offsetAt?_eq_none_iff {position : Position} :
    index.offsetAt? position = none ↔ index.text.count '\n' < position.line := by
  rw [offsetAt?, Option.map_eq_none_iff, lineBounds?, Option.map_eq_none_iff, starts_getElem?,
    List.getElem?_eq_none_iff, lineStarts, List.length_cons, length_startsAfterFeeds]
  exact Nat.succ_le_iff

/-- A position below a line feed has its offset in what comes behind the line feed. -/
theorem offsetAt?_append_feed (front rest : List Char) (number character : Nat) :
    (ofText (front ++ '\n' :: rest)).offsetAt? ⟨front.count '\n' + number + 1, character⟩ =
      ((ofText rest).offsetAt? ⟨number, character⟩).map (byteLength (front ++ ['\n']) + ·) := by
  by_cases hnumber : number ≤ rest.count '\n'
  · obtain ⟨above, line, below, h⟩ := exists_isLine hnumber
    have hrest : (ofText rest).offsetAt? ⟨number, character⟩ = _ := offsetAt?_eq h character
    have hwhole : (ofText (front ++ '\n' :: rest)).offsetAt? _ = _ :=
      offsetAt?_eq (h.append_feed front) character
    rw [hrest, hwhole]
    simp [Nat.add_assoc]
  · have hrest : (ofText rest).offsetAt? ⟨number, character⟩ = none :=
      offsetAt?_eq_none_iff.mpr (Nat.lt_of_not_le hnumber)
    rw [hrest, Option.map_none, offsetAt?_eq_none_iff]
    change (front ++ '\n' :: rest).count '\n' < front.count '\n' + number + 1
    rw [List.count_append, List.count_cons_self]
    omega

end LineIndex

end AutoItDocs
