import AutoItDocs.Proofs.Script.Statement
import AutoItDocs.Proofs.Script.PositionOrder
import AutoItDocs.Proofs.Text.Slice
/-!
Blocks of lines that are held together by continued lines. The start of the statement around an
offset is found by going up line by line, where the border of each line is computed from the offset
of the line below. Main statement: that walk ends at the start of the first line of the block, from
every offset on every line of the block.
-/
namespace AutoItDocs

open Text

/-- The offset is on the line or at one of its ends, and between two characters. -/
structure IsAt (text : List Char) (number : Nat) (above line below : List Char) (offset : Nat) :
    Prop where
  isLine : IsLine text number above line below
  start_le : byteLength above ≤ offset
  le_stop : offset ≤ byteLength above + byteLength line
  boundary : IsBoundary text offset

variable {text above line below front before after statement : List Char} {number offset : Nat}

namespace IsLine

/-- The line above a line that is not the first one. -/
theorem exists_previous (h : IsLine text (number + 1) above line below) :
    ∃ front previous, above = front ++ previous ++ ['\n'] ∧
      IsLine text number front previous ('\n' :: (line ++ below)) := by
  rcases h.above_cases with rfl | ⟨lines, rfl⟩
  · cases h.number_eq
  · obtain ⟨front, previous, rfl, -, hinside, hopens⟩ := exists_trailing_run (· ≠ '\n') lines
    have hfeed : '\n' ∉ previous := fun hmem => by simpa using hinside '\n' hmem
    have hcount := h.number_eq
    rw [List.count_append, List.count_append, List.count_eq_zero_of_not_mem hfeed,
      List.count_singleton_self, Nat.add_right_cancel_iff] at hcount
    exact ⟨front, previous, rfl, by simp [h.text_eq], hcount, by simpa using hopens, hfeed, by simp⟩

/-- Lines that start at one offset are the same. -/
theorem number_inj {number' : Nat} {above' line' below' : List Char}
    (h : IsLine text number above line below) (h' : IsLine text number' above' line' below')
    (heq : byteLength above = byteLength above') : number = number' := by
  obtain ⟨rfl, -⟩ := append_inj_of_places_eq Char.utf8Size_pos (h.text_eq.symm.trans h'.text_eq) heq
  exact h.number_eq.symm.trans h'.number_eq

end IsLine

theorem exists_isAt (h : IsBoundary text offset) :
    ∃ number above line below, IsAt text number above line below offset := by
  obtain ⟨number, above, line, below, hline, hstart, hstop⟩ := exists_isLine_of_offset text offset
  refine ⟨number, above, line, below, hline, hstart, ?_, h⟩
  rcases hstop with hstop | rfl
  · exact hstop
  · have hle : offset ≤ byteLength text := by
      rw [← h]
      exact places_takeWidth_le _ _ _
    simpa [hline.text_eq] using hle

namespace Statement

theorem continues_nil : Continues [] := continues_of_not_mem List.not_mem_nil

/-- An empty line behind a continued line belongs to its statement. -/
theorem IsLast.feed (h : IsLast text above statement) (hline : IsContinued (lastLine text)) :
    IsLast (text ++ ['\n']) above (statement ++ ['\n']) :=
  h.append_cons_of_continued hline continues_nil

/-- Behind a line that is not continued a statement begins. -/
theorem isLast_feed (h : ¬ IsContinued (lastLine text)) :
    IsLast (text ++ ['\n']) (text ++ ['\n']) [] :=
  (IsLast.of_continues continues_nil).append_cons_of_ended fun _ => h

end Statement

namespace ByOffset

open Statement

/-- Offset at which the line around an offset starts, which is behind the last line feed before. -/
def lineStart (text : List Char) (offset : Nat) : Except OffsetError Nat :=
  (slice text 0 offset).map fun before => (startsAfterFeeds 0 before).getLast?.getD 0

theorem lineStart_le {start : Nat} (h : lineStart text offset = .ok start) : start ≤ offset := by
  rw [lineStart] at h
  cases hbefore : slice text 0 offset with
  | error e =>
    rw [hbefore] at h
    cases h
  | ok before =>
    rw [hbefore, Except.map, Except.ok.injEq] at h
    obtain ⟨left, right, -, hleft, hstop⟩ := exists_append_of_slice hbefore
    cases hlast : (startsAfterFeeds 0 before).getLast? with
    | none =>
      rw [hlast, Option.getD_none] at h
      omega
    | some n =>
      have hbound := (bounds_of_mem_startsAfterFeeds (List.mem_of_getLast? hlast)).2
      rw [hlast, Option.getD_some] at h
      omega

/-- Goes up from the start of a line as long as the line above is continued. The line feed of the
line above is the last byte before the start. -/
def walk (text : List Char) (start : Nat) : Except OffsetError Nat :=
  if start = 0 then .ok 0
  else
    match _h : lineStart text (start - 1) with
    | .error e => .error e
    | .ok previous =>
      match slice text previous (start - 1) with
      | .error e => .error e
      | .ok line => if IsContinued line then walk text previous else .ok start
termination_by start
decreasing_by
  have hle := lineStart_le _h
  omega

/-- Offset at which the statement around an offset starts. -/
def statementStart (text : List Char) (offset : Nat) : Except OffsetError Nat :=
  (lineStart text offset).bind (walk text)

theorem lineStart_of_not_mem (h : '\n' ∉ line) (after : List Char) :
    lineStart (line ++ after) (byteLength line) = .ok 0 := by
  rw [lineStart, slice_left, Except.map, startsAfterFeeds_of_not_mem 0 h]
  rfl

theorem lineStart_append_cons (h : '\n' ∉ line) (front after : List Char) :
    lineStart (front ++ '\n' :: line ++ after) (byteLength (front ++ '\n' :: line)) =
      .ok (byteLength front + 1) := by
  have hlast : startsAfterFeeds (0 + byteLength front) ('\n' :: line) = [byteLength front + 1] := by
    rw [Nat.zero_add, startsAfterFeeds, if_pos rfl, startsAfterFeeds_of_not_mem _ h]
    rfl
  rw [lineStart, slice_left, Except.map, startsAfterFeeds_append, hlast, List.getLast?_concat]
  rfl

theorem walk_zero (text : List Char) : walk text 0 = .ok 0 := by
  rw [walk, if_pos rfl]

/-- One step of the walk, from behind the line feed of a line. -/
theorem walk_append_cons (above line after : List Char)
    (hstart : lineStart (above ++ line ++ '\n' :: after) (byteLength (above ++ line)) =
      .ok (byteLength above)) :
    walk (above ++ line ++ '\n' :: after) (byteLength (above ++ line) + 1) =
      if IsContinued line then walk (above ++ line ++ '\n' :: after) (byteLength above)
      else .ok (byteLength (above ++ line) + 1) := by
  have hline : slice (above ++ line ++ '\n' :: after) (byteLength above)
      (byteLength (above ++ line)) = .ok line := by
    rw [List.append_assoc, byteLength_append, slice_append]
  rw [walk, if_neg (Nat.succ_ne_zero _), Nat.add_sub_cancel]
  split
  case h_1 e herror =>
    rw [hstart] at herror
    cases herror
  case h_2 previous hprevious =>
    rw [hstart, Except.ok.injEq] at hprevious
    rw [← hprevious, hline]

theorem exists_walk (front after : List Char) :
    ∃ above statement, IsLast (front ++ ['\n']) above statement ∧
      walk (front ++ '\n' :: after) (byteLength front + 1) = .ok (byteLength above) := by
  induction front using lines_induction generalizing after with
  | line line hline =>
    have hstep := walk_append_cons [] line after (lineStart_of_not_mem hline _)
    have hsame : lastLine line = line := lastLine_of_not_mem hline
    rw [List.nil_append] at hstep
    rw [hstep]
    by_cases hcontinued : IsContinued line
    · have hlast := IsLast.of_continues (continues_of_not_mem hline)
      rw [if_pos hcontinued]
      exact ⟨_, _, hlast.feed (hsame.symm ▸ hcontinued), walk_zero _⟩
    · rw [if_neg hcontinued]
      exact ⟨_, _, isLast_feed (hsame.symm ▸ hcontinued), by rw [byteLength_append]; rfl⟩
  | feed front line hline ih =>
    have hfront : front ++ '\n' :: line = front ++ ['\n'] ++ line := by simp
    have hlength : byteLength (front ++ ['\n']) = byteLength front + 1 := byteLength_append _ _
    have hstart := lineStart_append_cons hline front ('\n' :: after)
    rw [hfront, ← hlength] at hstart
    have hstep := walk_append_cons _ line after hstart
    have hsame : lastLine (front ++ ['\n'] ++ line) = line := by
      rw [← hfront, lastLine_append_cons, lastLine_of_not_mem hline]
    rw [hfront, hstep]
    by_cases hcontinued : IsContinued line
    · obtain ⟨above, statement, hlast, hwalk⟩ := ih (line ++ '\n' :: after)
      rw [if_pos hcontinued, hlength]
      exact ⟨above, _, (hlast.append hline).feed (hsame.symm ▸ hcontinued), by simpa using hwalk⟩
    · rw [if_neg hcontinued]
      exact ⟨_, _, isLast_feed (hsame.symm ▸ hcontinued), by rw [byteLength_append _ ['\n']]; rfl⟩

/-- The walk takes place between characters, comes to its end, and finds the start of the
statement. -/
theorem statementStart_eq (h : IsBoundary text offset) :
    statementStart text offset = .ok (start text offset) := by
  obtain ⟨before, after, rfl, rfl⟩ := isBoundary_iff.mp h
  rw [statementStart]
  by_cases hfeed : '\n' ∈ before
  · obtain ⟨front, line, rfl, hline⟩ := exists_last_feed hfeed
    obtain ⟨above, statement, hlast, hwalk⟩ := exists_walk front (line ++ after)
    have hstart := (hlast.append hline).start_eq after
    rw [lineStart_append_cons hline, Except.bind]
    simp only [List.append_assoc, List.cons_append, List.nil_append] at hstart hwalk ⊢
    rw [hwalk, hstart]
  · rw [lineStart_of_not_mem hfeed, Except.bind, walk_zero,
      (IsLast.of_continues (continues_of_not_mem hfeed)).start_eq after]
    rfl

end ByOffset

namespace Statement

/-- The lines from `first` to `last` are held together: all of them but the last are continued. -/
def AreJoined (text : List Char) (first last : Nat) : Prop :=
  ∀ number above line below, first ≤ number → number < last →
    IsLine text number above line below → IsContinued line

/-- The line `first` is the first one of those that are held together with the line `number`. -/
structure IsBlock (text : List Char) (first number : Nat) : Prop where
  le : first ≤ number
  joined : AreJoined text first number
  opens : ∀ k above line below, k + 1 = first → IsLine text k above line below → ¬ IsContinued line

theorem exists_isBlock (h : IsLine text number above line below) :
    ∃ first front last rest statement, IsLine text first front last rest ∧
      IsLast above front statement ∧ IsBlock text first number := by
  induction number generalizing above line below with
  | zero =>
    obtain rfl : above = [] := by
      rcases h.above_cases with habove | ⟨front, rfl⟩
      · exact habove
      · simpa using h.number_eq
    exact ⟨0, [], line, below, [], h, .of_continues continues_nil, Nat.le_refl 0,
      fun k _ _ _ _ hk => absurd hk k.not_lt_zero, fun k _ _ _ hk => absurd hk k.succ_ne_zero⟩
  | succ number ih =>
    obtain ⟨front, previous, rfl, hprevious⟩ := h.exists_previous
    have hsame := hprevious.lastLine_append hprevious.inside
    by_cases hcontinued : IsContinued previous
    · obtain ⟨first, top, last, rest, statement, htop, hlast, hblock⟩ := ih hprevious
      have hnext := (hlast.append hprevious.inside).feed (hsame.symm ▸ hcontinued)
      refine ⟨first, top, last, rest, _, htop, hnext, Nat.le_succ_of_le hblock.le, ?_, hblock.opens⟩
      intro k above' line' below' hle hlt hline
      rcases Nat.lt_succ_iff_lt_or_eq.mp hlt with hlt | rfl
      · exact hblock.joined k _ _ _ hle hlt hline
      · obtain ⟨-, rfl, -⟩ := hprevious.unique hline
        exact hcontinued
    · refine ⟨number + 1, _, line, below, [], h, isLast_feed (hsame.symm ▸ hcontinued),
        Nat.le_refl _, fun k _ _ _ hle hlt => absurd hle (Nat.not_le.mpr hlt), ?_⟩
      rintro k above' line' below' hk hline
      obtain rfl := Nat.succ.inj hk
      obtain ⟨-, rfl, -⟩ := hprevious.unique hline
      exact hcontinued

/-- A statement starts where it starts at the beginning of the line. -/
theorem start_eq_of_isAt (h : IsAt text number above line below offset)
    (hlast : IsLast above front statement) : start text offset = byteLength front := by
  have htake := h.isLine.takeBytes_eq h.start_le (.inl h.le_stop)
  have hfeed : '\n' ∉ takeBytes (offset - byteLength above) line :=
    fun hmem => h.isLine.inside ((takeWidth_isPrefix _ _ line).subset hmem)
  have hstart := (hlast.append hfeed).start_eq (dropBytes offset text)
  rwa [← htake, takeBytes_append_dropBytes, h.boundary] at hstart

theorem IsBlock.first_le {other : Nat} (h : IsBlock text number other) {first : Nat}
    (hother : IsBlock text first other) (hle : other ≤ text.count '\n') : first ≤ number := by
  by_contra hlt
  obtain ⟨k, rfl⟩ : ∃ k, first = k + 1 := ⟨first - 1, by omega⟩
  have hlast := hother.le
  have hk : k ≤ text.count '\n' := by omega
  obtain ⟨above, line, below, hline⟩ := exists_isLine hk
  exact hother.opens k _ _ _ rfl hline (h.joined k _ _ _ (by omega) hlast hline)

/-- A line has one block. -/
theorem IsBlock.unique {first first' : Nat} (h : IsBlock text first number)
    (h' : IsBlock text first' number) (hle : number ≤ text.count '\n') : first = first' :=
  Nat.le_antisymm (h'.first_le h hle) (h.first_le h' hle)

variable {number' offset' : Nat} {above' line' below' : List Char}

/-- A line above has the same block just when the lines from there on are held together. -/
theorem start_eq_iff_of_le (h : IsAt text number above line below offset)
    (h' : IsAt text number' above' line' below' offset') (hle : number ≤ number') :
    start text offset' = start text offset ↔ AreJoined text number number' := by
  obtain ⟨first, front, last, rest, statement, hfirst, hlast, hblock⟩ := exists_isBlock h.isLine
  obtain ⟨first', front', last', rest', statement', hfirst', hlast', hblock'⟩ :=
    exists_isBlock h'.isLine
  rw [start_eq_of_isAt h hlast, start_eq_of_isAt h' hlast']
  constructor
  · intro heq
    obtain rfl := hfirst'.number_inj hfirst heq
    exact fun k _ _ _ hk => hblock'.joined k _ _ _ (Nat.le_trans hblock.le hk)
  · intro hjoined
    have hwhole : IsBlock text first number' := by
      refine ⟨Nat.le_trans hblock.le hle, fun k _ _ _ hk hlt hline => ?_, hblock.opens⟩
      rcases Nat.lt_or_ge k number with hbefore | hbehind
      · exact hblock.joined k _ _ _ hk hbefore hline
      · exact hjoined k _ _ _ hbehind hlt hline
    obtain rfl := hblock'.unique hwhole h'.isLine.number_le
    obtain ⟨rfl, -⟩ := hfirst'.unique hfirst
    rfl

/-- From an offset between two characters the walk up the lines comes to its end, at the start of
the first line of the block: all lines from there to the one of the offset are continued, and the
one above is not. It ends there from another line just when that line is in the block, and from
there itself; nothing but what stands above the line of the offset counts. -/
theorem start_first_of_block (h : IsBoundary text offset) :
    ∃ number above line below, IsAt text number above line below offset ∧
      ByOffset.statementStart text offset = .ok (start text offset) ∧
      (∃ first front last rest, IsLine text first front last rest ∧
        start text offset = byteLength front ∧ IsBlock text first number) ∧
      (∀ number' above' line' below' offset', IsAt text number' above' line' below' offset' →
        (start text offset' = start text offset ↔
          AreJoined text (min number number') (max number number'))) ∧
      start text (start text offset) = start text offset ∧
      ∀ text' number' line' below' offset', IsAt text' number' above line' below' offset' →
        start text' offset' = start text offset := by
  obtain ⟨number, above, line, below, hat⟩ := exists_isAt h
  obtain ⟨first, front, last, rest, statement, hfirst, hlast, hblock⟩ := exists_isBlock hat.isLine
  have hstart := start_eq_of_isAt hat hlast
  refine ⟨number, above, line, below, hat, ByOffset.statementStart_eq h,
    ⟨first, front, last, rest, hfirst, hstart, hblock⟩, ?_, ?_, ?_⟩
  · intro number' above' line' below' offset' hat'
    rcases Nat.le_total number number' with hle | hle
    · rw [Nat.min_eq_left hle, Nat.max_eq_right hle]
      exact start_eq_iff_of_le hat hat' hle
    · rw [Nat.min_eq_right hle, Nat.max_eq_left hle, eq_comm]
      exact start_eq_iff_of_le hat' hat hle
  · have hfront : IsAt text first front last rest (byteLength front) :=
      ⟨hfirst, Nat.le_refl _, Nat.le_add_right _ _,
        isBoundary_iff.mpr ⟨front, last ++ rest, hfirst.text_eq, rfl⟩⟩
    -- Above the first line nothing is left of the statement.
    have hnothing : IsLast front front [] := ⟨by simp, hlast.opens, continues_nil⟩
    rw [hstart, start_eq_of_isAt hfront hnothing]
  · intro text' number' line' below' offset' hat'
    rw [start_eq_of_isAt hat' hlast, hstart]

/-- A continued line, an empty line, and a block whose first line is an underscore alone. -/
def underscored : List Char :=
  ['_', ' ', '\n', '\n', '_', '\n', 'é', '(', '\t', '_', '\r', '\n', '1']

theorem start_first_of_block_underscored :
    IsBoundary underscored 14 ∧ ByOffset.statementStart underscored 14 = .ok 4 ∧
      start underscored 4 = 4 := by
  have h : IsBoundary underscored 14 := by decide
  have hstart : start underscored 14 = 4 := by decide
  obtain ⟨_, _, _, _, -, hwalk, -, -, hsame, -⟩ := start_first_of_block h
  rw [hstart] at hwalk hsame
  exact ⟨h, hwalk, hsame⟩

end Statement

end AutoItDocs
