import AutoItDocs.Proofs.Script.Position
import AutoItDocs.Proofs.Text.Lines
import Mathlib.Data.Prod.Lex
import Mathlib.Order.Monotone.Basic
/-!
Positions against the text that stands before them. An offset has the position right behind the
characters up to it, and a longer text has a later position behind it. Main statements: what the
position of an offset counts, and that offsets and positions have the same order.
-/
namespace AutoItDocs

open Text

variable {index : LineIndex} {text above line below more : List Char} {number offset a b : Nat}

namespace Position

variable {p q : Position}

def key (p : Position) : ℕ ×ₗ ℕ := toLex (p.line, p.character)

theorem key_injective : Function.Injective key := by
  intro p q h
  cases p
  cases q
  simpa [key] using h

/-- Positions are in the order of their lines, those on one line in the order of their columns. -/
instance : LinearOrder Position := LinearOrder.lift' key key_injective

theorem le_iff : p ≤ q ↔ p.line < q.line ∨ p.line = q.line ∧ p.character ≤ q.character :=
  Prod.Lex.toLex_le_toLex

theorem lt_iff : p < q ↔ p.line < q.line ∨ p.line = q.line ∧ p.character < q.character :=
  Prod.Lex.toLex_lt_toLex

theorem line_le (h : p ≤ q) : p.line ≤ q.line := by
  cases le_iff.mp h with
  | inl hlt => exact Nat.le_of_lt hlt
  | inr hsame => exact Nat.le_of_eq hsame.1

/-- The position right behind a text. -/
def behind (text : List Char) : Position := ⟨text.count '\n', unitLength (lastLine text)⟩

theorem behind_lt_of_isPrefix {longer : List Char} (h : text <+: longer) (hne : text ≠ longer) :
    behind text < behind longer := by
  obtain ⟨more, rfl⟩ := h
  rw [lt_iff]
  by_cases hfeed : '\n' ∈ more
  · have hcount := List.count_pos_iff.mpr hfeed
    left
    simp only [behind, List.count_append]
    omega
  · have hunits : 0 < unitLength more := places_pos units_pos (by simpa using hne)
    right
    simp only [behind, List.count_append, List.count_eq_zero_of_not_mem hfeed,
      lastLine_append hfeed, unitLength_append]
    omega

theorem behind_le_of_isPrefix {longer : List Char} (h : text <+: longer) :
    behind text ≤ behind longer := by
  by_cases heq : text = longer
  · rw [heq]
  · exact le_of_lt (behind_lt_of_isPrefix h heq)

end Position

namespace IsLine

theorem not_mem_takeBytes (h : IsLine text number above line below) (n : Nat) :
    '\n' ∉ takeBytes n line := by
  intro hmem
  exact h.inside ((takeWidth_isPrefix _ n line).subset hmem)

theorem count_append (h : IsLine text number above line below) (hmore : '\n' ∉ more) :
    (above ++ more).count '\n' = number := by
  rw [List.count_append, h.number_eq, List.count_eq_zero_of_not_mem hmore, Nat.add_zero]

theorem lastLine_append (h : IsLine text number above line below) (hmore : '\n' ∉ more) :
    lastLine (above ++ more) = more := by
  rw [Text.lastLine_append hmore]
  cases h.above_cases with
  | inl hnil => rw [hnil]; rfl
  | inr hfeed =>
    obtain ⟨front, rfl⟩ := hfeed
    rw [lastLine_append_cons front []]
    rfl

end IsLine

namespace LineIndex

/-- The position of an offset counts what stands before the boundary that the offset stands for: its
line the line feeds, its column the units of UTF-16 behind the last of them. The search for the line
stops right behind the start of that line, so never in front of all starts. -/
theorem positionAt_counts (index : LineIndex) (offset : Nat) :
    ∃ above before after, index.text = above ++ before ++ after ∧
      IsLeast {b | IsBoundary index.text b ∧ min offset (byteLength index.text) ≤ b}
        (byteLength (above ++ before)) ∧
      (∀ c ∈ above.getLast?, c = '\n') ∧ '\n' ∉ before ∧
      index.positionAt offset = ⟨(above ++ before).count '\n', unitLength before⟩ ∧
      bisect index.starts offset 0 index.starts.size = (above ++ before).count '\n' + 1 ∧
      index.starts[(above ++ before).count '\n']? = some (byteLength above) := by
  obtain ⟨number, above, line, below, h, hstart, hstop⟩ := exists_isLine_of_offset index.text offset
  have htake := h.takeBytes_eq hstart hstop
  have hbefore := h.not_mem_takeBytes (offset - byteLength above)
  have hcount := h.count_append hbefore
  refine ⟨above, takeBytes (offset - byteLength above) line, dropBytes offset index.text,
    ?_, ?_, h.opens, hbefore, ?_, ?_, ?_⟩
  · rw [← htake, takeBytes_append_dropBytes]
  · rw [← htake]
    exact isLeast_takeBytes offset index.text
  · rw [hcount]
    exact positionAt_eq h hstart hstop
  · rw [hcount]
    exact bisect_starts_eq h hstart hstop
  · rw [hcount, starts_getElem?]
    exact h.lineStarts_getElem?

theorem positionAt_eq_behind (index : LineIndex) (offset : Nat) :
    index.positionAt offset = .behind (takeBytes offset index.text) := by
  obtain ⟨number, above, line, below, h, hstart, hstop⟩ := exists_isLine_of_offset index.text offset
  have hbefore := h.not_mem_takeBytes (offset - byteLength above)
  rw [positionAt_eq h hstart hstop, h.takeBytes_eq hstart hstop, Position.behind,
    h.count_append hbefore, h.lastLine_append hbefore]

theorem positionAt_byteLength (left right : List Char) :
    (ofText (left ++ right)).positionAt (byteLength left) = .behind left := by
  rw [positionAt_eq_behind]
  exact congrArg Position.behind (takeBytes_byteLength_append left right)

/-- On the line on which a text ends, a position that is not before its end has its offset in the
rest of that line. -/
theorem offsetAt?_append_of_behind_le (left right : List Char) {p : Position}
    (hline : p.line = (Position.behind left).line)
    (hcolumn : (Position.behind left).character ≤ p.character) :
    (ofText (left ++ right)).offsetAt? p = some (byteLength left + byteLength
      (takeUnits (p.character - (Position.behind left).character)
        (right.takeWhile (· ≠ '\n')))) := by
  obtain ⟨above, before, below, hleft, hlast, h⟩ := exists_isLine_of_cut left right
  obtain ⟨number, column⟩ := p
  obtain rfl : number = left.count '\n' := hline
  have hstart : (Position.behind left).character = unitLength before := by rw [hlast]; rfl
  have hbytes : byteLength left = byteLength above + byteLength before :=
    (congrArg byteLength hleft).trans (byteLength_append above before)
  have hoffset : (ofText (left ++ right)).offsetAt? ⟨left.count '\n', column⟩ = _ :=
    offsetAt?_eq h column
  rw [hstart] at hcolumn ⊢
  rw [hoffset, takeUnits, takeWidth_append_of_places_le units_pos hcolumn, byteLength_append,
    hbytes, Nat.add_assoc]
  rfl

theorem monotone_positionAt (index : LineIndex) : Monotone index.positionAt := by
  intro a b hle
  rw [positionAt_eq_behind, positionAt_eq_behind]
  exact Position.behind_le_of_isPrefix (takeWidth_isPrefix_takeWidth _ hle index.text)

theorem strictMonoOn_positionAt (index : LineIndex) :
    StrictMonoOn index.positionAt {b | IsBoundary index.text b} := by
  intro a ha b hb hlt
  rw [positionAt_eq_behind, positionAt_eq_behind]
  apply Position.behind_lt_of_isPrefix
  · exact takeWidth_isPrefix_takeWidth _ (Nat.le_of_lt hlt) index.text
  · intro heq
    exact Nat.ne_of_lt hlt (ha.symm.trans ((congrArg byteLength heq).trans hb))

theorem line_positionAt {p : Position} (h : index.offsetAt? p = some offset) :
    (index.positionAt offset).line = p.line := by
  obtain ⟨above, line, below, hline, rfl⟩ := exists_isLine_of_offsetAt? h
  rw [positionAt_of_isLine hline]

theorem exists_offsetAt? {p : Position} (h : p.line ≤ index.text.count '\n') :
    ∃ offset, index.offsetAt? p = some offset := by
  obtain ⟨above, line, below, hline⟩ := exists_isLine h
  exact ⟨_, offsetAt?_eq hline p.character⟩

theorem offsetAt?_le_offsetAt? {p q : Position} (h : p ≤ q) (hp : index.offsetAt? p = some a)
    (hq : index.offsetAt? q = some b) : a ≤ b := by
  cases Position.le_iff.mp h with
  | inl hlt =>
    -- Otherwise the line of `q` would not come after that of `p`.
    by_contra hab
    have hline := Position.line_le (index.monotone_positionAt (Nat.le_of_not_le hab))
    rw [line_positionAt hp, line_positionAt hq] at hline
    omega
  | inr hsame =>
    obtain ⟨hline, hcolumn⟩ := hsame
    obtain ⟨above, line, below, hcut, rfl⟩ := exists_isLine_of_offsetAt? hp
    obtain ⟨above', line', below', hcut', rfl⟩ := exists_isLine_of_offsetAt? hq
    rw [← hline] at hcut'
    obtain ⟨rfl, rfl, -⟩ := hcut.unique hcut'
    have hunits := takeWidth_isPrefix_takeWidth units hcolumn line
    exact Nat.add_le_add_left (places_le_of_isPrefix hunits) _

/-- A later offset has no earlier position, a later boundary has a later one; a later position on a
line of the text has no smaller offset. So a range starts where it ends or before, and two boundaries
have different positions. -/
theorem positionAt_keeps_order (index : LineIndex) :
    Monotone index.positionAt ∧
      StrictMonoOn index.positionAt {b | IsBoundary index.text b} ∧
      (∀ p q, p ≤ q → q.line ≤ index.text.count '\n' →
        ∃ a b, index.offsetAt? p = some a ∧ index.offsetAt? q = some b ∧ a ≤ b) ∧
      (∀ start stop, start ≤ stop →
        (index.rangeOf start stop).start ≤ (index.rangeOf start stop).stop) ∧
      Set.InjOn index.positionAt {b | IsBoundary index.text b} := by
  refine ⟨index.monotone_positionAt, index.strictMonoOn_positionAt, ?_, ?_,
    index.strictMonoOn_positionAt.injOn⟩
  · intro p q hle hline
    obtain ⟨a, ha⟩ := exists_offsetAt? (Nat.le_trans (Position.line_le hle) hline)
    obtain ⟨b, hb⟩ := exists_offsetAt? hline
    exact ⟨a, b, ha, hb, offsetAt?_le_offsetAt? hle ha hb⟩
  · intro start stop hle
    exact index.monotone_positionAt hle

/-- The end of a line and the start of the next one, and two offsets within one character. -/
theorem positionAt_keeps_order_neighbours :
    (ofText ['a', '😀', '\n', 'b']).positionAt 5 < (ofText ['a', '😀', '\n', 'b']).positionAt 6 ∧
      (ofText ['a', '😀', '\n', 'b']).positionAt 2 ≤ (ofText ['a', '😀', '\n', 'b']).positionAt 4 ∧
      ∃ a b, (ofText ['a', '😀', '\n', 'b']).offsetAt? ⟨0, 9⟩ = some a ∧
        (ofText ['a', '😀', '\n', 'b']).offsetAt? ⟨1, 0⟩ = some b ∧ a ≤ b := by
  obtain ⟨hmono, hstrict, hoffsets, -, -⟩ :=
    positionAt_keeps_order (ofText ['a', '😀', '\n', 'b'])
  have hend : IsBoundary ['a', '😀', '\n', 'b'] 5 := by decide
  have hstart : IsBoundary ['a', '😀', '\n', 'b'] 6 := by decide
  exact ⟨hstrict hend hstart (by decide), hmono (by decide),
    hoffsets ⟨0, 9⟩ ⟨1, 0⟩ (Position.le_iff.mpr (.inl (by decide))) (by decide)⟩

end LineIndex

end AutoItDocs
