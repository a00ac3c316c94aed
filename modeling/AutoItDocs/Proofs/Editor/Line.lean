import AutoItDocs.Editor.Complete
import AutoItDocs.Proofs.Editor.Hover
/-!
Hovering and completing by the line alone. What an editor shows for a word, and whether it offers
entries, depends on the characters of the line on either side of the cursor; the number of the line
is only handed on into the range that is shown.
-/
namespace AutoItDocs.Editor

open Text

/-- The word at the end of `before` on the line `before ++ after`, with offsets from its start. -/
def wordOn (before after : List Char) : Option Word :=
  (Word.scan 0 (before ++ after)).find? (·.touches (byteLength before))

def rangeOn (number : Nat) (line : List Char) (w : Word) : Range :=
  ⟨⟨number, unitLength (takeBytes w.start line)⟩, ⟨number, unitLength (takeBytes w.stop line)⟩⟩

def hoverOn (catalog : Catalog) (number : Nat) (before after : List Char) : Option Hover :=
  (wordOn before after).bind fun w =>
    if w.kind = .function then
      (catalog.hover? (String.ofList w.name)).map (⟨·, rangeOn number (before ++ after) w⟩)
    else none

/-- Entries are offered unless a sigil stands before the cursor or in front of the word there. -/
def completionOn (catalog : Catalog) (before after : List Char) : Option (List CompletionEntry) :=
  if (before.getLast?.bind WordKind.ofSigil?).isSome ∨
      (wordOn before after).any (·.kind ≠ .function) then none
  else entriesOf? catalog

variable {index : LineIndex} {text above before after line below : List Char} {number : Nat}
  {w : Word} {position : Position}

theorem at?_eq_wordOn (h : IsLine text number above (before ++ after) below) :
    Word.at? text (byteLength above + byteLength before) =
      .ok ((wordOn before after).map (·.shift (byteLength above))) := by
  have htouches : (fun w : Word => w.touches (byteLength above + byteLength before)) ∘
      Word.shift (byteLength above) = fun w => w.touches (byteLength before) := by
    funext w
    simp [Word.touches, Word.shift]
  have hscan := Word.scan_shift (byteLength above) 0 (before ++ after)
  rw [Nat.add_zero] at hscan
  rw [Word.at?_eq h, hscan, List.find?_map, htouches, wordOn]

theorem isToken_of_wordOn (h : wordOn before after = some w) :
    IsToken (before ++ after) w ∧ w.stop ≤ byteLength (before ++ after) :=
  Word.isToken_of_mem_scan (List.mem_of_find?_eq_some h)

theorem rangeOf_shift (h : IsLine index.text number above line below) (hstart : w.start < w.stop)
    (hstop : w.stop ≤ byteLength line) :
    index.rangeOf (w.shift (byteLength above)).start (w.shift (byteLength above)).stop =
      rangeOn number line w := by
  have hposition : ∀ n ≤ byteLength line,
      index.positionAt (byteLength above + n) = ⟨number, unitLength (takeBytes n line)⟩ := by
    intro n hn
    rw [LineIndex.positionAt_eq h (Nat.le_add_right _ _) (.inl (Nat.add_le_add_left hn _)),
      Nat.add_sub_cancel_left]
  rw [LineIndex.rangeOf, rangeOn, Word.shift]
  simp only [hposition _ hstop, hposition _ (Nat.le_trans (Nat.le_of_lt hstart) hstop)]

theorem hoverAt_eq_hoverOn (h : IsLine index.text number above (before ++ after) below)
    (hoffset : index.offsetAt? position = some (byteLength above + byteLength before))
    (catalog : Catalog) :
    hoverAt index catalog position = .ok (hoverOn catalog number before after) := by
  simp only [hoverAt, hoffset, at?_eq_wordOn h, Except.map, hoverOn]
  cases hw : wordOn before after with
  | none => rfl
  | some w =>
    obtain ⟨htoken, hstop⟩ := isToken_of_wordOn hw
    have hrange := rangeOf_shift h htoken.start_lt_stop hstop
    simp only [Option.map_some, Option.bind_some, Hover.ofWord?, hrange]
    rfl

theorem followsSigil_eq (h : IsLine text number above (before ++ after) below) :
    followsSigil text (byteLength above + byteLength before) =
      (before.getLast?.bind WordKind.ofSigil?).isSome := by
  have htake : takeBytes (byteLength above + byteLength before) text = above ++ before := by
    rw [h.text_eq, ← byteLength_append, List.append_assoc, ← List.append_assoc above,
      takeBytes_byteLength_append]
  rw [followsSigil, htake]
  cases hlast : before.getLast? with
  | none =>
    obtain rfl : before = [] := List.getLast?_eq_none_iff.mp hlast
    rcases h.above_cases with rfl | ⟨front, rfl⟩ <;> simp [WordKind.ofSigil?]
  | some c => simp [hlast]

theorem completionAt_eq_completionOn (h : IsLine index.text number above (before ++ after) below)
    (hoffset : index.offsetAt? position = some (byteLength above + byteLength before))
    (catalog : Catalog) :
    completionAt index catalog position = .ok (completionOn catalog before after) := by
  simp only [completionAt, hoffset, at?_eq_wordOn h, Except.map, followsSigil_eq h, completionOn]
  by_cases hsigil : (before.getLast?.bind WordKind.ofSigil?).isSome
  · simp [hsigil]
  · cases wordOn before after with
    | none => simp [hsigil]
    | some w => by_cases hkind : w.kind = .function <;> simp [hsigil, hkind, Word.shift]

theorem exists_completionAt (index : LineIndex) (catalog : Catalog) (position : Position) :
    ∃ answer, completionAt index catalog position = .ok answer := by
  cases hoffset : index.offsetAt? position with
  | none => exact ⟨none, by simp only [completionAt, hoffset]⟩
  | some offset =>
    obtain ⟨above, line, below, hline, rfl⟩ := LineIndex.exists_isLine_of_offsetAt? hoffset
    rw [← takeWidth_append_dropWidth units position.character line] at hline
    exact ⟨_, completionAt_eq_completionOn hline hoffset catalog⟩

end AutoItDocs.Editor
