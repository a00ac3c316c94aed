import AutoItDocs.Proofs.Script.LineIndex
/-!
Going from offsets to positions and back, in both orders. Main statements: an offset comes back as
the boundary that it stands for, and a position as the nearest one on its line at which a character
starts or the line ends.
-/
namespace AutoItDocs

open Text

variable {index : LineIndex} {text above line below : List Char} {number offset : Nat}

/-- A cut of the text on one of its lines is a cut of that line. -/
theorem IsLine.takeBytes_eq (h : IsLine text number above line below)
    (hstart : byteLength above ≤ offset)
    (hstop : offset ≤ byteLength above + byteLength line ∨ below = []) :
    takeBytes offset text = above ++ takeBytes (offset - byteLength above) line := by
  rw [h.text_eq, takeBytes]
  rw [takeWidth_append_of_places_le Char.utf8Size_pos hstart, List.append_right_inj]
  rcases hstop with hstop | rfl
  · apply takeWidth_append_of_le_places
    change offset - byteLength above ≤ byteLength line
    omega
  · rw [List.append_nil]
    rfl

namespace LineIndex

theorem offsetAt?_positionAt_eq (index : LineIndex) (offset : Nat) :
    index.offsetAt? (index.positionAt offset) =
      some (byteLength (takeBytes offset index.text)) := by
  obtain ⟨number, above, line, below, h, hstart, hstop⟩ := exists_isLine_of_offset index.text offset
  have htake : takeUnits (unitLength (takeBytes (offset - byteLength above) line)) line =
      takeBytes (offset - byteLength above) line :=
    takeWidth_places_takeWidth units_pos _ _ line
  rw [positionAt_eq h hstart hstop, offsetAt?_eq h, htake, h.takeBytes_eq hstart hstop,
    byteLength_append]

theorem offsetAt?_positionAt_of_isBoundary (h : IsBoundary index.text offset) :
    index.offsetAt? (index.positionAt offset) = some offset := by
  rw [offsetAt?_positionAt_eq, h]

theorem positionAt_of_isLine (h : IsLine index.text number above line below) (character : Nat) :
    index.positionAt (byteLength above + byteLength (takeUnits character line)) =
      ⟨number, unitLength (takeUnits character line)⟩ := by
  have hle : byteLength (takeUnits character line) ≤ byteLength line :=
    places_le_of_isPrefix (takeWidth_isPrefix units character line)
  have htake : takeBytes (byteLength (takeUnits character line)) line =
      takeUnits character line :=
    takeWidth_places_takeWidth Char.utf8Size_pos _ _ line
  rw [positionAt_eq h (Nat.le_add_right _ _) (.inl (Nat.add_le_add_left hle _)),
    Nat.add_sub_cancel_left, htake]

theorem exists_isLine_of_offsetAt? {position : Position}
    (h : index.offsetAt? position = some offset) :
    ∃ above line below, IsLine index.text position.line above line below ∧
      offset = byteLength above + byteLength (takeUnits position.character line) := by
  have hnumber : position.line ≤ index.text.count '\n' := by
    rw [← Nat.not_lt]
    intro hlt
    rw [offsetAt?_eq_none_iff.mpr hlt] at h
    cases h
  obtain ⟨above, line, below, hline⟩ := exists_isLine hnumber
  rw [offsetAt?_eq hline, Option.some.injEq] at h
  exact ⟨above, line, below, hline, h.symm⟩

theorem isBoundary_of_offsetAt? {position : Position}
    (h : index.offsetAt? position = some offset) : IsBoundary index.text offset := by
  obtain ⟨above, line, below, hline, rfl⟩ := exists_isLine_of_offsetAt? h
  refine isBoundary_iff.mpr ⟨above ++ takeUnits position.character line,
    dropWidth units position.character line ++ below, ?_, byteLength_append _ _⟩
  rw [hline.text_eq, List.append_assoc, ← List.append_assoc (takeUnits _ line), takeUnits,
    takeWidth_append_dropWidth]

/-- The position of an offset leads back to the smallest boundary that does not lie below the
offset, or to the end of the text, and to the offset itself where that is a boundary. -/
theorem offsetAt?_positionAt (index : LineIndex) (offset : Nat) :
    ∃ boundary, index.offsetAt? (index.positionAt offset) = some boundary ∧
      IsLeast {b | IsBoundary index.text b ∧ min offset (byteLength index.text) ≤ b} boundary ∧
      (IsBoundary index.text offset → boundary = offset) :=
  ⟨_, offsetAt?_positionAt_eq index offset, isLeast_takeBytes offset index.text, id⟩

/-- A position has an offset when the text has its line. The offset leads back to the same line, to
the first column from the given one on at which a character starts or the line ends, a column past
the end to the end of the line; that position stays as it is from then on. -/
theorem positionAt_offsetAt? (index : LineIndex) (position : Position) :
    (index.offsetAt? position = none ↔ index.text.count '\n' < position.line) ∧
      ∀ offset, index.offsetAt? position = some offset →
        ∃ above line below column, IsLine index.text position.line above line below ∧
          index.positionAt offset = ⟨position.line, column⟩ ∧
          (position.character ≤ unitLength line →
            IsLeast {c | IsCut units line c ∧ position.character ≤ c} column) ∧
          (unitLength line < position.character → column = unitLength line) ∧
          (index.offsetAt? ⟨position.line, column⟩).map index.positionAt =
            some ⟨position.line, column⟩ := by
  refine ⟨offsetAt?_eq_none_iff, fun offset hoffset => ?_⟩
  obtain ⟨above, line, below, h, rfl⟩ := exists_isLine_of_offsetAt? hoffset
  obtain ⟨number, character⟩ := position
  have hposition := positionAt_of_isLine h character
  have hleast := isLeast_takeWidth units_pos character line
  refine ⟨above, line, below, _, h, hposition, ?_, ?_, ?_⟩
  · intro (hle : character ≤ places units line)
    rwa [Nat.min_eq_left hle] at hleast
  · intro hlt
    rw [takeUnits, takeWidth_of_places_le units_pos (Nat.le_of_lt hlt)]
  · have htake : takeUnits (unitLength (takeUnits character line)) line =
        takeUnits character line :=
      takeWidth_places_takeWidth units_pos _ _ line
    rw [offsetAt?_eq h, htake, Option.map_some, hposition]

/-- A column within a surrogate pair. -/
theorem positionAt_offsetAt?_withinPair :
    (ofText ['a', '😀', '\n']).offsetAt? ⟨0, 2⟩ = some 5 ∧
      ∃ column, (ofText ['a', '😀', '\n']).positionAt 5 = ⟨0, column⟩ ∧
        IsLeast {c | IsCut units ['a', '😀'] c ∧ 2 ≤ c} column := by
  obtain ⟨-, hsome⟩ := positionAt_offsetAt? (ofText ['a', '😀', '\n']) ⟨0, 2⟩
  have hoffset : (ofText ['a', '😀', '\n']).offsetAt? ⟨0, 2⟩ = some 5 := by decide
  have hfirst : IsLine ['a', '😀', '\n'] 0 [] ['a', '😀'] ['\n'] :=
    ⟨rfl, rfl, by simp, by simp, by simp⟩
  obtain ⟨above, line, below, column, hline, hposition, hleast, -, -⟩ := hsome 5 hoffset
  obtain ⟨-, rfl, -⟩ := hfirst.unique hline
  exact ⟨hoffset, column, hposition, hleast (by decide)⟩

end LineIndex

end AutoItDocs
