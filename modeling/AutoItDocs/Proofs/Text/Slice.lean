import AutoItDocs.Script.Word
import AutoItDocs.Proofs.Text.Width
/-!
Parts of a text between two of its offsets. Unlike a cut, a slice does not move an offset that is
inside a character: there is a slice just when both offsets divide the text, in their order.
-/
namespace AutoItDocs.Text

/-- The part of a text between two offsets, which both have to lie between characters or at an end
of the text. -/
def slice (text : List Char) (start stop : Nat) : Except OffsetError (List Char) :=
  if start ≤ stop ∧ IsBoundary text start ∧ IsBoundary text stop then
    .ok (takeBytes (stop - start) (dropBytes start text))
  else .error .insideCharacter

theorem slice_append (left part right : List Char) :
    slice (left ++ (part ++ right)) (byteLength left) (byteLength left + byteLength part) =
      .ok part := by
  have hstart : IsBoundary (left ++ (part ++ right)) (byteLength left) :=
    isBoundary_iff.mpr ⟨left, part ++ right, rfl, rfl⟩
  have hstop : IsBoundary (left ++ (part ++ right)) (byteLength left + byteLength part) :=
    isBoundary_iff.mpr ⟨left ++ part, right, by simp, byteLength_append left part⟩
  have hdrop : dropBytes (byteLength left) (left ++ (part ++ right)) = part ++ right :=
    dropWidth_places_append Char.utf8Size_pos left (part ++ right)
  rw [slice, if_pos ⟨Nat.le_add_right _ _, hstart, hstop⟩, hdrop, Nat.add_sub_cancel_left,
    takeBytes_byteLength_append]

/-- A slice is what stands between its offsets. -/
theorem exists_append_of_slice {text part : List Char} {start stop : Nat}
    (h : slice text start stop = .ok part) : ∃ left right, text = left ++ (part ++ right) ∧
      byteLength left = start ∧ byteLength left + byteLength part = stop := by
  by_cases hoffsets : start ≤ stop ∧ IsBoundary text start ∧ IsBoundary text stop
  · obtain ⟨hle, hstart, hstop⟩ := hoffsets
    obtain ⟨left, rest, rfl, rfl⟩ := isBoundary_iff.mp hstart
    obtain ⟨front, right, htext, rfl⟩ := isBoundary_iff.mp hstop
    obtain ⟨between, rfl, rfl⟩ := exists_append_of_places_le Char.utf8Size_pos htext hle
    rw [byteLength_append, slice_append, Except.ok.injEq] at h
    subst h
    exact ⟨left, right, rfl, rfl, (byteLength_append _ _).symm⟩
  · rw [slice, if_neg hoffsets] at h
    cases h

theorem slice_left (left right : List Char) :
    slice (left ++ right) 0 (byteLength left) = .ok left := by
  simpa using slice_append [] left right

theorem slice_zero {text : List Char} {stop : Nat} (h : IsBoundary text stop) :
    slice text 0 stop = .ok (takeBytes stop text) := by
  obtain ⟨left, right, rfl, rfl⟩ := isBoundary_iff.mp h
  rw [slice_left, takeBytes_byteLength_append]

theorem slice_right (left right : List Char) :
    slice (left ++ right) (byteLength left) (byteLength (left ++ right)) = .ok right := by
  have h := slice_append left right []
  rwa [List.append_nil, ← byteLength_append] at h

end AutoItDocs.Text
