import AutoItDocs.Editor.Hover
import AutoItDocs.Proofs.Script.Position
import AutoItDocs.Proofs.Script.Word
/-!
Hovering from a position to the documentation and back to a range. Main statement: an editor shows
the documentation of the one function name at the position, with the range of that name.
-/
namespace AutoItDocs

open Text

/-- A function name of the text touches the offset. -/
structure IsFunctionAt (text : List Char) (offset : Nat) (w : Word) : Prop where
  isToken : IsToken text w
  isFunction : w.kind = .function
  start_le : w.start ≤ offset
  le_stop : offset ≤ w.stop

variable {text : List Char} {a b w : Word} {offset : Nat}

namespace IsFunctionAt

/-- A function name has no token right before it, so no other token that touches the offset is on
its left. -/
theorem isWordAt (h : IsFunctionAt text offset w) : IsWordAt text offset w := by
  refine ⟨h.isToken, h.start_le, h.le_stop, fun other hother hstart hstop => ?_⟩
  have hw := h.le_stop
  have hw' := h.start_le
  have hlt := hother.start_lt_stop
  rcases h.isToken.eq_or_apart hother with rfl | ⟨hright, -⟩ | ⟨-, hleft⟩
  · exact Nat.le_refl _
  · omega
  · have := hleft h.isFunction
    omega

theorem unique (h : IsFunctionAt text offset a) (h' : IsFunctionAt text offset b) : a = b :=
  h.isWordAt.unique h'.isWordAt

/-- Behind the sigil of a variable or a macro, up to its end, there is no function name. -/
theorem start_not_lt (h : IsFunctionAt text offset a) (hb : IsToken text b)
    (hkind : b.kind ≠ .function) (hstop : offset ≤ b.stop) : ¬ b.start < offset := by
  intro hlt
  have ha := h.start_le
  have ha' := h.le_stop
  rcases h.isToken.eq_or_apart hb with rfl | ⟨hright, -⟩ | ⟨-, hleft⟩
  · exact hkind h.isFunction
  · omega
  · have := hleft h.isFunction
    omega

/-- The name is the piece of the text from its start to its stop. -/
theorem slice_eq (h : IsFunctionAt text offset w) :
    dropBytes w.start (takeBytes w.stop text) = w.name := by
  rw [h.isToken.slice_eq, Word.spelling, h.isFunction]
  rfl

end IsFunctionAt

namespace Editor

variable {index : LineIndex} {catalog : Catalog} {position : Position}

theorem ofWord?_eq_some_iff {hover : Hover} :
    Hover.ofWord? index catalog w = some hover ↔ w.kind = .function ∧
      catalog.hover? (String.ofList w.name) = some hover.markdown ∧
      hover.range = index.rangeOf w.start w.stop := by
  obtain ⟨markdown, range⟩ := hover
  simp only [Hover.ofWord?, Option.ite_none_right_eq_some, Option.map_eq_some_iff, Hover.mk.injEq]
  constructor
  · rintro ⟨hkind, _, hmarkdown, rfl, rfl⟩
    exact ⟨hkind, hmarkdown, rfl⟩
  · rintro ⟨hkind, hmarkdown, rfl⟩
    exact ⟨hkind, markdown, hmarkdown, rfl, rfl⟩

theorem hoverAt_of_offsetAt? (h : index.offsetAt? position = some offset) :
    ∃ word, hoverAt index catalog position = .ok (word.bind (Hover.ofWord? index catalog)) ∧
      ∀ w, word = some w ↔ IsWordAt index.text offset w := by
  obtain ⟨word, hat, hword⟩ := Word.exists_isWordAt_iff (LineIndex.isBoundary_of_offsetAt? h)
  refine ⟨word, ?_, hword⟩
  simp only [hoverAt, h, hat]
  rfl

theorem hoverAt_of_isFunctionAt (h : index.offsetAt? position = some offset)
    (hw : IsFunctionAt index.text offset w) :
    hoverAt index catalog position = .ok (Hover.ofWord? index catalog w) := by
  obtain ⟨word, hhover, hword⟩ := hoverAt_of_offsetAt? h
  rw [hhover, (hword w).mpr hw.isWordAt, Option.bind_some]

theorem hoverAt_eq_none_of_forall_not (h : index.offsetAt? position = some offset)
    (hnot : ∀ w, ¬ IsFunctionAt index.text offset w) :
    hoverAt index catalog position = .ok none := by
  obtain ⟨word, hhover, hword⟩ := hoverAt_of_offsetAt? h
  rw [hhover, Except.ok.injEq, Option.bind_eq_none_iff]
  intro w hw
  have hat := (hword w).mp hw
  rw [Hover.ofWord?, if_neg]
  exact fun hkind => hnot w ⟨hat.isToken, hkind, hat.start_le, hat.le_stop⟩

/-- The position is on a line of the text, at the function name `w`. -/
structure IsOnFunction (index : LineIndex) (position : Position) (w : Word) : Prop where
  line_le : position.line ≤ index.text.count '\n'
  touches : ∃ offset, index.offsetAt? position = some offset ∧ IsFunctionAt index.text offset w

theorem isOnFunction_iff (h : index.offsetAt? position = some offset) :
    IsOnFunction index position w ↔ IsFunctionAt index.text offset w := by
  constructor
  · rintro ⟨-, offset', hoffset, hw⟩
    rw [h, Option.some.injEq] at hoffset
    rwa [hoffset]
  · intro hw
    obtain ⟨above, line, below, hline, -⟩ := LineIndex.exists_isLine_of_offsetAt? h
    exact ⟨hline.number_le, offset, h, hw⟩

theorem hoverAt_of_isOnFunction (h : IsOnFunction index position w) :
    hoverAt index catalog position = .ok (Hover.ofWord? index catalog w) := by
  obtain ⟨-, offset, hoffset, hw⟩ := h
  exact hoverAt_of_isFunctionAt hoffset hw

/-- The hover has the documentation of what the text says from the start of `w` to its stop, and the
range from the one to the other. -/
structure Shows (index : LineIndex) (catalog : Catalog) (w : Word) (hover : Hover) : Prop where
  markdown : catalog.hover? (String.ofList (dropBytes w.start (takeBytes w.stop index.text))) =
    some hover.markdown
  range : hover.range = index.rangeOf w.start w.stop

theorem shows_iff {hover : Hover} (h : IsFunctionAt index.text offset w) :
    Shows index catalog w hover ↔ Hover.ofWord? index catalog w = some hover := by
  rw [ofWord?_eq_some_iff, ← h.slice_eq]
  constructor
  · rintro ⟨hmarkdown, hrange⟩
    exact ⟨h.isFunction, hmarkdown, hrange⟩
  · rintro ⟨-, hmarkdown, hrange⟩
    exact ⟨hmarkdown, hrange⟩

/-- The ends of the range of a token lead back to where it starts and stops. -/
theorem offsetAt?_rangeOf (h : IsToken index.text w) :
    index.offsetAt? (index.rangeOf w.start w.stop).start = some w.start ∧
      index.offsetAt? (index.rangeOf w.start w.stop).stop = some w.stop :=
  ⟨LineIndex.offsetAt?_positionAt_of_isBoundary h.isBoundary_start,
    LineIndex.offsetAt?_positionAt_of_isBoundary h.isBoundary_stop⟩

theorem exists_hoverAt_iff (index : LineIndex) (catalog : Catalog) (position : Position) :
    ∃ answer, hoverAt index catalog position = .ok answer ∧ ∀ hover,
      answer = some hover ↔ ∃ w, IsOnFunction index position w ∧ Shows index catalog w hover := by
  cases hoffset : index.offsetAt? position with
  | none =>
    refine ⟨none, by simp only [hoverAt, hoffset], fun hover => iff_of_false nofun ?_⟩
    rintro ⟨w, ⟨-, offset, hsome, -⟩, -⟩
    rw [hoffset] at hsome
    cases hsome
  | some offset =>
    simp only [isOnFunction_iff hoffset]
    by_cases hfunction : ∃ w, IsFunctionAt index.text offset w
    · obtain ⟨w, hw⟩ := hfunction
      refine ⟨_, hoverAt_of_isFunctionAt hoffset hw, fun hover => ?_⟩
      rw [← shows_iff hw]
      constructor
      · exact fun hshows => ⟨w, hw, hshows⟩
      · rintro ⟨w', hw', hshows⟩
        rwa [hw.unique hw']
    · rw [not_exists] at hfunction
      refine ⟨none, hoverAt_eq_none_of_forall_not hoffset hfunction, fun hover => ?_⟩
      exact iff_of_false nofun fun ⟨w, hw, _⟩ => hfunction w hw

/-- A position shows the documentation of the function name that it is at, with the range of that
name, whose ends lead back to where the name starts and stops; there is at most one such name, all
positions at it show the same, and positions in the name of a variable or a macro show nothing. -/
theorem hoverAt_shows_function (index : LineIndex) (catalog : Catalog) :
    (∀ position, ∃ answer, hoverAt index catalog position = .ok answer ∧ ∀ hover,
      answer = some hover ↔ ∃ w, IsOnFunction index position w ∧ Shows index catalog w hover) ∧
      (∀ position w, IsOnFunction index position w →
        index.offsetAt? (index.rangeOf w.start w.stop).start = some w.start ∧
          index.offsetAt? (index.rangeOf w.start w.stop).stop = some w.stop) ∧
      (∀ offset a b, IsFunctionAt index.text offset a → IsFunctionAt index.text offset b → a = b) ∧
      (∀ w position position', IsOnFunction index position w → IsOnFunction index position' w →
        hoverAt index catalog position = hoverAt index catalog position') ∧
      ∀ w position offset, IsToken index.text w → w.kind ≠ .function →
        index.offsetAt? position = some offset → w.start < offset → offset ≤ w.stop →
          hoverAt index catalog position = .ok none := by
  refine ⟨exists_hoverAt_iff index catalog, ?_, fun offset a b ha hb => ha.unique hb, ?_, ?_⟩
  · rintro position w ⟨-, offset, -, hw⟩
    exact offsetAt?_rangeOf hw.isToken
  · intro w position position' h h'
    rw [hoverAt_of_isOnFunction h, hoverAt_of_isOnFunction h']
  · intro w position offset htoken hkind hoffset hstart hstop
    exact hoverAt_eq_none_of_forall_not hoffset fun a ha =>
      ha.start_not_lt htoken hkind hstop hstart

def documented : Catalog :=
  .buildOrEmpty .lastWins
    [.ofSignatures "Math" none [{ name := "_Max", label := "_Max ( $a, $b )" }]]

def typed : LineIndex := .ofText ['_', 'm', 'a', 'x', '(', '$', 'a']

theorem hoverAt_typed :
    ∃ hover, hoverAt typed documented ⟨0, 4⟩ = .ok (some hover) ∧
      hover.markdown = "```autoit\n_Max ( $a, $b )\n```" ∧
      hoverAt typed documented ⟨0, 0⟩ = .ok (some hover) ∧
      hoverAt typed documented ⟨0, 7⟩ = .ok none := by
  obtain ⟨hanswers, -, -, hsame, hnone⟩ := hoverAt_shows_function typed documented
  have hname : IsToken typed.text ⟨['_', 'm', 'a', 'x'], 0, 4, .function⟩ :=
    @IsToken.bare typed.text [] [] ['_', 'm', 'a', 'x'] ['(', '$', 'a'] rfl
      ⟨List.all_eq_true.mp rfl, by simp, by simp [isNameChar]⟩ (by simp) ⟨'_', rfl, by decide⟩
      (by simp)
  have hargument : IsToken typed.text ⟨['a'], 5, 7, .variable⟩ :=
    @IsToken.withSigil typed.text ['_', 'm', 'a', 'x', '('] ['a'] [] '$' .variable rfl
      ⟨List.all_eq_true.mp rfl, by simp [isNameChar], by simp⟩ ⟨'a', rfl, by decide⟩ rfl
  have hstart : IsOnFunction typed ⟨0, 0⟩ ⟨['_', 'm', 'a', 'x'], 0, 4, .function⟩ :=
    ⟨by decide, 0, by decide, hname, rfl, by decide, by decide⟩
  have hstop : IsOnFunction typed ⟨0, 4⟩ ⟨['_', 'm', 'a', 'x'], 0, 4, .function⟩ :=
    ⟨by decide, 4, by decide, hname, rfl, by decide, by decide⟩
  have hshows : Shows typed documented ⟨['_', 'm', 'a', 'x'], 0, 4, .function⟩
      ⟨"```autoit\n_Max ( $a, $b )\n```", typed.rangeOf 0 4⟩ := ⟨rfl, rfl⟩
  obtain ⟨answer, hanswer, hshown⟩ := hanswers ⟨0, 4⟩
  rw [(hshown _).mpr ⟨_, hstop, hshows⟩] at hanswer
  refine ⟨_, hanswer, rfl, ?_, ?_⟩
  · rw [hsame _ _ _ hstart hstop, hanswer]
  · exact hnone _ ⟨0, 7⟩ 7 hargument (by decide) (by decide) (by decide) (by decide)

end Editor

end AutoItDocs
