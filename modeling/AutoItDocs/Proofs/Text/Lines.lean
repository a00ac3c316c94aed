import AutoItDocs.Text.Lines
import AutoItDocs.Proofs.Text.Runs
import Mathlib.Data.List.Forall2
/-!
Pieces of a text, the lines that they are read as, and the last line. Everything about pieces
follows from one equation: a text with a break in it has the pieces of what is on either side.
-/
namespace AutoItDocs.Text

/-- The characters behind the last line feed. -/
def lastLine (text : List Char) : List Char := (text.reverse.takeWhile (· ≠ '\n')).reverse

/-- The lines that the pieces of a text are read as, line feeds being the breaks. -/
def ended : List (List Char) → List (List Char)
  | [] => []
  | [last] => if last = [] then [] else [last]
  | piece :: next :: more => dropReturn piece :: ended (next :: more)

/-- The piece is the line but for a carriage return that ends it. -/
def IsRead (piece line : List Char) : Prop := line = piece ∨ line = dropReturn piece

variable {isBreak : Char → Bool} {text line : List Char} {c : Char}

theorem split_append_cons (h : isBreak c) (left right : List Char) :
    split isBreak (left ++ c :: right) =
      ((split isBreak left).1,
        (split isBreak left).2 ++ (split isBreak right).1 :: (split isBreak right).2) := by
  induction left with
  | nil => simp [split, h]
  | cons d left ih =>
    rw [List.cons_append, split, ih, split]
    by_cases hd : isBreak d <;> simp [hd]

theorem split_of_forall_not (h : ∀ c ∈ text, ¬ isBreak c) : split isBreak text = (text, []) := by
  induction text with
  | nil => rfl
  | cons c text ih =>
    have hc : ¬ isBreak c := h c List.mem_cons_self
    rw [split, ih fun d hd => h d (List.mem_cons_of_mem c hd)]
    simp [hc]

theorem pieces_append_cons (h : isBreak c) (left right : List Char) :
    pieces isBreak (left ++ c :: right) = pieces isBreak left ++ pieces isBreak right := by
  simp only [pieces, split_append_cons h, List.cons_append]

/-- A text without a character has no break where only that character is one. -/
theorem forall_not_beq (h : c ∉ text) : ∀ d ∈ text, ¬ (d == c) = true :=
  fun _ hd he => h (beq_iff_eq.mp he ▸ hd)

theorem pieces_of_forall_not (h : ∀ c ∈ text, ¬ isBreak c) : pieces isBreak text = [text] := by
  rw [pieces, split_of_forall_not h]

/-- Without a break in it, a text only lengthens the first piece of what it stands in front of. -/
theorem split_append_of_forall_not (h : ∀ c ∈ line, ¬ isBreak c) (text : List Char) :
    split isBreak (line ++ text) = (line ++ (split isBreak text).1, (split isBreak text).2) := by
  induction line with
  | nil => rfl
  | cons c line ih =>
    have hc : ¬ isBreak c := h c List.mem_cons_self
    rw [List.cons_append, split, ih fun d hd => h d (List.mem_cons_of_mem c hd)]
    simp [hc]

theorem not_isBreak_of_mem_pieces {piece : List Char} (hpiece : piece ∈ pieces isBreak text)
    (hc : c ∈ piece) : ¬ isBreak c := by
  induction text generalizing piece with
  | nil =>
    cases List.mem_singleton.mp hpiece
    cases hc
  | cons d text ih =>
    simp only [pieces, split] at ih hpiece
    by_cases hd : isBreak d
    · simp only [hd, if_true] at hpiece
      rcases List.mem_cons.mp hpiece with rfl | hpiece
      · cases hc
      · exact ih hpiece hc
    · simp only [hd] at hpiece
      rcases List.mem_cons.mp hpiece with rfl | hpiece
      · rcases List.mem_cons.mp hc with rfl | hc
        · exact hd
        · exact ih List.mem_cons_self hc
      · exact ih (List.mem_cons_of_mem _ hpiece) hc

/-- Pieces without a break in them are those of the text that they make up. -/
theorem pieces_intercalate {parts : List (List Char)} (hne : parts ≠ [])
    (h : ∀ part ∈ parts, ∀ d ∈ part, ¬ isBreak d) (hc : isBreak c) :
    pieces isBreak ([c].intercalate parts) = parts := by
  induction parts with
  | nil => exact absurd rfl hne
  | cons part parts ih =>
    rw [List.forall_mem_cons] at h
    cases parts with
    | nil => rw [List.intercalate_singleton, pieces_of_forall_not h.1]
    | cons next parts =>
      rw [List.intercalate_cons_cons, List.append_assoc, List.singleton_append,
        pieces_append_cons hc, pieces_of_forall_not h.1, ih (List.cons_ne_nil next parts) h.2,
        List.singleton_append]

theorem split_fst (isBreak : Char → Bool) (text : List Char) :
    (split isBreak text).1 = text.takeWhile (! isBreak ·) := by
  induction text with
  | nil => rfl
  | cons c text ih =>
    rw [split]
    by_cases hc : isBreak c <;> simp [hc, ih]

theorem lines_eq_ended (text : List Char) : lines text = ended (pieces (· == '\n') text) := by
  rw [lines]
  generalize pieces (· == '\n') text = all
  induction all using ended.induct with
  | case1 => rfl
  | case2 => rfl
  | case3 last hlast =>
    cases last with
    | nil => exact absurd rfl hlast
    | cons c last => rfl
  | case4 piece next more ih =>
    rw [ended, ← ih]
    simp only [List.getLast?_cons_cons, List.dropLast_cons_cons, List.map_cons]
    split <;> rfl

theorem tail_ended (piece : List Char) (more : List (List Char)) :
    (ended (piece :: more)).tail = ended more := by
  cases more with
  | nil => by_cases hpiece : piece = [] <;> simp [ended, hpiece]
  | cons next more => rfl

/-- Every piece is read as a line, unless it is empty. -/
theorem exists_isRead_of_mem {piece : List Char} {all : List (List Char)} (h : piece ∈ all)
    (hne : piece ≠ []) : ∃ line ∈ ended all, IsRead piece line := by
  induction all using ended.induct with
  | case1 => cases h
  | case2 => exact absurd (List.mem_singleton.mp h) hne
  | case3 last hlast =>
    cases List.mem_singleton.mp h
    exact ⟨piece, by simp [ended, hne], .inl rfl⟩
  | case4 first next more ih =>
    rcases List.mem_cons.mp h with rfl | h
    · exact ⟨_, List.mem_cons_self, .inr rfl⟩
    · obtain ⟨line, hline, hread⟩ := ih h
      exact ⟨line, List.mem_cons_of_mem _ hline, hread⟩

/-- Lists that are related one by one through a list between them. -/
theorem forall₂_comp {α β γ : Type} {R : α → β → Prop} {S : β → γ → Prop} {xs : List α}
    {ys : List β} {zs : List γ} (hxy : List.Forall₂ R xs ys) (hyz : List.Forall₂ S ys zs) :
    List.Forall₂ (fun x z => ∃ y, R x y ∧ S y z) xs zs := by
  induction hxy generalizing zs with
  | nil =>
    cases hyz
    exact .nil
  | cons hfirst _ ih =>
    cases hyz with
    | cons hnext hyz => exact .cons ⟨_, hfirst, hnext⟩ (ih hyz)

/-- A class of lines that has no empty line and does not look at a carriage return in the end
leaves as many lines as pieces. -/
theorem forall₂_filter_ended {p : List Char → Bool} (empty : ¬ p [])
    (returned : ∀ line, p (dropReturn line) = p line) (all : List (List Char)) :
    List.Forall₂ IsRead (all.filter p) ((ended all).filter p) := by
  induction all using ended.induct with
  | case1 => exact .nil
  | case2 => simp [ended, empty]
  | case3 last hlast =>
    rw [ended, if_neg hlast]
    exact List.forall₂_same.mpr fun _ _ => .inl rfl
  | case4 piece next more ih =>
    rw [ended]
    by_cases hpiece : p piece
    · rw [List.filter_cons_of_pos hpiece, List.filter_cons_of_pos ((returned piece).trans hpiece)]
      exact .cons (.inr rfl) ih
    · have hreturned : ¬ p (dropReturn piece) := by rwa [returned]
      rw [List.filter_cons_of_neg hpiece, List.filter_cons_of_neg hreturned]
      exact ih

theorem lastLine_append_cons (left right : List Char) :
    lastLine (left ++ '\n' :: right) = lastLine right := by
  have hfeed : ¬ decide ('\n' ≠ '\n') = true := by decide
  rw [lastLine, List.reverse_append, List.reverse_cons, List.append_assoc, List.singleton_append,
    takeWhile_append_cons_of_neg hfeed, lastLine]

theorem lastLine_append (h : '\n' ∉ line) (text : List Char) :
    lastLine (text ++ line) = lastLine text ++ line := by
  have hinside : ∀ c ∈ line.reverse, decide (c ≠ '\n') = true := by
    intro c hc
    exact decide_eq_true fun he : c = '\n' => h (he ▸ List.mem_reverse.mp hc)
  rw [lastLine, List.reverse_append, List.takeWhile_append_of_pos hinside, List.reverse_append,
    List.reverse_reverse, lastLine]

theorem lastLine_of_not_mem (h : '\n' ∉ line) : lastLine line = line := lastLine_append h []

theorem mem_of_mem_lastLine (h : c ∈ lastLine text) : c ∈ text :=
  List.mem_reverse.mp (List.takeWhile_subset _ (List.mem_reverse.mp h))

theorem exists_append_lastLine (text : List Char) : ∃ front, text = front ++ lastLine text := by
  obtain ⟨front, line, htext, hline, -, -⟩ := exists_trailing_run (· ≠ '\n') text
  refine ⟨front, ?_⟩
  rw [lastLine, ← hline]
  exact htext

theorem exists_last_feed (h : '\n' ∈ text) :
    ∃ front line, text = front ++ '\n' :: line ∧ '\n' ∉ line := by
  obtain ⟨right, left, hreverse, hright⟩ := List.eq_append_cons_of_mem (List.mem_reverse.mpr h)
  refine ⟨left.reverse, right.reverse, ?_, by simpa using hright⟩
  rw [← text.reverse_reverse, hreverse]
  simp

/-- A text is one line, or a shorter text that a further line follows. -/
@[elab_as_elim]
theorem lines_induction {motive : List Char → Prop} (line : ∀ line, '\n' ∉ line → motive line)
    (feed : ∀ front line, '\n' ∉ line → motive front → motive (front ++ '\n' :: line))
    (text : List Char) : motive text := by
  induction hn : text.length using Nat.strongRecOn generalizing text with
  | _ n ih =>
    by_cases hfeed : '\n' ∈ text
    · obtain ⟨front, last, rfl, hlast⟩ := exists_last_feed hfeed
      rw [List.length_append, List.length_cons] at hn
      exact feed front last hlast (ih front.length (by omega) front rfl)
    · exact line text hfeed

end AutoItDocs.Text
