import Mathlib.Data.List.Basic
import Mathlib.Data.List.TakeWhile
/-!
Runs of one class of characters at the two ends of a text.
-/
namespace AutoItDocs.Text

variable {left right : List Char} {p : Char → Bool} {c : Char}

/-- The leading part of a class ends where the first character that is not of the class stands. -/
theorem takeWhile_append_exact {α : Type*} {left right : List α} {p : α → Bool}
    (inside : ∀ c ∈ left, p c) (border : ∀ c ∈ right.head?, ¬ p c) :
    (left ++ right).takeWhile p = left := by
  rw [List.takeWhile_append_of_pos inside]
  cases right with
  | nil => simp
  | cons c right => rw [List.takeWhile_cons_of_neg (border c rfl), List.append_nil]

theorem dropWhile_append_exact (inside : ∀ c ∈ left, p c) (border : ∀ c ∈ right.head?, ¬ p c) :
    (left ++ right).dropWhile p = right := by
  have hparts := List.takeWhile_append_dropWhile (p := p) (l := left ++ right)
  rwa [takeWhile_append_exact inside border, List.append_cancel_left_eq] at hparts

theorem takeWhile_append_cons_of_neg (h : ¬ p c) (left right : List Char) :
    (left ++ c :: right).takeWhile p = left.takeWhile p := by
  induction left with
  | nil => rw [List.nil_append, List.takeWhile_cons_of_neg h, List.takeWhile_nil]
  | cons d left ih =>
    rw [List.cons_append, List.takeWhile_cons, List.takeWhile_cons, ih]

theorem dropWhile_append_cons_of_neg (h : ¬ p c) (left right : List Char) :
    (left ++ c :: right).dropWhile p = left.dropWhile p ++ c :: right := by
  induction left with
  | nil => rw [List.nil_append, List.dropWhile_cons_of_neg h, List.dropWhile_nil, List.nil_append]
  | cons d left ih =>
    rw [List.cons_append, List.dropWhile_cons, List.dropWhile_cons, ih]
    split <;> rfl

theorem exists_leading_run (p : Char → Bool) (text : List Char) :
    ∃ run rest, text = run ++ rest ∧ run = text.takeWhile p ∧ (∀ c ∈ run, p c) ∧
      ∀ c ∈ rest.head?, ¬ p c := by
  refine ⟨_, _, List.takeWhile_append_dropWhile.symm, rfl,
    fun c hc => List.mem_takeWhile_imp hc, ?_⟩
  intro c hc
  have hnot := List.head?_dropWhile_not p text
  rw [Option.mem_def.mp hc] at hnot
  simpa using hnot

theorem exists_trailing_run (p : Char → Bool) (text : List Char) :
    ∃ rest run, text = rest ++ run ∧ run = (text.reverse.takeWhile p).reverse ∧ (∀ c ∈ run, p c) ∧
      ∀ c ∈ rest.getLast?, ¬ p c := by
  obtain ⟨run, rest, htext, hrun, hinside, hborder⟩ := exists_leading_run p text.reverse
  refine ⟨rest.reverse, run.reverse, ?_, by rw [hrun], by simpa using hinside, ?_⟩
  · rw [← List.reverse_append, ← htext, List.reverse_reverse]
  · rwa [List.getLast?_reverse]

end AutoItDocs.Text
