import AutoItDocs.Text.Blank
import AutoItDocs.Text.Lines
import Mathlib.Data.List.Infix
/-!
Where parts of a text occur in it. A part without a certain character occurs on one side of that
character or on the other, and parts that occur in order stay in order when texts are put together.
-/
namespace AutoItDocs.Text

/-- The parts occur in the text one behind the other. -/
def InOrder : List (List Char) → List Char → Prop
  | [], _ => True
  | part :: parts, text => ∃ before after, text = before ++ part ++ after ∧ InOrder parts after

variable {text left right part sep : List Char} {parts others : List (List Char)} {c : Char}

theorem infix_append_cons_iff (h : c ∉ part) :
    part <:+: left ++ c :: right ↔ part <:+: left ∨ part <:+: right := by
  constructor
  · intro hpart
    rcases List.infix_append_iff.mp hpart with hleft | hright | ⟨start, stop, rfl, hstart, hstop⟩
    · exact .inl hleft
    · rcases List.infix_cons_iff.mp hright with hfirst | hright
      · cases part with
        | nil => exact .inl List.nil_infix
        | cons d part =>
          obtain rfl : d = c := (List.cons_prefix_cons.mp hfirst).1
          exact absurd List.mem_cons_self h
      · exact .inr hright
    · -- What is on both sides would have the character between them.
      cases stop with
      | nil =>
        rw [List.append_nil]
        exact .inl hstart.isInfix
      | cons d stop =>
        obtain rfl : d = c := (List.cons_prefix_cons.mp hstop).1
        exact absurd (List.mem_append_right start List.mem_cons_self) h
  · rintro (hleft | hright)
    · exact hleft.trans (List.prefix_append _ _).isInfix
    · exact hright.trans ((List.suffix_cons c right).trans (List.suffix_append left _)).isInfix

theorem infix_cons_iff_of_not_mem (h : c ∉ part) (hne : part ≠ []) :
    part <:+: c :: right ↔ part <:+: right := by
  have hsides : part <:+: [] ++ c :: right ↔ part <:+: [] ∨ part <:+: right :=
    infix_append_cons_iff h
  rwa [List.nil_append, List.infix_nil, or_iff_right hne] at hsides

theorem infix_intercalate_iff (h : c ∉ part) (hne : part ≠ []) (parts : List (List Char)) :
    part <:+: [c].intercalate parts ↔ ∃ other ∈ parts, part <:+: other := by
  induction parts with
  | nil => simp [hne]
  | cons first parts ih =>
    cases parts with
    | nil => simp
    | cons next parts =>
      rw [List.intercalate_cons_cons, List.append_assoc, List.singleton_append,
        infix_append_cons_iff h, ih]
      simp

theorem head?_split_fst (hc : c ≠ '\n') (text : List Char) :
    (split (· == '\n') text).1.head? = some c ↔ text.head? = some c := by
  cases text with
  | nil => rfl
  | cons d text =>
    by_cases hd : d = '\n'
    · subst hd
      simp [split, hc.symm]
    · simp [split, hd]

theorem infix_append_replicate_iff (h : c ∉ part) (hne : part ≠ []) (n : Nat) :
    part <:+: text ++ List.replicate n c ↔ part <:+: text := by
  cases n with
  | zero => rw [List.replicate_zero, List.append_nil]
  | succ n =>
    have hblanks : ¬ part <:+: List.replicate n c := by
      intro hpart
      obtain ⟨d, hd⟩ := List.exists_mem_of_ne_nil part hne
      exact h (List.eq_of_mem_replicate (hpart.subset hd) ▸ hd)
    rw [List.replicate_succ, infix_append_cons_iff h, or_iff_left hblanks]

theorem trim_isInfix (text : List Char) : trim text <:+: text := by
  have hstart : trimStart text <:+ text := List.dropWhile_suffix isBlank
  have hend : trim text <+: trimStart text := by
    rw [trim, trimEnd, ← List.reverse_suffix, List.reverse_reverse]
    exact List.dropWhile_suffix isBlank
  exact hend.isInfix.trans hstart.isInfix

theorem singleton_isPrefix_iff : [c] <+: text ↔ text.head? = some c := by
  cases text <;> simp [List.cons_prefix_cons, eq_comm]

/-- No further line begins with a character exactly if no line feed stands in front of it. -/
theorem forall_head?_split_iff (hc : c ≠ '\n') (text : List Char) :
    (∀ piece ∈ (split (· == '\n') text).2, piece.head? ≠ some c) ↔ ¬ ['\n', c] <:+: text := by
  induction text with
  | nil => simp [split]
  | cons d text ih =>
    rw [List.infix_cons_iff, List.cons_prefix_cons, singleton_isPrefix_iff, not_or, ← ih]
    by_cases hd : d = '\n'
    · subst hd
      simp [split, head?_split_fst hc]
    · simp [split, hd, Ne.symm hd]

theorem dropReturn_isPrefix (line : List Char) : dropReturn line <+: line := by
  rw [dropReturn]
  split
  · exact List.dropLast_prefix line
  · exact List.prefix_rfl

theorem isPrefix_dropReturn {line : List Char} (hpart : part.getLast? ≠ some '\r')
    (h : part <+: line) : part <+: dropReturn line := by
  obtain ⟨rest, rfl⟩ := h
  rw [dropReturn]
  by_cases hreturn : (part ++ rest).getLast? = some '\r'
  · have hrest : rest ≠ [] := by
      rintro rfl
      rw [List.append_nil] at hreturn
      exact hpart hreturn
    rw [if_pos hreturn, List.dropLast_append_of_ne_nil hrest]
    exact List.prefix_append _ _
  · rw [if_neg hreturn]
    exact List.prefix_append _ _

theorem isPrefix_dropReturn_iff {line : List Char} (hpart : part.getLast? ≠ some '\r') :
    part <+: dropReturn line ↔ part <+: line :=
  ⟨fun h => h.trans (dropReturn_isPrefix line), isPrefix_dropReturn hpart⟩

theorem isInfix_dropReturn_iff {line : List Char} (hreturn : '\r' ∉ part) :
    part <:+: dropReturn line ↔ part <:+: line := by
  constructor
  · exact fun h => h.trans (dropReturn_isPrefix line).isInfix
  · rintro ⟨before, after, rfl⟩
    rcases List.eq_nil_or_concat' part with rfl | ⟨init, last, rfl⟩
    · exact List.nil_infix
    · have hlast : (before ++ (init ++ [last])).getLast? ≠ some '\r' := by
        rw [← List.append_assoc, List.getLast?_concat]
        rintro ⟨⟩
        exact hreturn (List.mem_append_right init List.mem_cons_self)
      have hfront := isPrefix_dropReturn hlast (List.prefix_append _ after)
      exact (List.suffix_append before _).isInfix.trans hfront.isInfix

theorem isPrefix_intercalate_cons (sep text : List Char) (parts : List (List Char)) :
    text <+: sep.intercalate (text :: parts) := by
  cases parts with
  | nil => rw [List.intercalate_singleton]
  | cons next parts =>
    rw [List.intercalate_cons_cons, List.append_assoc]
    exact List.prefix_append _ _

theorem exists_intercalate_append (sep : List Char) (xs ys : List (List Char)) :
    ∃ between, sep.intercalate (xs ++ ys) = sep.intercalate xs ++ between ++ sep.intercalate ys := by
  induction xs with
  | nil => exact ⟨[], rfl⟩
  | cons x xs ih =>
    cases xs with
    | nil =>
      cases ys with
      | nil => exact ⟨[], by simp⟩
      | cons y ys => exact ⟨sep, by simp [List.intercalate_cons_cons]⟩
    | cons next xs =>
      obtain ⟨between, hbetween⟩ := ih
      refine ⟨between, ?_⟩
      rw [List.cons_append, List.cons_append, List.intercalate_cons_cons, ← List.cons_append,
        hbetween, List.intercalate_cons_cons]
      simp only [List.append_assoc]

namespace InOrder

theorem of_append_left (h : InOrder parts right) (left : List Char) :
    InOrder parts (left ++ right) := by
  cases parts with
  | nil => trivial
  | cons part parts =>
    obtain ⟨before, after, rfl, hrest⟩ := h
    exact ⟨left ++ before, after, by simp only [List.append_assoc], hrest⟩

theorem append (hleft : InOrder parts left) (hright : InOrder others right) :
    InOrder (parts ++ others) (left ++ right) := by
  induction parts generalizing left with
  | nil => exact hright.of_append_left left
  | cons part parts ih =>
    obtain ⟨before, after, rfl, hrest⟩ := hleft
    exact ⟨before, after ++ right, by simp only [List.append_assoc], ih hrest⟩

theorem of_append_right (h : InOrder parts left) (right : List Char) :
    InOrder parts (left ++ right) := by
  have happend : InOrder (parts ++ []) (left ++ right) := h.append trivial
  rwa [List.append_nil] at happend

theorem of_isInfix (h : part <:+: text) : InOrder [part] text := by
  obtain ⟨before, after, rfl⟩ := h
  exact ⟨before, after, rfl, trivial⟩

theorem intercalate_append {xs ys : List (List Char)} (hxs : InOrder parts (sep.intercalate xs))
    (hys : InOrder others (sep.intercalate ys)) :
    InOrder (parts ++ others) (sep.intercalate (xs ++ ys)) := by
  obtain ⟨between, hbetween⟩ := exists_intercalate_append sep xs ys
  rw [hbetween]
  exact (hxs.of_append_right between).append hys

theorem intercalate_flatMap {α : Type} {items : List α} {parts : α → List (List Char)}
    {text : α → List Char} (h : ∀ item ∈ items, InOrder (parts item) (text item)) :
    InOrder (items.flatMap parts) (sep.intercalate (items.map text)) := by
  induction items with
  | nil => trivial
  | cons item items ih =>
    rw [List.forall_mem_cons] at h
    have hfirst : InOrder (parts item) (sep.intercalate [text item]) := by
      rw [List.intercalate_singleton]
      exact h.1
    exact hfirst.intercalate_append (ih h.2)

end InOrder

end AutoItDocs.Text
