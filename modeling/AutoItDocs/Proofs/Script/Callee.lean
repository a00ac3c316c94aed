import AutoItDocs.Script.CallContext
import AutoItDocs.Proofs.Text.Runs
import AutoItDocs.Proofs.Script.Token
/-!
The callee of a bracket, said by the parts of the text in front of the bracket: it is a whole run of
name characters that no sigil stands before and that only blanks follow.
-/
namespace AutoItDocs.CallContext

open Text

variable {before front name blanks run rest : List Char}

/-- What stands in front of a bracket, read backwards: blanks, a run of name characters, and the
rest. -/
structure IsFront (blanks run rest : List Char) : Prop where
  blank : ∀ c ∈ blanks, isBlank c
  names : ∀ c ∈ run, isNameChar c
  opens : ∀ c ∈ rest.head?, ¬ isNameChar c
  parted : run = [] → ∀ c ∈ rest.head?, ¬ isBlank c

theorem exists_isFront (before : List Char) :
    ∃ blanks run rest, before = blanks ++ (run ++ rest) ∧ IsFront blanks run rest := by
  obtain ⟨blanks, trimmed, hbefore, -, hblank, htrimmed⟩ := exists_leading_run isBlank before
  obtain ⟨run, rest, rfl, -, hrun, hrest⟩ := exists_leading_run isNameChar trimmed
  refine ⟨blanks, run, rest, hbefore, hblank, hrun, hrest, ?_⟩
  rintro rfl
  exact htrimmed

theorem IsFront.trimStart_eq (h : IsFront blanks run rest) :
    trimStart (blanks ++ (run ++ rest)) = run ++ rest := by
  apply dropWhile_append_exact h.blank
  cases run with
  | nil => exact h.parted rfl
  | cons c run =>
    rintro _ ⟨⟩
    exact fun hblank => not_isNameChar_of_isBlank hblank (h.names c List.mem_cons_self)

theorem calleeBefore?_eq (h : IsFront blanks run rest) :
    calleeBefore? (blanks ++ (run ++ rest)) =
      if run ≠ [] ∧ rest.head?.bind WordKind.ofSigil? = none then some run.reverse else none := by
  have hsigil : ∀ c : Char, (c == '$' || c == '@') = (WordKind.ofSigil? c).isSome := by
    intro c
    rw [WordKind.ofSigil?]
    grind
  rw [calleeBefore?, h.trimStart_eq, takeWhile_append_exact h.names h.opens,
    dropWhile_append_exact h.names h.opens]
  cases run with
  | nil => simp
  | cons d run =>
    cases rest with
    | nil => simp
    | cons c rest =>
      simp only [hsigil]
      cases hkind : WordKind.ofSigil? c <;> simp [hkind]

theorem calleeBefore?_eq_some_iff :
    calleeBefore? before = some name ↔ ∃ blanks rest, before = blanks ++ (name.reverse ++ rest) ∧
      IsFront blanks name.reverse rest ∧ name ≠ [] ∧
        rest.head?.bind WordKind.ofSigil? = none := by
  constructor
  · intro h
    obtain ⟨blanks, run, rest, rfl, hfront⟩ := exists_isFront before
    rw [calleeBefore?_eq hfront, Option.ite_none_right_eq_some, Option.some.injEq] at h
    obtain ⟨⟨hrun, hsigil⟩, rfl⟩ := h
    rw [List.reverse_reverse]
    exact ⟨blanks, rest, rfl, hfront, by simpa using hrun, hsigil⟩
  · rintro ⟨blanks, rest, rfl, hfront, hname, hsigil⟩
    have hrun : name.reverse ≠ [] := by simpa using hname
    rw [calleeBefore?_eq hfront, if_pos ⟨hrun, hsigil⟩, List.reverse_reverse]

theorem names_of_calleeBefore? (h : calleeBefore? before = some name) :
    ∀ c ∈ name, isNameChar c := by
  obtain ⟨blanks, rest, -, hfront, -, -⟩ := calleeBefore?_eq_some_iff.mp h
  exact fun c hc => hfront.names c (List.mem_reverse.mpr hc)

/-- However the text in front of a bracket is divided, the callee has its whole run. -/
theorem isFront_of_calleeBefore?
    (h : calleeBefore? (front ++ (name ++ blanks)).reverse = some name)
    (hblank : ∀ c ∈ blanks, isBlank c) :
    IsFront blanks.reverse name.reverse front.reverse ∧
      front.getLast?.bind WordKind.ofSigil? = none := by
  obtain ⟨blanks', rest, hparts, hfront, hname, hsigil⟩ := calleeBefore?_eq_some_iff.mp h
  rw [List.reverse_append, List.reverse_append, List.append_assoc] at hparts
  have hne : name.reverse ≠ [] := by simpa using hname
  have hstart : ∀ c ∈ (name.reverse ++ front.reverse).head?, ¬ isBlank c := by
    rw [List.head?_append_of_ne_nil _ hne]
    exact fun c hc hblank =>
      not_isNameChar_of_isBlank hblank (hfront.names c (List.mem_of_head? hc))
  have hblank' : ∀ c ∈ blanks.reverse, isBlank c := by simpa using hblank
  have htrim := dropWhile_append_exact hblank' hstart
  have htrim' : (blanks' ++ (name.reverse ++ rest)).dropWhile isBlank = name.reverse ++ rest :=
    hfront.trimStart_eq
  rw [hparts, htrim', List.append_cancel_left_eq] at htrim
  subst htrim
  rw [List.append_cancel_right_eq] at hparts
  subst hparts
  rw [← List.head?_reverse]
  exact ⟨hfront, hsigil⟩

theorem front_unique {front' blanks' : List Char}
    (h : calleeBefore? (front ++ (name ++ blanks)).reverse = some name)
    (hblank : ∀ c ∈ blanks, isBlank c) (hblank' : ∀ c ∈ blanks', isBlank c)
    (hparts : front ++ (name ++ blanks) = front' ++ (name ++ blanks')) : front = front' := by
  have htrim := (isFront_of_calleeBefore? h hblank).1.trimStart_eq
  rw [hparts] at h
  have htrim' := (isFront_of_calleeBefore? h hblank').1.trimStart_eq
  have hreverse : blanks.reverse ++ (name.reverse ++ front.reverse) =
      blanks'.reverse ++ (name.reverse ++ front'.reverse) := by
    simpa using congrArg List.reverse hparts
  rw [hreverse, htrim', List.append_cancel_left_eq, List.reverse_inj] at htrim
  exact htrim.symm

end AutoItDocs.CallContext
