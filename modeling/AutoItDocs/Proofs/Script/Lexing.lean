import AutoItDocs.Script.CallContext
import Mathlib.Data.List.Basic
/-!
What is code in a text, said by the pieces that the text consists of and not by a reader. Main
statement: every text has exactly one lexing, and the reader of call contexts is where it ends.
-/
namespace AutoItDocs.CallContext

def IsQuote (c : Char) : Prop := c = '"' ∨ c = '\''

instance (c : Char) : Decidable (IsQuote c) := inferInstanceAs (Decidable (_ ∨ _))

/-- The character begins neither a literal nor a comment. -/
def IsPlain (c : Char) : Prop := ¬ IsQuote c ∧ c ≠ ';'

instance (c : Char) : Decidable (IsPlain c) := inferInstanceAs (Decidable (_ ∧ _))

/-- The quote occurs in pairs only. -/
inductive Doubled (quote : Char) : List Char → Prop where
  | nil : Doubled quote []
  | other {c : Char} {body : List Char} : c ≠ quote → Doubled quote body → Doubled quote (c :: body)
  | pair {body : List Char} : Doubled quote body → Doubled quote (quote :: quote :: body)

/-- The pieces of a text from left to right, and where the last of them leaves off. A literal ends
at the first quote that is not doubled, a comment at the first line feed. -/
inductive Lexes : List Char → Mode → Prop where
  | done : Lexes [] .code
  | plain {c : Char} {rest : List Char} {mode : Mode} :
      IsPlain c → Lexes rest mode → Lexes (c :: rest) mode
  | literal {quote : Char} {body rest : List Char} {mode : Mode} :
      IsQuote quote → Doubled quote body → rest.head? ≠ some quote → Lexes rest mode →
        Lexes (quote :: (body ++ quote :: rest)) mode
  | openLiteral {quote : Char} {body : List Char} :
      IsQuote quote → Doubled quote body → Lexes (quote :: body) (.literal quote)
  | comment {body rest : List Char} {mode : Mode} :
      '\n' ∉ body → Lexes rest mode → Lexes (';' :: (body ++ '\n' :: rest)) mode
  | openComment {body : List Char} : '\n' ∉ body → Lexes (';' :: body) .comment

/-- Where a reader is that reads on from `mode`. -/
def modeAfter (mode : Mode) (text : List Char) : Mode := text.foldl stepMode mode

variable {text body : List Char} {mode : Mode} {quote c : Char}

theorem modeAfter_append (mode : Mode) (a b : List Char) :
    modeAfter mode (a ++ b) = modeAfter (modeAfter mode a) b :=
  List.foldl_append

theorem readOn_mode (r : Reader) (text : List Char) :
    (readOn r text).mode = modeAfter r.mode text := by
  induction text generalizing r with
  | nil => rfl
  | cons c text ih => exact ih (step r c)

theorem read_mode (text : List Char) : (read text).mode = modeAfter .code text :=
  readOn_mode {} text

theorem stepMode_quote (h : IsQuote quote) : stepMode .code quote = .literal quote := if_pos h

theorem stepMode_plain (h : IsPlain c) : stepMode .code c = .code := by
  have hquote : ¬ (c = '"' ∨ c = '\'') := h.1
  simp only [stepMode, hquote, h.2, if_false]

theorem Doubled.modeAfter_eq (h : Doubled quote body) (hquote : IsQuote quote) :
    modeAfter (.literal quote) body = .literal quote := by
  induction h with
  | nil => rfl
  | other hne _ ih =>
    rw [modeAfter, List.foldl_cons, stepMode, if_neg hne]
    exact ih
  | pair _ ih =>
    rw [modeAfter, List.foldl_cons, List.foldl_cons, stepMode, if_pos rfl, stepMode_quote hquote]
    exact ih

theorem modeAfter_comment (h : '\n' ∉ body) : modeAfter .comment body = .comment := by
  induction body with
  | nil => rfl
  | cons c body ih =>
    rw [List.mem_cons, not_or] at h
    rw [modeAfter, List.foldl_cons, stepMode, if_neg (Ne.symm h.1)]
    exact ih h.2

theorem Lexes.modeAfter_eq (h : Lexes text mode) : modeAfter .code text = mode := by
  induction h with
  | done => rfl
  | plain hplain _ ih =>
    rw [modeAfter, List.foldl_cons, stepMode_plain hplain]
    exact ih
  | @literal quote body rest mode hquote hbody _ _ ih =>
    change modeAfter (stepMode .code quote) (body ++ quote :: rest) = mode
    rw [stepMode_quote hquote, modeAfter_append, hbody.modeAfter_eq hquote, modeAfter,
      List.foldl_cons, stepMode, if_pos rfl]
    exact ih
  | @openLiteral quote body hquote hbody =>
    change modeAfter (stepMode .code quote) body = .literal quote
    rw [stepMode_quote hquote, hbody.modeAfter_eq hquote]
  | @comment body rest mode hbody _ ih =>
    change modeAfter .comment (body ++ '\n' :: rest) = mode
    rw [modeAfter_append, modeAfter_comment hbody]
    exact ih
  | openComment hbody => exact modeAfter_comment hbody

/-- What follows an opening quote is all inside, or a first quote that is not doubled closes it. -/
theorem doubled_or_closed (quote : Char) : ∀ text, Doubled quote text ∨
    ∃ body rest, text = body ++ quote :: rest ∧ Doubled quote body ∧ rest.head? ≠ some quote
  | [] => .inl .nil
  | [c] => by
    by_cases hc : c = quote
    · exact .inr ⟨[], [], by rw [hc]; rfl, .nil, by simp⟩
    · exact .inl (.other hc .nil)
  | c :: d :: text => by
    by_cases hc : c = quote
    · subst hc
      by_cases hd : d = c
      · subst hd
        rcases doubled_or_closed d text with h | ⟨body, rest, rfl, hbody, hrest⟩
        · exact .inl (.pair h)
        · exact .inr ⟨d :: d :: body, rest, rfl, .pair hbody, hrest⟩
      · exact .inr ⟨[], d :: text, rfl, .nil, by simpa using hd⟩
    · rcases doubled_or_closed quote (d :: text) with h | ⟨body, rest, hbody, hdoubled, hrest⟩
      · exact .inl (.other hc h)
      · exact .inr ⟨c :: body, rest, by rw [hbody]; rfl, .other hc hdoubled, hrest⟩

theorem exists_lexes (text : List Char) : ∃ mode, Lexes text mode := by
  -- A literal or a comment leaves a rest that is shorter than the tail.
  induction hn : text.length using Nat.strongRecOn generalizing text with
  | _ n ih =>
    cases text with
    | nil => exact ⟨.code, .done⟩
    | cons c text =>
      rw [List.length_cons] at hn
      by_cases hquote : IsQuote c
      · rcases doubled_or_closed c text with h | ⟨body, rest, rfl, hbody, hrest⟩
        · exact ⟨_, .openLiteral hquote h⟩
        · rw [List.length_append, List.length_cons] at hn
          obtain ⟨mode, h⟩ := ih rest.length (by omega) rest rfl
          exact ⟨mode, .literal hquote hbody hrest h⟩
      · by_cases hcomment : c = ';'
        · subst hcomment
          by_cases hfeed : '\n' ∈ text
          · obtain ⟨body, rest, rfl, hbody⟩ := List.eq_append_cons_of_mem hfeed
            rw [List.length_append, List.length_cons] at hn
            obtain ⟨mode, h⟩ := ih rest.length (by omega) rest rfl
            exact ⟨mode, .comment hbody h⟩
          · exact ⟨_, .openComment hfeed⟩
        · obtain ⟨mode, h⟩ := ih text.length (by omega) text rfl
          exact ⟨mode, .plain ⟨hquote, hcomment⟩ h⟩

/-- The reader knows where the lexing of a text ends, and it ends in one way only. -/
theorem lexes_iff : Lexes text mode ↔ modeAfter .code text = mode := by
  constructor
  · exact Lexes.modeAfter_eq
  · rintro rfl
    obtain ⟨mode, h⟩ := exists_lexes text
    rwa [h.modeAfter_eq]

instance (text : List Char) (mode : Mode) : Decidable (Lexes text mode) :=
  decidable_of_iff _ lexes_iff.symm

example : Lexes ['f', '(', '"', 'a', '"', '"', ';'] (.literal '"') := by decide

end AutoItDocs.CallContext
