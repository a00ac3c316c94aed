import AutoItDocs.Text.Lowercase.Mapping
import AutoItDocs.Text.Lowercase.Context
/-!
Lowercase text, by the full Unicode mapping. A capital sigma becomes the final form at the end of a
word; every other character is mapped on its own. Names are compared by their lowercase forms.
-/
namespace AutoItDocs.Text

namespace Lowercase

/-- Past the characters without influence on case, the next one has case. -/
def nextIsCased (text : List Char) : Bool :=
  match text.dropWhile isIgnorable with
  | [] => false
  | c :: _ => isCased c

/-- A sigma between `before`, read backwards, and `after` ends a word. -/
def endsWord (before after : List Char) : Bool := nextIsCased before && !nextIsCased after

def ofChar (c : Char) : List Char :=
  if c.toNat < 0x80 then [c.toLower]
  else if c = '\u0130' then ['i', '\u0307']
  else match runs.find? (·.covers c.toNat) with
    | some run => [Char.ofNat (c.toNat + run.shift).toNat]
    | none => [c]

/-- Lowercase form of the second text, where the first stands before it and is read backwards. -/
def after (before : List Char) : List Char → List Char
  | [] => []
  | c :: rest =>
    if c = 'Σ' then (if endsWord before rest then 'ς' else 'σ') :: after (c :: before) rest
    else ofChar c ++ after (c :: before) rest

end Lowercase

def lowercase (text : List Char) : List Char := Lowercase.after [] text

/-- Lowercase form of a name; two names are the same name when these are equal. -/
def foldCase (name : String) : String := String.ofList (lowercase name.toList)

theorem Lowercase.after_eq_map_toLower {text : List Char} (ascii : ∀ c ∈ text, c.toNat < 0x80)
    (before : List Char) : Lowercase.after before text = text.map Char.toLower := by
  induction text generalizing before with
  | nil => rfl
  | cons c rest ih =>
    have hc : c.toNat < 0x80 := ascii c (by simp)
    have notSigma : c ≠ 'Σ' := fun h => by subst h; exact absurd hc (by decide)
    simp [after, ofChar, hc, notSigma, ih fun d hd => ascii d (by simp [hd])]

/-- ASCII text has the lowercase form that ASCII alone gives it. -/
theorem lowercase_eq_map_toLower {text : List Char} (ascii : ∀ c ∈ text, c.toNat < 0x80) :
    lowercase text = text.map Char.toLower :=
  Lowercase.after_eq_map_toLower ascii []

end AutoItDocs.Text
