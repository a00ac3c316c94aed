import AutoItDocs.Proofs.Script.Lexing
/-!
Brackets and commas in the code of a text, by counting from the left. Main statements: what is
closed in code without being opened there, and the commas directly inside a bracket, by recursion on
the code and by counting in its initial parts.
-/
namespace AutoItDocs.CallContext

/-- The characters of a text that are code, each in its place. -/
def codeOf (text : List Char) : List (Option Char) :=
  text.mapIdx fun i c => if IsPlain c ∧ Lexes (text.take i) .code then some c else none

def openers (code : List (Option Char)) : Nat := code.countP fun c => c = some '(' ∨ c = some '['

def closers (code : List (Option Char)) : Nat := code.countP fun c => c = some ')' ∨ c = some ']'

/-- The bracket with the index `j` is open at the end: nowhere behind it have more brackets been
closed than opened. -/
structure IsOpen (code : List (Option Char)) (j : Nat) : Prop where
  opener : code[j]? = some (some '(') ∨ code[j]? = some (some '[')
  pending : ∀ n, closers ((code.drop (j + 1)).take n) ≤ openers ((code.drop (j + 1)).take n)

/-- The commas before which as many brackets are closed as opened. -/
def commasIn (code : List (Option Char)) : Nat :=
  (List.range code.length).countP fun m =>
    code[m]? = some (some ',') ∧ closers (code.take m) = openers (code.take m)

/-- The commas directly inside the bracket with the index `j`. -/
def commasBehind (text : List Char) (j : Nat) : Nat := commasIn ((codeOf text).drop (j + 1))

/-- What a character of code does to the open brackets. -/
inductive Role where
  | opens
  | closes
  | separates
  | nothing
  deriving DecidableEq

def roleOf (mark : Option Char) : Role :=
  if mark = some '(' ∨ mark = some '[' then .opens
  else if mark = some ')' ∨ mark = some ']' then .closes
  else if mark = some ',' then .separates
  else .nothing

/-- The brackets that are closed in the code and were not opened in it. -/
def unmatched : List (Option Char) → Nat
  | [] => 0
  | mark :: rest =>
    match roleOf mark with
    | .opens => unmatched rest - 1
    | .closes => unmatched rest + 1
    | _ => unmatched rest

/-- The commas directly inside a bracket that is opened before the code, with `level` open brackets
inside it there; they are counted up to where the bracket is closed. -/
def commasAt (level : Nat) : List (Option Char) → Nat
  | [] => 0
  | mark :: rest =>
    match roleOf mark, level with
    | .opens, level => commasAt (level + 1) rest
    | .closes, 0 => 0
    | .closes, level + 1 => commasAt level rest
    | .separates, 0 => commasAt 0 rest + 1
    | .separates, level + 1 => commasAt (level + 1) rest
    | .nothing, level => commasAt level rest

def markOf (mode : Mode) (c : Char) : Option Char :=
  if IsPlain c ∧ mode = .code then some c else none

/-- The code of a text that is read on from `mode`. -/
def codeFrom (mode : Mode) : List Char → List (Option Char)
  | [] => []
  | c :: rest => markOf mode c :: codeFrom (stepMode mode c) rest

variable {code : List (Option Char)} {mark : Option Char} {level n : Nat}

theorem roleOf_none : roleOf none = .nothing := rfl

theorem codeFrom_getElem? (mode : Mode) (text : List Char) (i : Nat) :
    (codeFrom mode text)[i]? = text[i]?.map (markOf (modeAfter mode (text.take i))) := by
  induction text generalizing mode i with
  | nil => rfl
  | cons c text ih =>
    cases i with
    | zero => rfl
    | succ i => exact ih (stepMode mode c) i

theorem codeFrom_drop (mode : Mode) (text : List Char) (i : Nat) :
    (codeFrom mode text).drop i = codeFrom (modeAfter mode (text.take i)) (text.drop i) := by
  induction text generalizing mode i with
  | nil => simp [codeFrom]
  | cons c text ih =>
    cases i with
    | zero => rfl
    | succ i => exact ih (stepMode mode c) i

theorem codeOf_eq (text : List Char) : codeOf text = codeFrom .code text := by
  apply List.ext_getElem?
  intro i
  rw [codeFrom_getElem?, codeOf, List.getElem?_mapIdx]
  simp only [lexes_iff]
  rfl

theorem roleOf_eq_opens_iff : roleOf mark = .opens ↔ mark = some '(' ∨ mark = some '[' := by
  grind [roleOf]

theorem roleOf_eq_closes_iff : roleOf mark = .closes ↔ mark = some ')' ∨ mark = some ']' := by
  grind [roleOf]

theorem roleOf_eq_separates_iff : roleOf mark = .separates ↔ mark = some ',' := by
  grind [roleOf]

theorem openers_cons (mark : Option Char) (code : List (Option Char)) :
    openers (mark :: code) = openers code + if roleOf mark = .opens then 1 else 0 := by
  simp only [openers, List.countP_cons, decide_eq_true_eq, roleOf_eq_opens_iff]

theorem closers_cons (mark : Option Char) (code : List (Option Char)) :
    closers (mark :: code) = closers code + if roleOf mark = .closes then 1 else 0 := by
  simp only [closers, List.countP_cons, decide_eq_true_eq, roleOf_eq_closes_iff]

theorem forall_take_cons_iff {p : List (Option Char) → Prop} :
    (∀ k, p ((mark :: code).take k)) ↔ p [] ∧ ∀ k, p (mark :: code.take k) :=
  ⟨fun h => ⟨h 0, fun k => h (k + 1)⟩, fun h k => by cases k with
    | zero => exact h.1
    | succ k => exact h.2 k⟩

theorem unmatched_le_iff :
    unmatched code ≤ n ↔ ∀ k, closers (code.take k) ≤ openers (code.take k) + n := by
  induction code generalizing n with
  | nil => simp [unmatched, closers]
  | cons mark code ih =>
    have hnil : closers [] ≤ openers [] + n := Nat.zero_le _
    rw [forall_take_cons_iff (p := fun l => closers l ≤ openers l + n)]
    simp only [hnil, true_and, openers_cons, closers_cons, unmatched]
    cases hrole : roleOf mark with
    | opens =>
      have h := ih (n := n + 1)
      simp only [reduceCtorEq, if_true, if_false, Nat.add_zero, Nat.add_right_comm _ 1 n,
        Nat.add_assoc, Nat.sub_le_iff_le_add, h]
    | closes =>
      simp only [reduceCtorEq, if_true, if_false, Nat.add_zero]
      cases n with
      | zero =>
        -- The first character alone closes more than it opens.
        refine iff_of_false (by omega) fun h => ?_
        have hfirst := h 0
        simp [openers, closers] at hfirst
      | succ n => simp only [Nat.add_le_add_iff_right, ← Nat.add_assoc, ih]
    | separates | nothing => simp only [reduceCtorEq, if_false, Nat.add_zero, ih]

theorem isOpen_iff {j : Nat} :
    IsOpen code j ↔ (code[j]? = some (some '(') ∨ code[j]? = some (some '[')) ∧
      unmatched (code.drop (j + 1)) = 0 := by
  have hpending : unmatched (code.drop (j + 1)) = 0 ↔ ∀ k,
      closers ((code.drop (j + 1)).take k) ≤ openers ((code.drop (j + 1)).take k) := by
    rw [← Nat.le_zero, unmatched_le_iff]
    rfl
  rw [hpending]
  exact ⟨fun h => ⟨h.opener, h.pending⟩, fun h => ⟨h.1, h.2⟩⟩

instance (code : List (Option Char)) (j : Nat) : Decidable (IsOpen code j) :=
  decidable_of_iff _ isOpen_iff.symm

/-- As long as the bracket stays open, its commas are those with `level` more brackets closed than
opened before them. -/
theorem commasAt_eq (h : unmatched code ≤ level) :
    commasAt level code = (List.range code.length).countP fun m =>
      code[m]? = some (some ',') ∧ closers (code.take m) = openers (code.take m) + level := by
  induction code generalizing level with
  | nil => rfl
  | cons mark code ih =>
    have hfirst : closers [] = openers [] + level ↔ level = 0 := by simp [openers, closers, eq_comm]
    rw [List.length_cons, List.range_succ_eq_map, List.countP_cons, List.countP_map]
    simp only [Function.comp_def, List.getElem?_cons_zero, List.getElem?_cons_succ, List.take_zero,
      List.take_succ_cons, openers_cons, closers_cons, hfirst, Option.some.injEq,
      ← roleOf_eq_separates_iff]
    simp only [unmatched] at h
    cases hrole : roleOf mark with
    | opens =>
      simp only [hrole] at h
      have hrest : unmatched code ≤ level + 1 := Nat.sub_le_iff_le_add.mp h
      simp [commasAt, hrole, ih hrest, Nat.add_assoc, Nat.add_comm 1]
    | closes =>
      simp only [hrole] at h
      cases level with
      | zero => omega
      | succ level =>
        have hrest : unmatched code ≤ level := Nat.le_of_succ_le_succ h
        simp [commasAt, hrole, ih hrest, ← Nat.add_assoc]
    | separates =>
      simp only [hrole] at h
      cases level with
      | zero => simp [commasAt, hrole, ih h]
      | succ level => simp [commasAt, hrole, ih h]
    | nothing =>
      simp only [hrole] at h
      simp [commasAt, hrole, ih h]

theorem commasIn_eq (h : unmatched code = 0) : commasIn code = commasAt 0 code :=
  (commasAt_eq (Nat.le_zero.mpr h)).symm

theorem commasBehind_le_length (text : List Char) (j : Nat) :
    commasBehind text j ≤ text.length := by
  calc commasBehind text j
    _ ≤ (List.range ((codeOf text).drop (j + 1)).length).length := List.countP_le_length
    _ = text.length - (j + 1) := by
      rw [List.length_range, List.length_drop, codeOf, List.length_mapIdx]
    _ ≤ text.length := Nat.sub_le _ _

theorem modeAfter_replicate_comma (n : Nat) : modeAfter .code (List.replicate n ',') = .code := by
  induction n with
  | zero => rfl
  | succ n ih => exact ih

theorem codeFrom_replicate_comma (n : Nat) :
    codeFrom .code (List.replicate n ',') = List.replicate n (some ',') := by
  induction n with
  | zero => rfl
  | succ n ih => exact congrArg (some ',' :: ·) ih

theorem unmatched_replicate_comma (n : Nat) : unmatched (List.replicate n (some ',')) = 0 := by
  induction n with
  | zero => rfl
  | succ n ih => exact ih

theorem commasAt_replicate_comma (n : Nat) : commasAt 0 (List.replicate n (some ',')) = n := by
  induction n with
  | zero => rfl
  | succ n ih => exact congrArg (· + 1) ih

end AutoItDocs.CallContext
