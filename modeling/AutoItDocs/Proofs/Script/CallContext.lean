import AutoItDocs.Proofs.Text.Runs
import AutoItDocs.Proofs.Script.Brackets
/-!
The call that the reader of call contexts finds. Main statement: it is the last bracket with a
callee that is not closed, and its commas are those outside of any bracket behind it, as far as
`UInt32` can count them.
-/
namespace AutoItDocs.CallContext

/-- The parenthesis with the index `j` is open, and `name` is called with it. -/
structure IsCall (text : List Char) (j : Nat) (name : List Char) : Prop where
  parenthesis : (codeOf text)[j]? = some (some '(')
  isOpen : IsOpen (codeOf text) j
  callee : calleeBefore? (text.take j).reverse = some name

theorem isCall_iff {text name : List Char} {j : Nat} :
    IsCall text j name ↔ (codeOf text)[j]? = some (some '(') ∧ IsOpen (codeOf text) j ∧
      calleeBefore? (text.take j).reverse = some name :=
  ⟨fun h => ⟨h.parenthesis, h.isOpen, h.callee⟩, fun h => ⟨h.1, h.2.1, h.2.2⟩⟩

instance (text : List Char) (j : Nat) (name : List Char) : Decidable (IsCall text j name) :=
  decidable_of_iff _ isCall_iff.symm

/-- The frame that a bracket opens, with the commas that follow directly inside. They are counted
without a bound in `commasAt`; the frame has that number modulo `UInt32.size`. -/
def frameOf (before : List Char) (mark : Option Char) (after : List (Option Char)) : Frame :=
  ⟨if mark = some '(' then calleeBefore? before else none, .ofNat (commasAt 0 after)⟩

/-- The frames that are opened in a text and open at its end, innermost first. -/
def openFrames (before : List Char) (mode : Mode) : List Char → List Frame
  | [] => []
  | c :: rest =>
    let after := codeFrom (stepMode mode c) rest
    openFrames (c :: before) (stepMode mode c) rest ++
      if roleOf (markOf mode c) = .opens ∧ unmatched after = 0 then
        [frameOf before (markOf mode c) after]
      else []

/-- Frames that are open where the code starts, with the commas that it has for them. -/
def addCommas (level : Nat) (code : List (Option Char)) : List Frame → List Frame
  | [] => []
  | frame :: outer =>
    { frame with commas := frame.commas + .ofNat (commasAt level code) } ::
      addCommas (level + 1) code outer

variable {text before name : List Char} {mode : Mode} {quote c : Char} {j : Nat} {commas : UInt32}

theorem stepFrames_eq (before : List Char) (frames : List Frame) (c : Char) :
    stepFrames before frames c =
      match roleOf (some c) with
      | .opens => ⟨if c = '(' then calleeBefore? before else none, 0⟩ :: frames
      | .closes => frames.tail
      | .separates => countComma frames
      | .nothing => frames := by
  simp only [stepFrames, roleOf, Option.some.injEq]
  split_ifs <;> simp_all

/-- Only code changes the frames; a quote or a semicolon does not change them either. -/
theorem step_frames (r : Reader) (c : Char) :
    (step r c).frames =
      match roleOf (markOf r.mode c) with
      | .opens => frameOf r.before (markOf r.mode c) [] :: r.frames
      | .closes => r.frames.tail
      | .separates => countComma r.frames
      | .nothing => r.frames := by
  by_cases hmode : r.mode = .code
  · by_cases hplain : IsPlain c
    · simp [step, hmode, stepFrames_eq, markOf, hplain, frameOf, commasAt]
    · have hrole : roleOf (some c) = .nothing := by
        have hc : c = '"' ∨ c = '\'' ∨ c = ';' := by
          simpa [IsPlain, IsQuote, or_assoc, or_iff_not_imp_left] using hplain
        rcases hc with rfl | rfl | rfl <;> rfl
      simp [step, hmode, stepFrames_eq, markOf, hplain, hrole, roleOf_none]
  · simp [step, hmode, markOf, roleOf_none]

/-- Outer frames get the same commas when the counts agree from the level of the innermost on. -/
theorem addCommas_congr {code code' : List (Option Char)} {level level' : Nat}
    (h : ∀ k, commasAt (level + k) code = commasAt (level' + k) code') (frames : List Frame) :
    addCommas level code frames = addCommas level' code' frames := by
  induction frames generalizing level level' with
  | nil => rfl
  | cons frame outer ih =>
    have hinner : commasAt level code = commasAt level' code' := h 0
    have houter : ∀ k, commasAt (level + 1 + k) code = commasAt (level' + 1 + k) code' := by
      intro k
      rw [Nat.add_right_comm, Nat.add_right_comm level']
      exact h (k + 1)
    rw [addCommas, addCommas, hinner, ih houter]

theorem addCommas_nil (level : Nat) (frames : List Frame) : addCommas level [] frames = frames := by
  induction frames generalizing level with
  | nil => rfl
  | cons frame outer ih => simp [addCommas, commasAt, ih]

theorem readOn_frames (r : Reader) (text : List Char) :
    (readOn r text).frames = openFrames r.before r.mode text ++
      (addCommas 0 (codeFrom r.mode text) r.frames).drop (unmatched (codeFrom r.mode text)) := by
  induction text generalizing r with
  | nil => simp [readOn, openFrames, codeFrom, unmatched, addCommas_nil]
  | cons c text ih =>
    have hmode : (step r c).mode = stepMode r.mode c := rfl
    have hbefore : (step r c).before = c :: r.before := rfl
    change (readOn (step r c) text).frames = _
    rw [ih, hmode, hbefore, step_frames]
    simp only [openFrames, codeFrom, unmatched]
    generalize codeFrom (stepMode r.mode c) text = after
    generalize markOf r.mode c = mark
    rw [List.append_assoc, List.append_cancel_left_eq]
    cases hrole : roleOf mark with
    | opens =>
      have hlevel : ∀ k, commasAt (0 + k) (mark :: after) = commasAt (1 + k) after := by
        intro k
        simp [commasAt, hrole, Nat.add_comm]
      simp only [addCommas, addCommas_congr hlevel]
      -- The frame stays where nothing closes it, and is the first one dropped otherwise.
      cases hunmatched : unmatched after with
      | zero => simp [frameOf, commasAt]
      | succ n => simp
    | closes =>
      have hlevel : ∀ k, commasAt (1 + k) (mark :: after) = commasAt (0 + k) after := by
        intro k
        simp [commasAt, hrole, Nat.add_comm]
      cases hframes : r.frames with
      | nil => simp [addCommas]
      | cons frame outer => simp [addCommas, addCommas_congr hlevel]
    | separates =>
      have hlevel : ∀ k, commasAt (1 + k) (mark :: after) = commasAt (1 + k) after := by
        intro k
        simp [commasAt, hrole, Nat.add_comm]
      cases hframes : r.frames with
      | nil => simp [addCommas, countComma]
      | cons frame outer =>
        simp only [addCommas, countComma, addCommas_congr hlevel, commasAt, hrole]
        simp [UInt32.add_assoc, UInt32.add_comm]
    | nothing =>
      have hlevel : ∀ k, commasAt (0 + k) (mark :: after) = commasAt (0 + k) after := by
        intro k
        simp [commasAt, hrole]
      simp [addCommas_congr hlevel]

theorem read_frames (text : List Char) : (read text).frames = openFrames [] .code text := by
  have h := readOn_frames {} text
  rwa [addCommas, List.drop_nil, List.append_nil] at h

theorem innermost?_append (inner outer : List Frame) :
    innermost? (inner ++ outer) = (innermost? inner).or (innermost? outer) := by
  induction inner with
  | nil => rfl
  | cons frame inner ih =>
    obtain ⟨callee, commas⟩ := frame
    cases callee with
    | none => exact ih
    | some name => rfl

/-- The parenthesis with the index `j` in a text that is read on is open at the end, and `name` is
called with it. -/
structure CallFrom (before : List Char) (mode : Mode) (text : List Char) (j : Nat)
    (name : List Char) : Prop where
  parenthesis : (codeFrom mode text)[j]? = some (some '(')
  isOpen : unmatched ((codeFrom mode text).drop (j + 1)) = 0
  callee : calleeBefore? ((text.take j).reverse ++ before) = some name

theorem callFrom_succ_iff :
    CallFrom before mode (c :: text) (j + 1) name ↔
      CallFrom (c :: before) (stepMode mode c) text j name := by
  have htake : ((c :: text).take (j + 1)).reverse ++ before =
      (text.take j).reverse ++ c :: before := by simp
  constructor
  · rintro ⟨hparenthesis, hopen, hcallee⟩
    exact ⟨hparenthesis, hopen, htake ▸ hcallee⟩
  · rintro ⟨hparenthesis, hopen, hcallee⟩
    exact ⟨hparenthesis, hopen, htake.symm ▸ hcallee⟩

theorem callFrom_zero_iff :
    CallFrom before mode (c :: text) 0 name ↔ markOf mode c = some '(' ∧
      unmatched (codeFrom (stepMode mode c) text) = 0 ∧ calleeBefore? before = some name := by
  constructor
  · rintro ⟨hparenthesis, hopen, hcallee⟩
    exact ⟨Option.some.inj hparenthesis, hopen, hcallee⟩
  · rintro ⟨hparenthesis, hopen, hcallee⟩
    exact ⟨congrArg some hparenthesis, hopen, hcallee⟩

/-- A bracket that stays open counts unless there is a call behind it. -/
theorem innermost?_openFrames_cons (before : List Char) (mode : Mode) (c : Char)
    (text : List Char) :
    let after := codeFrom (stepMode mode c) text
    innermost? (openFrames before mode (c :: text)) =
      (innermost? (openFrames (c :: before) (stepMode mode c) text)).or
        (if markOf mode c = some '(' ∧ unmatched after = 0 then
          (calleeBefore? before).map (·, .ofNat (commasAt 0 after)) else none) := by
  intro after
  simp only [openFrames, innermost?_append, roleOf_eq_opens_iff]
  congr 1
  by_cases hopen : unmatched after = 0
  · by_cases hparenthesis : markOf mode c = some '('
    · simp only [after, hopen, hparenthesis, true_or, and_self, if_true, frameOf]
      cases calleeBefore? before <;> rfl
    · by_cases hbracket : markOf mode c = some '['
      · simp [after, hopen, hbracket, frameOf, innermost?]
      · simp [hparenthesis, hbracket, innermost?]
  · simp [after, hopen, innermost?]

theorem not_callFrom_of_innermost?_eq_none (h : innermost? (openFrames before mode text) = none)
    (j : Nat) (name : List Char) : ¬ CallFrom before mode text j name := by
  induction text generalizing before mode j with
  | nil =>
    rintro ⟨hparenthesis, -, -⟩
    cases hparenthesis
  | cons c text ih =>
    rw [innermost?_openFrames_cons, Option.or_eq_none_iff] at h
    cases j with
    | zero =>
      intro hcall
      obtain ⟨hparenthesis, hopen, hcallee⟩ := callFrom_zero_iff.mp hcall
      simp [hparenthesis, hopen, hcallee] at h
    | succ j => exact fun hcall => ih h.1 j (callFrom_succ_iff.mp hcall)

theorem exists_callFrom_of_innermost?_eq_some
    (h : innermost? (openFrames before mode text) = some (name, commas)) :
    ∃ j, CallFrom before mode text j name ∧
      (∀ k > j, ∀ other, ¬ CallFrom before mode text k other) ∧
      commas = .ofNat (commasAt 0 ((codeFrom mode text).drop (j + 1))) := by
  induction text generalizing before mode with
  | nil => cases h
  | cons c text ih =>
    rw [innermost?_openFrames_cons, Option.or_eq_some_iff] at h
    rcases h with hinner | ⟨hinner, houter⟩
    · obtain ⟨j, hcall, hlast, hcommas⟩ := ih hinner
      refine ⟨j + 1, callFrom_succ_iff.mpr hcall, ?_, hcommas⟩
      intro k hk other hother
      obtain ⟨k, rfl⟩ := Nat.exists_eq_add_one_of_ne_zero (Nat.ne_zero_of_lt hk)
      exact hlast k (by omega) other (callFrom_succ_iff.mp hother)
    · obtain ⟨⟨hparenthesis, hopen⟩, hcall⟩ := Option.ite_none_right_eq_some.mp houter
      obtain ⟨callee, hcallee, hpair⟩ := Option.map_eq_some_iff.mp hcall
      cases hpair
      refine ⟨0, callFrom_zero_iff.mpr ⟨hparenthesis, hopen, hcallee⟩, ?_, rfl⟩
      intro k hk other hother
      obtain ⟨k, rfl⟩ := Nat.exists_eq_add_one_of_ne_zero (Nat.ne_zero_of_lt hk)
      exact not_callFrom_of_innermost?_eq_none hinner k other (callFrom_succ_iff.mp hother)

theorem isCall_iff_callFrom : IsCall text j name ↔ CallFrom [] .code text j name := by
  rw [isCall_iff, isOpen_iff, codeOf_eq]
  constructor
  · rintro ⟨hparenthesis, ⟨-, hopen⟩, hcallee⟩
    exact ⟨hparenthesis, hopen, by rwa [List.append_nil]⟩
  · rintro ⟨hparenthesis, hopen, hcallee⟩
    rw [List.append_nil] at hcallee
    exact ⟨hparenthesis, ⟨.inl hparenthesis, hopen⟩, hcallee⟩

/-- No call is open behind the one with the index `j`. -/
structure IsLastCall (text : List Char) (j : Nat) (name : List Char) : Prop where
  isCall : IsCall text j name
  last : ∀ k > j, ∀ other, ¬ IsCall text k other

theorem exists_isLastCall
    (h : innermost? (openFrames [] .code text) = some (name, commas)) :
    ∃ j, IsLastCall text j name ∧ commas = .ofNat (commasBehind text j) := by
  obtain ⟨j, hcall, hlast, rfl⟩ := exists_callFrom_of_innermost?_eq_some h
  refine ⟨j, ⟨isCall_iff_callFrom.mpr hcall, fun k hk other hother => ?_⟩, ?_⟩
  · exact hlast k hk other (isCall_iff_callFrom.mp hother)
  · rw [commasBehind, codeOf_eq, commasIn_eq hcall.isOpen]

theorem IsLastCall.unique {name name' : List Char} {j' : Nat} (h : IsLastCall text j name)
    (h' : IsLastCall text j' name') : j = j' ∧ name = name' := by
  obtain rfl : j = j' := by
    rcases Nat.lt_trichotomy j j' with hlt | heq | hlt
    · exact absurd h'.isCall (h.last j' hlt name')
    · exact heq
    · exact absurd h.isCall (h'.last j hlt name)
  have hcallee := h.isCall.callee
  rw [h'.isCall.callee] at hcallee
  exact ⟨rfl, (Option.some.inj hcallee).symm⟩

theorem find?_of_literal (h : Lexes text (.literal quote)) : find? text = none := by
  rw [lexes_iff, ← read_mode] at h
  simp only [find?, h]

theorem find?_of_not_literal (h : ∀ quote, ¬ Lexes text (.literal quote)) :
    find? text = innermost? (openFrames [] .code text) := by
  simp only [lexes_iff, ← read_mode] at h
  cases hmode : (read text).mode with
  | literal quote => exact absurd hmode (h quote)
  | code | comment => simp only [find?, hmode, read_frames]

theorem existsUnique_lexes (text : List Char) : ∃! mode, Lexes text mode := by
  obtain ⟨mode, hmode⟩ := exists_lexes text
  exact ⟨mode, hmode, fun other hother => (lexes_iff.mp hother).symm.trans (lexes_iff.mp hmode)⟩

theorem innermost?_eq_none_iff :
    innermost? (openFrames [] .code text) = none ↔ ∀ j name, ¬ IsCall text j name := by
  constructor
  · intro hnone j name hcall
    exact not_callFrom_of_innermost?_eq_none hnone j name (isCall_iff_callFrom.mp hcall)
  · intro hnone
    rw [Option.eq_none_iff_forall_ne_some]
    rintro ⟨name, commas⟩ hsome
    obtain ⟨j, hlast, -⟩ := exists_isLastCall hsome
    exact hnone j name hlast.isCall

theorem find?_eq_some_iff_isLastCall :
    find? text = some (name, commas) ↔ (∀ quote, ¬ Lexes text (.literal quote)) ∧
      ∃ j, IsLastCall text j name ∧ commas = .ofNat (commasBehind text j) := by
  constructor
  · intro hfind
    have hcode : ∀ quote, ¬ Lexes text (.literal quote) := by
      intro quote hliteral
      rw [find?_of_literal hliteral] at hfind
      cases hfind
    rw [find?_of_not_literal hcode] at hfind
    exact ⟨hcode, exists_isLastCall hfind⟩
  · rintro ⟨hcode, j, hlast, rfl⟩
    rw [find?_of_not_literal hcode]
    cases hframes : innermost? (openFrames [] .code text) with
    | none => exact absurd hlast.isCall (innermost?_eq_none_iff.mp hframes j name)
    | some found =>
      obtain ⟨j', hlast', hcommas⟩ := exists_isLastCall hframes
      obtain ⟨rfl, rfl⟩ := hlast.unique hlast'
      rw [← hcommas]

theorem toNat_commas_eq_iff (h : find? text = some (name, commas))
    (hlast : IsLastCall text j name) :
    commas.toNat = commasBehind text j ↔ commasBehind text j < UInt32.size := by
  obtain ⟨-, j', hlast', rfl⟩ := find?_eq_some_iff_isLastCall.mp h
  obtain ⟨rfl, -⟩ := hlast.unique hlast'
  constructor
  · intro hexact
    rw [← hexact]
    exact UInt32.toNat_lt_size _
  · exact UInt32.toNat_ofNat_of_lt

theorem find?_eq_none_iff_forall_not_isCall :
    find? text = none ↔
      (∃ quote, Lexes text (.literal quote)) ∨ ∀ j name, ¬ IsCall text j name := by
  by_cases hliteral : ∃ quote, Lexes text (.literal quote)
  · obtain ⟨quote, h⟩ := hliteral
    exact iff_of_true (find?_of_literal h) (.inl ⟨quote, h⟩)
  · rw [find?_of_not_literal (not_exists.mp hliteral), or_iff_right hliteral,
      innermost?_eq_none_iff]

/-- A call in which only commas are typed. -/
theorem find?_replicate (n : Nat) :
    let text := 'f' :: '(' :: List.replicate n ','
    IsLastCall text 1 ['f'] ∧ commasBehind text 1 = n ∧ find? text = some (['f'], .ofNat n) := by
  intro text
  have hcode : codeOf text = some 'f' :: some '(' :: List.replicate n (some ',') := by
    rw [codeOf_eq, ← codeFrom_replicate_comma]
    rfl
  have hopen : unmatched (List.replicate n (some ',')) = 0 := unmatched_replicate_comma n
  have hlast : IsLastCall text 1 ['f'] := by
    refine ⟨?_, fun k hk other hcall => ?_⟩
    · rw [isCall_iff, isOpen_iff, hcode]
      have hcallee : calleeBefore? ['f'] = some ['f'] := by decide
      exact ⟨rfl, ⟨.inl rfl, hopen⟩, hcallee⟩
    · obtain ⟨k, rfl⟩ := Nat.exists_eq_add_of_le hk
      have hparenthesis := hcall.parenthesis
      rw [hcode, Nat.add_comm] at hparenthesis
      have hcomma := List.eq_of_mem_replicate (List.mem_of_getElem? hparenthesis)
      cases hcomma
  have hcommas : commasBehind text 1 = n := by
    rw [commasBehind, hcode, List.drop_succ_cons, List.drop_succ_cons, List.drop_zero,
      commasIn_eq hopen, commasAt_replicate_comma]
  have houtside : ∀ quote, ¬ Lexes text (.literal quote) := by
    intro quote hliteral
    have hmode : modeAfter .code text = .code := modeAfter_replicate_comma n
    rw [lexes_iff, hmode] at hliteral
    cases hliteral
  refine ⟨hlast, hcommas, find?_eq_some_iff_isLastCall.mpr ⟨houtside, 1, hlast, ?_⟩⟩
  rw [hcommas]

/-- The callee of a bracket is not sought beyond a character that is neither blank there nor part of
a name nor a sigil. -/
theorem calleeBefore?_append_cons (hname : ¬ isNameChar c) (hsigil : c ≠ '$' ∧ c ≠ '@')
    {near far : List Char}
    (htrim : Text.trimStart (near ++ c :: far) = Text.trimStart near ++ c :: far) :
    calleeBefore? (near ++ c :: far) = calleeBefore? near := by
  rw [calleeBefore?, htrim, Text.dropWhile_append_cons_of_neg hname,
    Text.takeWhile_append_cons_of_neg hname, calleeBefore?]
  cases (Text.trimStart near).dropWhile isNameChar with
  | nil => simp [hsigil]
  | cons d rest => rfl

theorem calleeBefore?_append_parenthesis (near far : List Char) :
    calleeBefore? (near ++ '(' :: far) = calleeBefore? near :=
  calleeBefore?_append_cons (by decide) (by decide) (Text.dropWhile_append_cons_of_neg (by decide) _ _)

/-- What stands before a text matters to its frames only by the callees of its parentheses. -/
theorem openFrames_congr {before' : List Char}
    (h : ∀ near rest, text = near ++ '(' :: rest →
      calleeBefore? (near.reverse ++ before) = calleeBefore? (near.reverse ++ before')) :
    openFrames before mode text = openFrames before' mode text := by
  induction text generalizing before before' mode with
  | nil => rfl
  | cons c text ih =>
    have hrest : openFrames (c :: before) (stepMode mode c) text =
        openFrames (c :: before') (stepMode mode c) text := by
      apply ih
      rintro near rest rfl
      simpa using h (c :: near) rest rfl
    have hframe : ∀ after, frameOf before (markOf mode c) after =
        frameOf before' (markOf mode c) after := by
      intro after
      by_cases hmark : markOf mode c = some '('
      · obtain ⟨-, hc⟩ := Option.ite_none_right_eq_some.mp hmark
        obtain rfl : c = '(' := Option.some.inj hc
        have hcallee : calleeBefore? before = calleeBefore? before' := h [] text rfl
        rw [frameOf, frameOf, hcallee]
      · simp only [frameOf, hmark, if_false]
    simp only [openFrames, hrest, hframe]

theorem openFrames_behind_parenthesis (far : List Char) (mode : Mode) (text : List Char) :
    openFrames ('(' :: far) mode text = openFrames [] mode text := by
  apply openFrames_congr
  intro near rest _
  rw [calleeBefore?_append_parenthesis, List.append_nil]

theorem readOn_before (r : Reader) (text : List Char) :
    (readOn r text).before = text.reverse ++ r.before := by
  induction text generalizing r with
  | nil => rfl
  | cons c text ih =>
    change (readOn (step r c) text).before = _
    rw [ih, List.reverse_cons, List.append_assoc]
    rfl

theorem read_before (text : List Char) : (read text).before = text.reverse := by
  rw [read, readOn_before, List.append_nil]

theorem read_append_parenthesis (hcode : Lexes before .code)
    (hcallee : calleeBefore? before.reverse = some name) (text : List Char) :
    read (before ++ '(' :: text) =
      readOn ⟨.code, ⟨some name, 0⟩ :: (read before).frames, '(' :: before.reverse⟩ text := by
  rw [lexes_iff, ← read_mode] at hcode
  have hstep : step (read before) '(' =
      ⟨.code, ⟨some name, 0⟩ :: (read before).frames, '(' :: before.reverse⟩ := by
    simp only [step, hcode, read_before, if_true, stepFrames, hcallee]
    rfl
  rw [read_append, ← hstep]
  rfl

/-- Of what stands before an open call only the name matters. -/
theorem innermost?_read_of_callee (hcode : Lexes before .code)
    (hcallee : calleeBefore? before.reverse = some name)
    (hopen : unmatched (codeFrom .code text) = 0) :
    innermost? (read (before ++ '(' :: text)).frames =
      (innermost? (openFrames [] .code text)).or
        (some (name, .ofNat (commasAt 0 (codeFrom .code text)))) := by
  rw [read_append_parenthesis hcode hcallee, readOn_frames, hopen, innermost?_append,
    openFrames_behind_parenthesis]
  simp [addCommas, innermost?]

theorem IsCall.lexes (h : IsCall (before ++ '(' :: text) before.length name) :
    Lexes before .code := by
  have hparenthesis := h.parenthesis
  simp only [codeOf, List.getElem?_mapIdx, List.getElem?_append_right (Nat.le_refl _), Nat.sub_self,
    List.getElem?_cons_zero, Option.map_some, List.take_left] at hparenthesis
  by_contra hnot
  simp [hnot] at hparenthesis

theorem find?_of_isCall {before' : List Char}
    (h : IsCall (before ++ '(' :: text) before.length name)
    (hcode' : Lexes before' .code) (hcallee' : calleeBefore? before'.reverse = some name) :
    find? (before' ++ '(' :: text) = find? (before ++ '(' :: text) := by
  have hcode := h.lexes
  have hcallee : calleeBefore? before.reverse = some name := by
    have hcallee := h.callee
    rwa [List.take_left] at hcallee
  have hopen : unmatched (codeFrom .code text) = 0 := by
    have hopen := (isCall_iff_callFrom.mp h).isOpen
    have hmode : modeAfter .code (before ++ ['(']) = .code := by
      rw [modeAfter_append, lexes_iff.mp hcode]
      rfl
    have hlength : (before ++ ['(']).length = before.length + 1 := List.length_append
    rwa [codeFrom_drop, List.append_cons, List.take_left' hlength, List.drop_left' hlength,
      hmode] at hopen
  have hframes := innermost?_read_of_callee hcode hcallee hopen
  have hframes' := innermost?_read_of_callee hcode' hcallee' hopen
  have hmode : (read (before' ++ '(' :: text)).mode = (read (before ++ '(' :: text)).mode := by
    rw [read_append_parenthesis hcode hcallee, read_append_parenthesis hcode' hcallee', readOn_mode,
      readOn_mode]
  simp only [find?, hmode, hframes, hframes']

/-- The last call that is not closed at the end of a text is the one that is found there, with the
commas directly inside it, by the one lexing that the text has. They are counted modulo
`UInt32.size`; that is their number exactly when they are fewer, as in every shorter text. What
stands before an open call, such as brackets that are closed and were not opened, matters only by
its name. -/
theorem find?_eq_lastCall (text : List Char) :
    (∃! mode, Lexes text mode) ∧
      (∀ name commas, find? text = some (name, commas) ↔
        (∀ quote, ¬ Lexes text (.literal quote)) ∧
          ∃ j, IsLastCall text j name ∧ commas = .ofNat (commasBehind text j)) ∧
      (∀ name commas j, find? text = some (name, commas) → IsLastCall text j name →
        (commas.toNat = commasBehind text j ↔ commasBehind text j < UInt32.size)) ∧
      (∀ j, commasBehind text j ≤ text.length) ∧
      (find? text = none ↔
        (∃ quote, Lexes text (.literal quote)) ∨ ∀ j name, ¬ IsCall text j name) ∧
      ∀ before after name, text = before ++ '(' :: after → IsCall text before.length name →
        ∀ before', Lexes before' .code → calleeBefore? before'.reverse = some name →
          find? (before' ++ '(' :: after) = find? text := by
  refine ⟨existsUnique_lexes text, fun _ _ => find?_eq_some_iff_isLastCall,
    fun _ _ _ => toNat_commas_eq_iff, commasBehind_le_length text,
    find?_eq_none_iff_forall_not_isCall, ?_⟩
  rintro before after name rfl hcall before' hcode hcallee
  exact find?_of_isCall hcall hcode hcallee

theorem find?_behind_closers :
    IsCall ['f', '(', 'a', ','] 1 ['f'] ∧ Lexes [')', ']', 'f'] .code ∧
      find? [')', ']', 'f', '(', 'a', ','] = find? ['f', '(', 'a', ','] := by
  obtain ⟨-, -, -, -, -, hsame⟩ := find?_eq_lastCall ['f', '(', 'a', ',']
  have hcall : IsCall ['f', '(', 'a', ','] 1 ['f'] := by decide
  have hcode : Lexes [')', ']', 'f'] .code := by decide
  exact ⟨hcall, hcode, hsame ['f'] ['a', ','] ['f'] rfl hcall [')', ']', 'f'] hcode (by decide)⟩

/-- A bracket that is closed and was not opened ends the name of a call. A call with as many commas
as `UInt32.size` is found with none. -/
theorem find?_wraps :
    find? ['_', 'M', 'a', ')', 'x', '('] = some (['x'], 0) ∧
      find? ['_', 'M', 'a', 'x', '('] = some (['_', 'M', 'a', 'x'], 0) ∧
      let text := 'f' :: '(' :: List.replicate UInt32.size ','
      IsLastCall text 1 ['f'] ∧ commasBehind text 1 = UInt32.size ∧
        find? text = some (['f'], 0) := by
  obtain ⟨hlast, hcommas, hfind⟩ := find?_replicate UInt32.size
  have hwrapped : UInt32.ofNat UInt32.size = 0 := by decide
  rw [hwrapped] at hfind
  exact ⟨by decide, by decide, hlast, hcommas, hfind⟩

example : find? [')', 'f', '(', 'a', ',', '[', 'b', ',', 'c', ']', ','] = some (['f'], 2) := by
  decide

end AutoItDocs.CallContext
