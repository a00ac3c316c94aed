import Mathlib.Data.List.Induction
import AutoItDocs.Proofs.Script.Block
import AutoItDocs.Proofs.Script.Callee
import AutoItDocs.Proofs.Script.CallContext
import AutoItDocs.Proofs.Script.Word
/-!
A script read by offsets into its bytes alone, where a part of the text is had by slicing it and so
only between characters. Main statements: at an offset between two characters every slice is there,
and what is read is the word and the call that are read from the characters.
-/
namespace AutoItDocs.ByOffset

open Text

/-- The offset at which a column of a line is reached, which is the end of the line for columns
past it. Columns are counted in 32 bits from `column` on, which is that of `offset`. -/
def columnOffset (character column : UInt32) (offset : Nat) : List Char → Nat
  | [] => offset
  | c :: rest =>
    if character ≤ column then offset
    else columnOffset character (column + .ofNat (units c)) (offset + c.utf8Size) rest

def offsetAt? (index : LineIndex) (position : Position) : Except OffsetError (Option Nat) :=
  match index.lineBounds? position.line with
  | none => .ok none
  | some (start, stop) => do
    let line ← slice index.text start stop
    return some (columnOffset (.ofNat position.character) 0 start line)

def positionAt (index : LineIndex) (offset : Nat) : Except OffsetError Position := do
  let line := index.lineOf offset
  let start := index.starts.getD line 0
  let rest ← slice index.text start (byteLength index.text)
  return ⟨line, unitLength (takeBytes (offset - start) (rest.takeWhile (· ≠ '\n')))⟩

/-- The name in the characters of a word. A sigil takes one byte. -/
def nameIn (kind : WordKind) (spelling : List Char) : Except OffsetError (List Char) :=
  match kind with
  | .function => .ok spelling
  | .variable | .systemMacro => slice spelling 1 (byteLength spelling)

def wordAt? (text : List Char) (offset : Nat) : Except OffsetError (Option Word) :=
  if byteLength text < offset then .ok none
  else do
    let start ← lineStart text offset
    let rest ← slice text offset (byteLength text)
    let line ← slice text start (offset + byteLength (rest.takeWhile (· ≠ '\n')))
    match (Word.scan start line).find? (·.touches offset) with
    | none => return none
    | some word =>
      let spelling ← slice text word.start word.stop
      let name ← nameIn word.kind spelling
      return some { word with name }

/-- Bytes at the end of a text that are letters, digits or underscores. -/
def trailingNameBytes (text : List Char) : Nat :=
  ((text.flatMap String.utf8EncodeChar).reverse.takeWhile fun b => isNameChar (.ofUInt8 b)).length

/-- Offset at which the name at the end of a text starts, blanks behind it left out. -/
def nameStart (text : List Char) : Nat :=
  byteLength (trimEnd text) - trailingNameBytes (trimEnd text)

/-- The callee of a bracket at an offset. -/
def calleeBefore? (text : List Char) (offset : Nat) : Except OffsetError (Option (List Char)) := do
  let before ← slice text 0 offset
  let head := trimEnd before
  if trailingNameBytes head = 0 then return none
  let front ← slice head 0 (nameStart before)
  if (front.getLast?.bind WordKind.ofSigil?).isSome then return none
  return some (← slice head (nameStart before) (byteLength head))

/-- Open brackets behind the character `c`, which is at an offset. -/
def stepFrames (text : List Char) (offset : Nat) (frames : List CallContext.Frame) (c : Char) :
    Except OffsetError (List CallContext.Frame) :=
  if c = '(' then do return ⟨← calleeBefore? text offset, 0⟩ :: frames
  else .ok (CallContext.stepFrames [] frames c)

/-- Reads the rest of a text from an offset on. -/
def readOn (text : List Char) (offset : Nat) (mode : CallContext.Mode)
    (frames : List CallContext.Frame) :
    List Char → Except OffsetError (CallContext.Mode × List CallContext.Frame)
  | [] => .ok (mode, frames)
  | c :: rest => do
    let next ← if mode = .code then stepFrames text offset frames c else .ok frames
    readOn text (offset + c.utf8Size) (CallContext.stepMode mode c) next rest

/-- Offsets at which a callee is sought when the rest of a text is read from an offset on. -/
def bracketOffsets (offset : Nat) (mode : CallContext.Mode) : List Char → List Nat
  | [] => []
  | c :: rest =>
    let further := bracketOffsets (offset + c.utf8Size) (CallContext.stepMode mode c) rest
    if mode = .code ∧ c = '(' then offset :: further else further

/-- The call that is open at the end of a text. -/
def find? (text : List Char) : Except OffsetError (Option (List Char × UInt32)) := do
  let (mode, frames) ← readOn text 0 .code [] text
  match mode with
  | .literal _ => return none
  | _ => return CallContext.innermost? frames

variable {index : LineIndex} {text above line below before after name front rest : List Char}
  {number offset : Nat} {position : Position} {character column : UInt32} {c : Char}

theorem units_le_utf8Size (c : Char) : units c ≤ c.utf8Size := by
  rw [units]
  split_ifs with h
  · exact c.utf8Size_pos
  · have hsize : c.utf8Size = 4 := by
      rw [Char.utf8Size_eq_four_iff, UInt32.lt_iff_toNat_lt]
      exact Nat.lt_of_succ_le (Nat.not_lt.mp h)
    omega

theorem unitLength_le_byteLength (text : List Char) : unitLength text ≤ byteLength text := by
  induction text with
  | nil => exact Nat.le_refl 0
  | cons c text ih => exact Nat.add_le_add (units_le_utf8Size c) ih

/-- No column of the line overflows, so the count in 32 bits is a cut in units. -/
theorem columnOffset_eq (h : column.toNat + unitLength line < UInt32.size) :
    columnOffset character column offset line =
      offset + byteLength (takeUnits (character.toNat - column.toNat) line) := by
  induction line generalizing column offset with
  | nil => simp [columnOffset, takeUnits, takeWidth]
  | cons c line ih =>
    rw [unitLength_cons] at h
    rw [columnOffset]
    by_cases hreached : character ≤ column
    · have hle : character.toNat ≤ column.toNat := UInt32.le_iff_toNat_le.mp hreached
      rw [if_pos hreached, Nat.sub_eq_zero_of_le hle, takeUnits, takeWidth_zero]
      rfl
    · have hlt : column.toNat < character.toNat := by
        rwa [UInt32.not_le, UInt32.lt_iff_toNat_lt] at hreached
      have hfits : column.toNat + units c < UInt32.size := by omega
      have hunits : units c < UInt32.size := Nat.lt_of_add_left_lt hfits
      have hnext : (column + .ofNat (units c)).toNat = column.toNat + units c := by
        rw [UInt32.toNat_add, UInt32.toNat_ofNat_of_lt' hunits]
        exact Nat.mod_eq_of_lt hfits
      rw [if_neg hreached, ih (by omega), hnext, takeUnits, takeUnits,
        takeWidth_cons (by omega), byteLength_cons, Nat.sub_sub, Nat.add_assoc]

theorem offsetAt?_eq (hsize : byteLength index.text < UInt32.size)
    (hcharacter : position.character < UInt32.size) :
    offsetAt? index position = .ok (index.offsetAt? position) := by
  cases hbounds : index.lineBounds? position.line with
  | none => simp only [offsetAt?, LineIndex.offsetAt?, hbounds, Option.map_none]
  | some bounds =>
    obtain ⟨offset, hoffset⟩ : ∃ offset, index.offsetAt? position = some offset := by
      simp [LineIndex.offsetAt?, hbounds]
    obtain ⟨above, line, below, hline, rfl⟩ := LineIndex.exists_isLine_of_offsetAt? hoffset
    obtain rfl : (byteLength above, byteLength above + byteLength line) = bounds := by
      rwa [LineIndex.lineBounds?_eq hline, Option.some.injEq] at hbounds
    have hslice : slice index.text (byteLength above) (byteLength above + byteLength line) =
        .ok line := by
      rw [hline.text_eq, slice_append]
    have hcolumn : (0 : UInt32).toNat + unitLength line < UInt32.size := by
      have hunits := unitLength_le_byteLength line
      have htext := congrArg byteLength hline.text_eq
      rw [byteLength_append, byteLength_append] at htext
      have hzero : (0 : UInt32).toNat = 0 := rfl
      omega
    simp only [offsetAt?, hbounds, hslice, bind, Except.bind, pure, Except.pure, hoffset]
    rw [columnOffset_eq hcolumn, UInt32.toNat_ofNat_of_lt' hcharacter]
    rfl

theorem positionAt_eq (index : LineIndex) (offset : Nat) :
    positionAt index offset = .ok (index.positionAt offset) := by
  obtain ⟨number, above, line, below, h, hstart, hstop⟩ := exists_isLine_of_offset index.text offset
  have hbegin : index.starts.getD number 0 = byteLength above := by
    rw [LineIndex.starts_getD, h.lineStarts_getElem?, Option.getD_some]
  have hslice : slice index.text (byteLength above) (byteLength index.text) =
      .ok (line ++ below) := by
    rw [h.text_eq, slice_right]
  simp only [positionAt, LineIndex.lineOf_eq h hstart hstop, hbegin, hslice, h.takeWhile_eq, bind,
    Except.bind, pure, Except.pure]
  rw [LineIndex.positionAt_eq h hstart hstop]

theorem lineStart_eq (h : IsLine text number above (before ++ after) below) :
    lineStart text (byteLength above + byteLength before) = .ok (byteLength above) := by
  have hinside := h.inside
  rw [List.mem_append, not_or] at hinside
  rw [h.text_eq, ← byteLength_append]
  rcases h.above_cases with rfl | ⟨front, rfl⟩
  · have hstart := lineStart_of_not_mem hinside.1 (after ++ below)
    simpa using hstart
  · have hstart := lineStart_append_cons hinside.1 front (after ++ below)
    have hlength : byteLength (front ++ ['\n']) = byteLength front + 1 := byteLength_append _ _
    rw [hlength]
    simpa using hstart

theorem nameIn_eq (w : Word) : nameIn w.kind w.spelling = .ok w.name := by
  rw [Word.spelling]
  cases w.kind with
  | function => rfl
  | systemMacro => exact slice_right ['@'] w.name
  | _ => exact slice_right ['$'] w.name

theorem slice_line (h : IsLine text number above (before ++ after) below) :
    slice text (byteLength above) (byteLength above + byteLength before + byteLength after) =
      .ok (before ++ after) := by
  rw [Nat.add_assoc, ← byteLength_append, h.text_eq, slice_append]

theorem slice_rest (h : IsLine text number above (before ++ after) below) :
    slice text (byteLength above + byteLength before) (byteLength text) = .ok (after ++ below) := by
  have hslice := slice_right (above ++ before) (after ++ below)
  rwa [byteLength_append above before, List.append_assoc above, ← List.append_assoc before,
    ← h.text_eq] at hslice

theorem takeWhile_rest (h : IsLine text number above (before ++ after) below) :
    (after ++ below).takeWhile (· ≠ '\n') = after := by
  apply takeWhile_append_exact
  · intro c hc
    simpa using fun he : c = '\n' => h.inside (he ▸ List.mem_append_right before hc)
  · intro c hc
    simpa using h.closes c hc

/-- A word is spelled between its offsets. -/
theorem slice_word {w : Word} (h : IsToken text w) : slice text w.start w.stop = .ok w.spelling := by
  obtain ⟨front, rest, htext, hstart, hstop⟩ := h.exists_text_eq
  rw [← hstart, ← hstop, htext, slice_append]

theorem wordAt?_eq (h : IsBoundary text offset) : wordAt? text offset = Word.at? text offset := by
  obtain ⟨answer, hat, hanswer⟩ := Word.exists_isWordAt_iff h
  obtain ⟨above, before, below, hleft, -, hline⟩ :=
    exists_isLine_of_cut (takeBytes offset text) (dropBytes offset text)
  rw [takeBytes_append_dropBytes] at hline
  generalize (dropBytes offset text).takeWhile (· ≠ '\n') = after at hline
  obtain rfl : byteLength above + byteLength before = offset := by
    rw [← byteLength_append, ← hleft]
    exact h
  have hpast : ¬ byteLength text < byteLength above + byteLength before := by
    rw [hline.text_eq]
    simp only [byteLength_append]
    omega
  -- Both read the words of the line; only the one that is found is sliced once more.
  rw [Word.at?_eq hline, Except.ok.injEq] at hat
  rw [Word.at?_eq hline, wordAt?, if_neg hpast, lineStart_eq hline]
  simp only [bind, Except.bind, pure, Except.pure, slice_rest hline, takeWhile_rest hline,
    slice_line hline, hat]
  cases answer with
  | none => rfl
  | some w =>
    have htoken := ((hanswer w).mp rfl).isToken
    simp only [slice_word htoken, nameIn_eq]

theorem toNat_ofUInt8 (b : UInt8) : (Char.ofUInt8 b).toNat = b.toNat := UInt8.toNat_toUInt32 b

/-- A character is its only byte, or it is in no name and neither is its last byte. -/
theorem utf8EncodeChar_cases (c : Char) :
    (∃ b, String.utf8EncodeChar c = [b] ∧ Char.ofUInt8 b = c) ∨
      ¬ isNameChar c ∧ ∃ bytes b, String.utf8EncodeChar c = bytes ++ [b] ∧
        ¬ isNameChar (.ofUInt8 b) := by
  have hval : c.val.toNat = c.toNat := rfl
  rw [String.utf8EncodeChar]
  simp only [hval]
  by_cases hsingle : c.toNat ≤ 0x7f
  · refine .inl ⟨.ofNat c.toNat, if_pos hsingle, ?_⟩
    apply Char.ext
    apply UInt32.toNat_inj.mp
    change (Char.ofUInt8 _).toNat = c.toNat
    rw [toNat_ofUInt8, UInt8.toNat_ofNat', Nat.mod_eq_of_lt (by omega)]
  · -- The last byte of an encoding of more than one byte is above those of the names.
    have hlast : ¬ isNameChar (.ofUInt8 (.ofNat (c.toNat % 0x40 + 0x80))) := by
      intro hname
      have hrange := (toNat_of_isNameChar hname).2
      rw [toNat_ofUInt8, UInt8.toNat_ofNat'] at hrange
      omega
    refine .inr ⟨fun hname => ?_, ?_⟩
    · have hrange := (toNat_of_isNameChar hname).2
      omega
    · rw [if_neg hsingle]
      split_ifs
      · exact ⟨[_], _, rfl, hlast⟩
      · exact ⟨[_, _], _, rfl, hlast⟩
      · exact ⟨[_, _, _], _, rfl, hlast⟩

theorem forall_names_utf8EncodeChar (h : ∀ c ∈ name, isNameChar c) :
    (name.flatMap String.utf8EncodeChar).length = name.length ∧
      ∀ b ∈ name.flatMap String.utf8EncodeChar, isNameChar (.ofUInt8 b) := by
  induction name with
  | nil => simp
  | cons c name ih =>
    rw [List.forall_mem_cons] at h
    obtain ⟨hlength, hnames⟩ := ih h.2
    rcases utf8EncodeChar_cases c with ⟨b, hbytes, hb⟩ | ⟨hc, -⟩
    · rw [List.flatMap_cons, hbytes, List.singleton_append, List.length_cons, hlength,
        List.forall_mem_cons, hb]
      exact ⟨rfl, h.1, hnames⟩
    · exact absurd h.1 hc

/-- The bytes of names are counted as the characters are. -/
theorem trailingNameBytes_append (hname : ∀ c ∈ name, isNameChar c)
    (hfront : ∀ c ∈ front.getLast?, ¬ isNameChar c) :
    trailingNameBytes (front ++ name) = name.length := by
  obtain ⟨hlength, hbytes⟩ := forall_names_utf8EncodeChar hname
  have hborder : ∀ b ∈ (front.flatMap String.utf8EncodeChar).reverse.head?,
      ¬ isNameChar (.ofUInt8 b) := by
    cases front using List.reverseRecOn with
    | nil => simp
    | append_singleton front c =>
      rw [List.getLast?_concat] at hfront
      rcases utf8EncodeChar_cases c with ⟨b, hb, rfl⟩ | ⟨-, bytes, b, hb, hlast⟩
      · simpa [hb] using hfront
      · simpa [hb] using hlast
  rw [trailingNameBytes, List.flatMap_append, List.reverse_append,
    takeWhile_append_exact (by simpa using hbytes) hborder, List.length_reverse, hlength]

/-- The name at the end of a text without its blanks, and what stands before it. -/
theorem exists_trimEnd_eq (before : List Char) :
    ∃ front name, trimEnd before = front ++ name ∧ trailingNameBytes (front ++ name) = name.length ∧
      nameStart before = byteLength front ∧ CallContext.calleeBefore? before.reverse =
        if name ≠ [] ∧ front.getLast?.bind WordKind.ofSigil? = none then some name else none := by
  obtain ⟨blanks, run, rest, hbefore, hfront⟩ := CallContext.exists_isFront before.reverse
  have hnames : ∀ c ∈ run.reverse, isNameChar c := by simpa using hfront.names
  have hopens : ∀ c ∈ rest.reverse.getLast?, ¬ isNameChar c := by simpa using hfront.opens
  have htrim : trimEnd before = rest.reverse ++ run.reverse := by
    have htrimStart := hfront.trimStart_eq
    rw [← hbefore, trimStart] at htrimStart
    rw [trimEnd, htrimStart, List.reverse_append]
  have hbytes := trailingNameBytes_append hnames hopens
  refine ⟨rest.reverse, run.reverse, htrim, hbytes, ?_, ?_⟩
  · rw [nameStart, htrim, hbytes, byteLength_append, byteLength_of_names hnames,
      Nat.add_sub_cancel_right]
  · rw [hbefore, CallContext.calleeBefore?_eq hfront, List.getLast?_reverse]
    simp only [ne_eq, List.reverse_eq_nil_iff]

theorem calleeBefore?_eq (before after : List Char) :
    calleeBefore? (before ++ after) (byteLength before) =
      .ok (CallContext.calleeBefore? before.reverse) := by
  obtain ⟨front, name, htrim, hbytes, hstart, hcallee⟩ := exists_trimEnd_eq before
  rw [hcallee]
  simp only [calleeBefore?, slice_left, slice_right, htrim, hbytes, hstart, bind, Except.bind, pure,
    Except.pure, List.length_eq_zero_iff]
  by_cases hname : name = []
  · simp [hname]
  · cases hsigil : front.getLast?.bind WordKind.ofSigil? <;> simp [hname]

/-- Neither the name in front of a bracket nor the blanks behind it are divided. -/
theorem isBoundary_nameStart (before after : List Char) :
    IsBoundary (before ++ after) (nameStart before) := by
  obtain ⟨front, name, htrim, -, hstart, -⟩ := exists_trimEnd_eq before
  obtain ⟨blanks, hbefore⟩ : trimEnd before <+: before := by
    have hsuffix : trimStart before.reverse <:+ before.reverse := List.dropWhile_suffix _
    rw [← List.reverse_prefix, List.reverse_reverse] at hsuffix
    exact hsuffix
  rw [htrim] at hbefore
  rw [hstart, isBoundary_iff]
  exact ⟨front, name ++ blanks ++ after, by simp [← hbefore], rfl⟩

/-- A bracket stands at the offset that was counted up to it. -/
theorem exists_append_of_mem_bracketOffsets {mode : CallContext.Mode} {bracket : Nat}
    (h : bracket ∈ bracketOffsets offset mode text) :
    ∃ before after, text = before ++ '(' :: after ∧ bracket = offset + byteLength before := by
  induction text generalizing offset mode with
  | nil => cases h
  | cons c rest ih =>
    rw [bracketOffsets] at h
    have hfurther : bracket ∈ bracketOffsets (offset + c.utf8Size)
        (CallContext.stepMode mode c) rest → ∃ before after, c :: rest = before ++ '(' :: after ∧
          bracket = offset + byteLength before := by
      intro hmem
      obtain ⟨before, after, rfl, rfl⟩ := ih hmem
      exact ⟨c :: before, after, rfl, by rw [byteLength_cons, Nat.add_assoc]⟩
    by_cases hc : mode = .code ∧ c = '('
    · rw [if_pos hc, List.mem_cons] at h
      rcases h with rfl | hmem
      · exact ⟨[], rest, by rw [hc.2, List.nil_append], rfl⟩
      · exact hfurther hmem
    · rw [if_neg hc] at h
      exact hfurther h

theorem stepFrames_eq (before rest : List Char) (frames : List CallContext.Frame) (c : Char) :
    stepFrames (before ++ rest) (byteLength before) frames c =
      .ok (CallContext.stepFrames before.reverse frames c) := by
  rw [stepFrames, CallContext.stepFrames, CallContext.stepFrames]
  by_cases hc : c = '('
  · simp only [hc, if_true, calleeBefore?_eq, bind, Except.bind, pure, Except.pure]
  · simp only [hc, if_false]

theorem readOn_eq (before rest : List Char) (mode : CallContext.Mode)
    (frames : List CallContext.Frame) :
    let reader := CallContext.readOn ⟨mode, frames, before.reverse⟩ rest
    readOn (before ++ rest) (byteLength before) mode frames rest =
      .ok (reader.mode, reader.frames) := by
  induction rest generalizing before mode frames with
  | nil => rfl
  | cons c rest ih =>
    have hbefore : (before ++ [c]).reverse = c :: before.reverse := List.reverse_concat
    have hoffset : byteLength (before ++ [c]) = byteLength before + c.utf8Size :=
      byteLength_append before [c]
    have hnext := ih (before ++ [c]) (CallContext.stepMode mode c)
    rw [hoffset, hbefore, ← List.append_cons] at hnext
    rw [readOn]
    by_cases hmode : mode = .code
    · simp only [hmode, if_true, stepFrames_eq, bind, Except.bind]
      rw [hmode] at hnext
      rw [hnext]
      rfl
    · simp only [hmode, if_false, bind, Except.bind, hnext]
      simp only [CallContext.readOn, List.foldl_cons, CallContext.step, hmode, if_false]

theorem find?_eq (text : List Char) : find? text = .ok (CallContext.find? text) := by
  have hread : readOn text 0 .code [] text =
      .ok ((CallContext.read text).mode, (CallContext.read text).frames) :=
    readOn_eq [] text .code []
  simp only [find?, hread, bind, Except.bind, pure, Except.pure, CallContext.find?]
  cases (CallContext.read text).mode <;> rfl

end AutoItDocs.ByOffset
