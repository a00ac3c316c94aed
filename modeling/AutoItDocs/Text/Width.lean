/-!
Lengths and cuts of text in the units an editor and a file disagree about: bytes of UTF-8 and units
of UTF-16. A cut at a number that falls inside a character keeps the whole character, so every cut
is made between characters.
-/
namespace AutoItDocs.Text

/-- UTF-16 units of a character; above U+FFFF it takes a surrogate pair. -/
def units (c : Char) : Nat := if c.toNat < 0x10000 then 1 else 2

/-- The places that a text occupies, when a character `c` occupies `width c` of them. -/
def places (width : Char → Nat) : List Char → Nat
  | [] => 0
  | c :: rest => width c + places width rest

def byteLength (text : List Char) : Nat := places Char.utf8Size text

def unitLength (text : List Char) : Nat := places units text

/-- The characters that start before `n`, when a character `c` occupies `width c` places. -/
def takeWidth (width : Char → Nat) : Nat → List Char → List Char
  | _, [] => []
  | 0, _ => []
  | n, c :: rest => c :: takeWidth width (n - width c) rest

/-- What `takeWidth` leaves. -/
def dropWidth (width : Char → Nat) : Nat → List Char → List Char
  | _, [] => []
  | 0, text => text
  | n, c :: rest => dropWidth width (n - width c) rest

def takeBytes (n : Nat) (text : List Char) : List Char := takeWidth Char.utf8Size n text

def dropBytes (n : Nat) (text : List Char) : List Char := dropWidth Char.utf8Size n text

def takeUnits (n : Nat) (text : List Char) : List Char := takeWidth units n text

/-- Offset `n` lies between two characters of the text, or at one of its ends. -/
def IsBoundary (text : List Char) (n : Nat) : Prop := byteLength (takeBytes n text) = n

instance (text : List Char) (n : Nat) : Decidable (IsBoundary text n) :=
  inferInstanceAs (Decidable (_ = _))

theorem places_append (width : Char → Nat) (a b : List Char) :
    places width (a ++ b) = places width a + places width b := by
  induction a with
  | nil => simp [places]
  | cons c rest ih => simp only [List.cons_append, places, ih]; omega

theorem takeWidth_append_dropWidth (width : Char → Nat) (n : Nat) (text : List Char) :
    takeWidth width n text ++ dropWidth width n text = text := by
  induction text generalizing n with
  | nil => cases n <;> rfl
  | cons c rest ih =>
    cases n with
    | zero => rfl
    | succ n => simp [takeWidth, dropWidth, ih]

theorem takeBytes_append_dropBytes (n : Nat) (text : List Char) :
    takeBytes n text ++ dropBytes n text = text :=
  takeWidth_append_dropWidth _ n text

@[simp] theorem byteLength_nil : byteLength [] = 0 := rfl

@[simp] theorem byteLength_cons (c : Char) (rest : List Char) :
    byteLength (c :: rest) = c.utf8Size + byteLength rest := rfl

@[simp] theorem byteLength_append (a b : List Char) :
    byteLength (a ++ b) = byteLength a + byteLength b :=
  places_append _ a b

@[simp] theorem unitLength_nil : unitLength [] = 0 := rfl

@[simp] theorem unitLength_cons (c : Char) (rest : List Char) :
    unitLength (c :: rest) = units c + unitLength rest := rfl

@[simp] theorem unitLength_append (a b : List Char) :
    unitLength (a ++ b) = unitLength a + unitLength b :=
  places_append _ a b

theorem takeBytes_byteLength_append (a b : List Char) : takeBytes (byteLength a) (a ++ b) = a := by
  induction a with
  | nil => cases b <;> rfl
  | cons c rest ih =>
    have positive := c.utf8Size_pos
    obtain ⟨n, hn⟩ : ∃ n, byteLength (c :: rest) = n + 1 :=
      ⟨byteLength (c :: rest) - 1, by simp only [byteLength_cons]; omega⟩
    have left : n + 1 - c.utf8Size = byteLength rest := by
      rw [← hn, byteLength_cons]; omega
    rw [hn]
    simp only [takeBytes, List.cons_append, takeWidth, left] at ih ⊢
    rw [ih]

/-- The boundaries of a text are the byte lengths of what it starts with. -/
theorem isBoundary_iff {text : List Char} {n : Nat} :
    IsBoundary text n ↔ ∃ a b, text = a ++ b ∧ byteLength a = n := by
  constructor
  · intro h
    exact ⟨takeBytes n text, dropBytes n text, (takeBytes_append_dropBytes n text).symm, h⟩
  · rintro ⟨a, b, rfl, rfl⟩
    rw [IsBoundary, takeBytes_byteLength_append]

end AutoItDocs.Text
