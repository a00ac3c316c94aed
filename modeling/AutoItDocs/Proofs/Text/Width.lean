import AutoItDocs.Text.Width
import Mathlib.Order.Bounds.Basic
/-!
Cuts of a text, in any unit in which every character takes some place. A cut at a number is the
smallest place between two characters that does not lie below it.
-/
namespace AutoItDocs.Text

/-- The text can be cut at `n`: between two of its characters, or at one of its ends. -/
def IsCut (width : Char → Nat) (text : List Char) (n : Nat) : Prop :=
  ∃ left right, text = left ++ right ∧ places width left = n

variable {width : Char → Nat} {text left right left' right' : List Char} {n : Nat} {c : Char}

theorem units_pos (c : Char) : 0 < units c := by
  rw [units]
  split <;> decide

theorem isBoundary_iff_isCut : IsBoundary text n ↔ IsCut Char.utf8Size text n := isBoundary_iff

@[simp] theorem takeWidth_zero (width : Char → Nat) (text : List Char) :
    takeWidth width 0 text = [] := by
  cases text <;> rfl

theorem takeWidth_cons (hn : 0 < n) (c : Char) (text : List Char) :
    takeWidth width n (c :: text) = c :: takeWidth width (n - width c) text := by
  obtain ⟨m, rfl⟩ := Nat.exists_eq_add_one.mpr hn
  rfl

theorem places_pos (positive : ∀ c, 0 < width c) (h : text ≠ []) : 0 < places width text := by
  obtain ⟨c, rest, rfl⟩ := List.exists_cons_of_ne_nil h
  exact Nat.add_pos_left (positive c) _

theorem places_le_of_isPrefix (h : left <+: text) : places width left ≤ places width text := by
  obtain ⟨right, rfl⟩ := h
  rw [places_append]
  exact Nat.le_add_right _ _

theorem takeWidth_isPrefix (width : Char → Nat) (n : Nat) (text : List Char) :
    takeWidth width n text <+: text :=
  ⟨dropWidth width n text, takeWidth_append_dropWidth width n text⟩

theorem places_takeWidth_le (width : Char → Nat) (n : Nat) (text : List Char) :
    places width (takeWidth width n text) ≤ places width text :=
  places_le_of_isPrefix (takeWidth_isPrefix width n text)

/-- What a cut takes of two texts one after the other, when it comes behind the first one. -/
theorem takeWidth_append_of_places_le (positive : ∀ c, 0 < width c) (h : places width left ≤ n)
    (right : List Char) :
    takeWidth width n (left ++ right) = left ++ takeWidth width (n - places width left) right := by
  induction left generalizing n with
  | nil => rfl
  | cons c left ih =>
    have hc := positive c
    simp only [places] at h
    rw [List.cons_append, takeWidth_cons (by omega), ih (by omega), List.cons_append, places,
      Nat.sub_sub]

theorem takeWidth_append_of_le_places (h : n ≤ places width left) (right : List Char) :
    takeWidth width n (left ++ right) = takeWidth width n left := by
  induction left generalizing n with
  | nil =>
    obtain rfl : n = 0 := Nat.le_zero.mp h
    rw [takeWidth_zero, takeWidth_zero]
  | cons c left ih =>
    cases n with
    | zero => rw [takeWidth_zero, takeWidth_zero]
    | succ n =>
      simp only [places] at h
      rw [List.cons_append, takeWidth_cons n.add_one_pos, takeWidth_cons n.add_one_pos,
        ih (by omega)]

theorem takeWidth_places_append (positive : ∀ c, 0 < width c) (left right : List Char) :
    takeWidth width (places width left) (left ++ right) = left := by
  rw [takeWidth_append_of_places_le positive (Nat.le_refl _), Nat.sub_self, takeWidth_zero,
    List.append_nil]

theorem dropWidth_places_append (positive : ∀ c, 0 < width c) (left right : List Char) :
    dropWidth width (places width left) (left ++ right) = right := by
  have h := takeWidth_append_dropWidth width (places width left) (left ++ right)
  rw [takeWidth_places_append positive] at h
  exact List.append_cancel_left h

/-- What is taken in one unit is taken in any other unit, too. -/
theorem takeWidth_places_takeWidth (positive : ∀ c, 0 < width c) (width' : Char → Nat) (n : Nat)
    (text : List Char) :
    takeWidth width (places width (takeWidth width' n text)) text = takeWidth width' n text := by
  have h := takeWidth_places_append positive (takeWidth width' n text) (dropWidth width' n text)
  rwa [takeWidth_append_dropWidth] at h

theorem takeWidth_of_places_le (positive : ∀ c, 0 < width c) (h : places width text ≤ n) :
    takeWidth width n text = text := by
  have happend := takeWidth_append_of_places_le positive h []
  rwa [List.append_nil, takeWidth, List.append_nil] at happend

theorem le_places_takeWidth (h : n ≤ places width text) :
    n ≤ places width (takeWidth width n text) := by
  induction text generalizing n with
  | nil => exact h
  | cons c text ih =>
    cases n with
    | zero => exact Nat.zero_le _
    | succ n =>
      simp only [places] at h
      have hrest := ih (n := n + 1 - width c) (by omega)
      rw [takeWidth_cons n.add_one_pos, places]
      omega

/-- A cut that comes later takes at least as much. -/
theorem takeWidth_isPrefix_takeWidth (width : Char → Nat) {m : Nat} (h : n ≤ m)
    (text : List Char) : takeWidth width n text <+: takeWidth width m text := by
  induction text generalizing n m with
  | nil => exact List.nil_prefix
  | cons c text ih =>
    cases n with
    | zero => rw [takeWidth_zero]; exact List.nil_prefix
    | succ n =>
      rw [takeWidth_cons n.add_one_pos, takeWidth_cons (by omega), List.cons_prefix_cons]
      exact ⟨rfl, ih (by omega)⟩

/-- A cut takes no character that starts at or behind it. -/
theorem places_lt_of_takeWidth (h : takeWidth width n text = left ++ c :: right) :
    places width left < n := by
  induction left generalizing n text with
  | nil =>
    cases n with
    | zero => simp at h
    | succ n => exact n.add_one_pos
  | cons d left ih =>
    cases n with
    | zero => simp at h
    | succ n =>
      cases text with
      | nil => cases h
      | cons e text =>
        rw [takeWidth_cons n.add_one_pos, List.cons_append, List.cons.injEq] at h
        obtain ⟨rfl, h⟩ := h
        have hleft := ih h
        rw [places]
        omega

/-- A cut past the end is made at the end. -/
theorem isLeast_takeWidth (positive : ∀ c, 0 < width c) (n : Nat) (text : List Char) :
    IsLeast {m | IsCut width text m ∧ min n (places width text) ≤ m}
      (places width (takeWidth width n text)) := by
  refine ⟨⟨⟨_, _, (takeWidth_append_dropWidth width n text).symm, rfl⟩, ?_⟩, ?_⟩
  · rcases Nat.le_total n (places width text) with h | h
    · rw [Nat.min_eq_left h]
      exact le_places_takeWidth h
    · rw [Nat.min_eq_right h, takeWidth_of_places_le positive h]
  · rintro m ⟨⟨left, right, rfl, rfl⟩, hm⟩
    rcases Nat.le_total n (places width (left ++ right)) with h | h
    · rw [Nat.min_eq_left h] at hm
      rw [takeWidth_append_of_le_places hm]
      exact places_takeWidth_le width n left
    · rwa [Nat.min_eq_right h, ← takeWidth_of_places_le positive h] at hm

/-- Of two ways to divide a text, the one with the shorter left part divides the left part of the
other. -/
theorem exists_append_of_places_le (positive : ∀ c, 0 < width c)
    (h : left ++ right = left' ++ right') (hle : places width left ≤ places width left') :
    ∃ between, left' = left ++ between ∧ right = between ++ right' := by
  rcases List.append_eq_append_iff.mp h with ⟨between, hleft, hright⟩ | ⟨between, rfl, rfl⟩
  · exact ⟨between, hleft, hright⟩
  · cases between with
    | nil => exact ⟨[], by simp, by simp⟩
    | cons c between =>
      have hc := positive c
      rw [places_append, places] at hle
      omega

/-- A text is divided at a place in one way only. -/
theorem append_inj_of_places_eq (positive : ∀ c, 0 < width c)
    (h : left ++ right = left' ++ right') (heq : places width left = places width left') :
    left = left' ∧ right = right' := by
  have hleft := takeWidth_places_append positive left right
  rw [h, heq, takeWidth_places_append positive] at hleft
  exact List.append_inj h (congrArg List.length hleft.symm)

theorem places_eq_length (h : ∀ c ∈ text, width c = 1) : places width text = text.length := by
  induction text with
  | nil => rfl
  | cons c text ih =>
    rw [List.forall_mem_cons] at h
    rw [places, h.1, ih h.2, List.length_cons, Nat.add_comm]

theorem byteLength_reverse (text : List Char) : byteLength text.reverse = byteLength text := by
  induction text with
  | nil => rfl
  | cons c text ih =>
    rw [List.reverse_cons, byteLength_append, ih, byteLength_cons, byteLength_cons, byteLength_nil]
    omega

theorem byteLength_pos (h : text ≠ []) : 0 < byteLength text := places_pos Char.utf8Size_pos h

/-- A character that starts within a part of the text is in that part. -/
theorem mem_of_places_lt (positive : ∀ c, 0 < width c) {part : List Char}
    (h : left ++ (part ++ right) = left' ++ c :: right')
    (hstart : places width left ≤ places width left')
    (hstop : places width left' < places width left + places width part) : c ∈ part := by
  obtain ⟨between, rfl, hpart⟩ := exists_append_of_places_le positive h hstart
  rcases List.append_eq_append_iff.mp hpart with ⟨rest, rfl, -⟩ | ⟨rest, rfl, hrest⟩
  · simp only [places_append] at hstop
    omega
  · cases rest with
    | nil => simp [places_append] at hstop
    | cons d rest =>
      obtain rfl : c = d := (List.cons.inj hrest).1
      simp

theorem isLeast_takeBytes (n : Nat) (text : List Char) :
    IsLeast {m | IsBoundary text m ∧ min n (byteLength text) ≤ m}
      (byteLength (takeBytes n text)) := by
  simp only [isBoundary_iff_isCut]
  exact isLeast_takeWidth Char.utf8Size_pos n text

end AutoItDocs.Text
