/-!
Dictionaries as lists of entries in the order in which their keys were first put. What a dictionary
means is its look-up: `get?` after `put` and `erase` is said below for every key.
-/
namespace AutoItDocs

structure Dictionary (α β : Type) where
  entries : List (α × β)
  deriving DecidableEq, Repr, Inhabited

namespace Dictionary

variable {α β : Type} [DecidableEq α]

def empty : Dictionary α β := ⟨[]⟩

def get? (d : Dictionary α β) (key : α) : Option β :=
  (d.entries.find? (·.1 = key)).map (·.2)

def contains (d : Dictionary α β) (key : α) : Bool := (d.get? key).isSome

def keys (d : Dictionary α β) : List α := d.entries.map (·.1)

def size (d : Dictionary α β) : Nat := d.entries.length

/-- The entries with the value of `key` put in place, or added at the end. -/
def putEntry (key : α) (value : β) : List (α × β) → List (α × β)
  | [] => [(key, value)]
  | entry :: rest =>
    if entry.1 = key then (key, value) :: rest else entry :: putEntry key value rest

def put (d : Dictionary α β) (key : α) (value : β) : Dictionary α β :=
  ⟨putEntry key value d.entries⟩

def erase (d : Dictionary α β) (key : α) : Dictionary α β :=
  ⟨d.entries.filter (·.1 ≠ key)⟩

/-- The values of some keys, each taken out together with its key. -/
def takeOut (d : Dictionary α β) : List α → List β
  | [] => []
  | key :: keys =>
    match d.get? key with
    | some value => value :: (d.erase key).takeOut keys
    | none => d.takeOut keys

/-- Later entries for a key replace earlier ones. -/
def ofList (entries : List (α × β)) : Dictionary α β :=
  entries.foldl (fun d entry => d.put entry.1 entry.2) empty

@[simp] theorem get?_empty (key : α) : (empty : Dictionary α β).get? key = none := rfl

theorem find?_putEntry (entries : List (α × β)) (key other : α) (value : β) :
    (putEntry key value entries).find? (·.1 = other) =
      if other = key then some (key, value) else entries.find? (·.1 = other) := by
  induction entries with
  | nil => by_cases h : other = key <;> simp [putEntry, h, eq_comm]
  | cons entry rest ih =>
    by_cases hk : entry.1 = key
    · by_cases ho : other = key
      · simp [putEntry, hk, ho]
      · have hne : ¬ key = other := fun h => ho h.symm
        simp [putEntry, hk, ho, hne]
    · by_cases he : entry.1 = other
      · have ho : ¬ other = key := fun h => hk (he.trans h)
        simp [putEntry, he, ho]
      · simp [putEntry, hk, he, ih]

theorem get?_put (d : Dictionary α β) (key other : α) (value : β) :
    (d.put key value).get? other = if other = key then some value else d.get? other := by
  by_cases h : other = key <;> simp [get?, put, find?_putEntry, h]

/-- A new key is added behind the others. -/
theorem put_of_get?_eq_none {d : Dictionary α β} {key : α} (h : d.get? key = none) (value : β) :
    d.put key value = ⟨d.entries ++ [(key, value)]⟩ := by
  cases d with
  | mk entries =>
    simp only [get?, Option.map_eq_none_iff] at h
    simp only [put, mk.injEq]
    induction entries with
    | nil => rfl
    | cons entry rest ih =>
      rw [List.find?_eq_none, List.forall_mem_cons, ← List.find?_eq_none] at h
      have hne : ¬ entry.1 = key := by simpa using h.1
      rw [putEntry, if_neg hne, ih h.2, List.cons_append]

theorem get?_erase (d : Dictionary α β) (key other : α) :
    (d.erase key).get? other = if other = key then none else d.get? other := by
  cases d with
  | mk entries =>
    induction entries with
    | nil => simp [get?, erase]
    | cons entry rest ih =>
      simp only [get?, erase] at ih ⊢
      by_cases hk : entry.1 = key <;> by_cases ho : entry.1 = other
      · have : other = key := ho.symm.trans hk
        simp_all
      · have : ¬ key = other := fun h => ho (hk.trans h)
        simp_all
      · have : ¬ other = key := fun h => hk (ho.trans h)
        simp_all
      · simp_all

theorem mem_keys_iff (d : Dictionary α β) (key : α) : key ∈ d.keys ↔ (d.get? key).isSome := by
  simp [keys, get?, List.find?_isSome]

theorem get?_foldl_put (entries : List (α × β)) (d : Dictionary α β) (key : α) :
    (entries.foldl (fun d entry => d.put entry.1 entry.2) d).get? key =
      ((entries.findRev? (·.1 = key)).map (·.2)).or (d.get? key) := by
  induction entries generalizing d with
  | nil => simp
  | cons entry rest ih =>
    rw [List.foldl_cons, ih, get?_put]
    by_cases h : entry.1 = key
    · cases rest.reverse.find? (·.1 = key) <;> simp [h]
    · have hne : ¬ key = entry.1 := fun he => h he.symm
      simp [h, hne]

/-- A key has the last value that is listed for it. -/
theorem get?_ofList (entries : List (α × β)) (key : α) :
    (ofList entries).get? key = (entries.findRev? (·.1 = key)).map (·.2) := by
  rw [ofList, get?_foldl_put, get?_empty, Option.or_none]

theorem get?_ofList_eq_some {entries : List (α × β)} {key : α} {value : β}
    (listed : (key, value) ∈ entries)
    (unique : ∀ other, (key, other) ∈ entries → other = value) :
    (ofList entries).get? key = some value := by
  rw [get?_ofList, List.findRev?_eq_find?_reverse]
  cases found : entries.reverse.find? (·.1 = key) with
  | none =>
    have hno := List.find?_eq_none.mp found (key, value) (by simpa using listed)
    simp at hno
  | some entry =>
    have hkey : entry.1 = key := by simpa using List.find?_some found
    have hmem : entry ∈ entries := by simpa using List.mem_of_find?_eq_some found
    have hvalue : entry.2 = value := unique entry.2 (by simpa [← hkey] using hmem)
    simp [hvalue]

end Dictionary

end AutoItDocs
