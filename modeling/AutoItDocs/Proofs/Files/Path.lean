import AutoItDocs.Files.Path
import AutoItDocs.Proofs.Text.Lines
import AutoItDocs.Proofs.Text.Occurrence
/-!
The way up from a path. Each parent is shorter by a part, so the way ends, and the paths that are
listed above a path are all of it. The way up from a relative path ends at the empty path.
-/
namespace AutoItDocs.Path

open Text (pieces)

/-- The path that is some steps above another. -/
def above? : Path → Nat → Option Path
  | p, 0 => some p
  | p, n + 1 => p.parent?.bind (above? · n)

variable {p q : Path} {part : String} {names : List String}

theorem slash_not_mem_of_mem_parts (h : part ∈ p.parts) : '/' ∉ part.toList := by
  obtain ⟨piece, hpiece, rfl⟩ := List.mem_map.mp h
  rw [String.toList_ofList]
  intro hslash
  exact Text.not_isBreak_of_mem_pieces hpiece hslash (by decide)

/-- Names without a slash are the parts of the path that they make up. -/
theorem parts_intercalate (hne : names ≠ []) (h : ∀ name ∈ names, '/' ∉ name.toList) :
    parts ⟨"/".intercalate names⟩ = names := by
  have hbreak : ∀ part ∈ names.map String.toList, ∀ c ∈ part, ¬ (c == '/') = true := by
    intro part hpart
    obtain ⟨name, hname, rfl⟩ := List.mem_map.mp hpart
    exact Text.forall_not_beq (h name hname)
  have hslash : "/".toList = ['/'] := rfl
  have hmap : names.map String.toList ≠ [] := fun he => hne (List.map_eq_nil_iff.mp he)
  have hid : String.ofList ∘ String.toList = id := funext fun _ => String.ofList_toList
  rw [parts, String.toList_intercalate, hslash, Text.pieces_intercalate hmap hbreak (by decide),
    List.map_map, hid, List.map_id]

theorem parts_slash_append (text : String) : parts ⟨"/" ++ text⟩ = "" :: parts ⟨text⟩ := by
  have hparts : pieces (· == '/') ([] ++ '/' :: text.toList) =
      pieces (· == '/') [] ++ pieces (· == '/') text.toList :=
    Text.pieces_append_cons (by decide) [] text.toList
  rw [parts, String.toList_append]
  exact congrArg (List.map String.ofList) hparts

theorem trimParts_suffix (backwards : List String) : trimParts backwards <:+ backwards := by
  fun_induction trimParts backwards with
  | case1 => exact List.suffix_rfl
  | case2 rest ih => exact ih.trans (List.suffix_cons "" rest)
  | case3 => exact List.suffix_rfl
  | case4 rest _ ih => exact ih.trans (List.suffix_cons "." rest)
  | case5 parts => exact List.suffix_rfl

theorem bodyBackwards_suffix (p : Path) :
    p.bodyBackwards <:+ (p.parts.drop (if p.isAbsolute then 1 else 0)).reverse := by
  rw [bodyBackwards]
  by_cases habsolute : p.isAbsolute
  · rw [if_pos habsolute, if_pos habsolute]
    by_cases hdot : trimParts (p.parts.drop 1).reverse = ["."]
    · rw [if_pos hdot]
      exact List.nil_suffix
    · rw [if_neg hdot]
      exact trimParts_suffix _
  · rw [if_neg habsolute, if_neg habsolute]
    exact trimParts_suffix _

theorem length_bodyBackwards_le (p : Path) :
    p.bodyBackwards.length ≤ p.parts.length - if p.isAbsolute then 1 else 0 := by
  have hlength := p.bodyBackwards_suffix.length_le
  rwa [List.length_reverse, List.length_drop] at hlength

theorem slash_not_mem_of_mem_bodyBackwards (h : part ∈ p.bodyBackwards) : '/' ∉ part.toList := by
  have hpart := p.bodyBackwards_suffix.subset h
  exact slash_not_mem_of_mem_parts (List.mem_of_mem_drop (List.mem_reverse.mp hpart))

/-- What is left of a path without its last part still has no slash in a part. -/
theorem slash_not_mem_of_mem_trimParts {name : String} {rest : List String}
    (h : p.bodyBackwards = name :: rest) : ∀ part ∈ trimParts rest, '/' ∉ part.toList := by
  intro part hpart
  apply slash_not_mem_of_mem_bodyBackwards (p := p)
  rw [h]
  exact List.mem_cons_of_mem name ((trimParts_suffix rest).subset hpart)

theorem parts_ofBody {backwards : List String} (hne : backwards ≠ [])
    (h : ∀ part ∈ backwards, '/' ∉ part.toList) :
    (ofBody false backwards).parts = backwards.reverse :=
  parts_intercalate (by simpa using hne) fun part hpart => h part (List.mem_reverse.mp hpart)

theorem isAbsolute_ofBody (backwards : List String) :
    (ofBody true backwards).isAbsolute = true := by
  rw [isAbsolute, String.startsWith_string_iff, ofBody, if_pos rfl, String.toList_append]
  exact List.prefix_append _ _

theorem length_bodyBackwards_ofBody_le (absolute : Bool) {backwards : List String}
    (h : ∀ part ∈ backwards, '/' ∉ part.toList) :
    (ofBody absolute backwards).bodyBackwards.length ≤ backwards.length := by
  rcases eq_or_ne backwards [] with rfl | hne
  · cases absolute with
    | false => decide
    | true =>
      rw [bodyBackwards, if_pos (isAbsolute_ofBody [])]
      decide
  · have hparts := parts_ofBody hne h
    have hlength := (ofBody absolute backwards).length_bodyBackwards_le
    cases absolute with
    | false =>
      rw [hparts, List.length_reverse] at hlength
      omega
    | true =>
      have hrooted : (ofBody true backwards).parts = "" :: backwards.reverse :=
        (parts_slash_append _).trans (congrArg _ hparts)
      rw [isAbsolute_ofBody, hrooted, List.length_cons, List.length_reverse] at hlength
      exact hlength

/-- Going up takes a part away. -/
theorem length_bodyBackwards_lt (h : p.parent? = some q) :
    q.bodyBackwards.length < p.bodyBackwards.length := by
  rw [parent?] at h
  split at h
  · cases h
  · rename_i name rest hbody
    cases h
    have habove : (if p.isAbsolute ∧ trimParts rest = ["."] then [] else trimParts rest) <:+
        trimParts rest := by
      split
      · exact List.nil_suffix
      · exact List.suffix_rfl
    have hslash := slash_not_mem_of_mem_trimParts hbody
    rw [hbody, List.length_cons, Nat.lt_succ_iff]
    calc
      _ ≤ _ := length_bodyBackwards_ofBody_le _ fun part hpart => hslash part (habove.subset hpart)
      _ ≤ (trimParts rest).length := habove.length_le
      _ ≤ rest.length := (trimParts_suffix rest).length_le

theorem parent?_eq_none (h : p.bodyBackwards = []) : p.parent? = none := by
  rw [parent?, h]

/-- With a step to spare for each part, the paths above a path are listed to the last one. -/
theorem getElem?_selfAndAbove {count : Nat} (h : p.bodyBackwards.length ≤ count) (n : Nat) :
    (selfAndAbove count p)[n]? = p.above? n := by
  induction count generalizing p n with
  | zero =>
    have hparent := parent?_eq_none (List.length_eq_zero_iff.mp (Nat.le_zero.mp h))
    cases n with
    | zero => rfl
    | succ n => simp [selfAndAbove, above?, hparent]
  | succ count ih =>
    rw [selfAndAbove]
    cases hparent : p.parent? with
    | none => cases n <;> simp [above?, hparent]
    | some q =>
      cases n with
      | zero => rfl
      | succ n =>
        have hshorter := length_bodyBackwards_lt hparent
        rw [List.getElem?_cons_succ, ih (by omega), above?, hparent, Option.bind_some]

theorem getElem?_ancestors (p : Path) (n : Nat) : p.ancestors[n]? = p.above? n :=
  getElem?_selfAndAbove (p.length_bodyBackwards_le.trans (Nat.sub_le _ _)) n

/-- The way up ends. -/
theorem exists_above?_eq_none (p : Path) : ∃ n, p.above? n = none := by
  refine ⟨p.ancestors.length, ?_⟩
  rw [← getElem?_ancestors]
  exact List.getElem?_eq_none (Nat.le_refl _)

theorem head?_parts_eq_some_empty_iff :
    p.parts.head? = some "" ↔ p.text = "" ∨ p.isAbsolute = true := by
  have hroot : p.isAbsolute = true ↔ p.text.toList.head? = some '/' := by
    rw [isAbsolute, String.startsWith_string_iff]
    exact Text.singleton_isPrefix_iff
  rw [hroot, parts, pieces, List.map_cons, List.head?_cons, Option.some_inj, Text.split_fst,
    ← String.toList_inj, ← String.toList_inj, String.toList_ofList]
  cases p.text.toList with
  | nil => simp
  | cons c text => by_cases hc : c = '/' <;> simp [hc]

/-- The part in front stays, unless it is empty. -/
theorem getLast?_trimParts {backwards : List String} (h : backwards.getLast? = some part)
    (hne : part ≠ "") : (trimParts backwards).getLast? = some part := by
  fun_induction trimParts backwards with
  | case1 => cases h
  | case2 rest ih =>
    cases rest with
    | nil => exact absurd (Option.some_inj.mp h).symm hne
    | cons next rest => exact ih (List.getLast?_cons_cons.symm.trans h)
  | case3 => exact h
  | case4 rest hdot ih =>
    cases rest with
    | nil => exact absurd rfl hdot
    | cons next rest => exact ih (List.getLast?_cons_cons.symm.trans h)
  | case5 parts => exact h

theorem getLast?_bodyBackwards (hrelative : ¬ p.isAbsolute) (h : p.parts.head? = some part)
    (hne : part ≠ "") : p.bodyBackwards.getLast? = some part := by
  rw [bodyBackwards, if_neg hrelative]
  exact getLast?_trimParts (List.getLast?_reverse.trans h) hne

/-- Above a relative path are relative paths, each but the empty one below another. -/
theorem exists_parent?_of_relative (hrelative : ¬ p.isAbsolute) (htext : p.text ≠ "") :
    ∃ q, p.parent? = some q ∧ ¬ q.isAbsolute := by
  obtain ⟨first, hfirst⟩ : ∃ first, p.parts.head? = some first := ⟨_, rfl⟩
  have hne : first ≠ "" := by
    rintro rfl
    exact (head?_parts_eq_some_empty_iff.mp hfirst).elim htext hrelative
  have hlast := getLast?_bodyBackwards hrelative hfirst hne
  cases hbody : p.bodyBackwards with
  | nil =>
    rw [hbody] at hlast
    cases hlast
  | cons name rest =>
    refine ⟨ofBody false (trimParts rest), ?_, ?_⟩
    · rw [parent?, hbody]
      simp [hrelative]
    · intro habsolute
      rcases eq_or_ne (trimParts rest) [] with hnil | hne'
      · rw [hnil] at habsolute
        revert habsolute
        decide
      · obtain ⟨next, more, rfl⟩ : ∃ next more, rest = next :: more :=
          List.exists_cons_of_ne_nil (by rintro rfl; exact hne' rfl)
        rw [hbody, List.getLast?_cons_cons] at hlast
        have hparts : (ofBody false (trimParts (next :: more))).parts.head? = some first := by
          have hrest : (ofBody false (trimParts (next :: more))).parts =
              (trimParts (next :: more)).reverse :=
            parts_ofBody hne' (slash_not_mem_of_mem_trimParts hbody)
          rw [hrest, List.head?_reverse, getLast?_trimParts hlast hne]
        have hempty := head?_parts_eq_some_empty_iff.mpr (.inr habsolute)
        exact hne (Option.some_inj.mp (hparts.symm.trans hempty))

/-- The way up from a relative path ends at the empty path. -/
theorem exists_above?_eq_empty (h : ¬ p.isAbsolute) : ∃ n, p.above? n = some ⟨""⟩ := by
  induction hlength : p.bodyBackwards.length using Nat.strongRecOn generalizing p with
  | _ length ih =>
    by_cases htext : p.text = ""
    · exact ⟨0, congrArg (fun text => some (Path.mk text)) htext⟩
    · obtain ⟨q, hparent, hq⟩ := exists_parent?_of_relative h htext
      obtain ⟨n, hn⟩ := ih _ (hlength ▸ length_bodyBackwards_lt hparent) hq rfl
      exact ⟨n + 1, by rw [above?, hparent, Option.bind_some, hn]⟩

end AutoItDocs.Path
