import Mathlib.Data.List.DropRight
import Mathlib.Data.List.TakeWhile
import Citations.Text.Basic

/-!
# Trimming and splitting text

Facts about the text operations that the proofs about names, fields and records use:

* `trimChars` keeps a piece of its input (`trimChars_isInfix`), keeps every character that is not
  blank (`mem_trimChars_of_not_blank`), is empty exactly for blank text
  (`trimChars_eq_nil_iff`), and trims nothing more when applied again (`trimChars_trimChars`).
* Splitting at a one-character separator is the library's `List.splitOn`
  (`splitList_single`), so its pieces hold exactly the characters other than the separator
  (`mem_splitOn_iff`).
-/

namespace Citations.Text

open Citations.Unicode

/-! ## Trimming -/

theorem trimRightChars_eq_rdropWhile (cs : List Char) :
    trimRightChars cs = cs.rdropWhile isBlank := rfl

theorem trimChars_isInfix (cs : List Char) : trimChars cs <:+: cs := by
  rw [trimChars, trimRightChars_eq_rdropWhile]
  exact (List.rdropWhile_prefix isBlank _).isInfix.trans (List.dropWhile_suffix isBlank).isInfix

@[simp] theorem toList_trim (s : String) : (trim s).toList = trimChars s.toList := by
  simp [trim]

@[simp] theorem trim_eq_empty_iff {s : String} : trim s = "" ↔ trimChars s.toList = [] := by
  simp [trim]

theorem dropWhile_blank_eq_nil_of_all {cs : List Char}
    (h : ∀ c ∈ cs.dropWhile isBlank, isBlank c) : cs.dropWhile isBlank = [] := by
  cases hd : cs.dropWhile isBlank with
  | nil => rfl
  | cons d rest =>
    have hnot := List.head_dropWhile_not isBlank (show cs.dropWhile isBlank ≠ [] by simp [hd])
    simp only [hd, List.head_cons] at hnot
    have := h d (by simp [hd])
    simp_all

theorem trimChars_eq_nil_iff {cs : List Char} : trimChars cs = [] ↔ ∀ c ∈ cs, isBlank c := by
  rw [trimChars, trimRightChars_eq_rdropWhile, List.rdropWhile_eq_nil_iff]
  constructor
  · intro h
    exact List.dropWhile_eq_nil_iff.mp (dropWhile_blank_eq_nil_of_all h)
  · intro h c hc
    simp [List.dropWhile_eq_nil_iff.mpr h] at hc

/-- Trimming keeps every character that is not blank. -/
theorem mem_trimChars_of_not_blank {c : Char} {cs : List Char} (hc : isBlank c = false) :
    c ∈ trimChars cs ↔ c ∈ cs := by
  refine ⟨fun h => (trimChars_isInfix cs).subset h, fun h => ?_⟩
  -- `c` is neither among the blanks cut at the start nor among those cut at the end
  have h1 : c ∈ cs.dropWhile isBlank := by
    have hsplit : cs.takeWhile isBlank ++ cs.dropWhile isBlank = cs :=
      List.takeWhile_append_dropWhile
    rw [← hsplit, List.mem_append] at h
    rcases h with h | h
    · simp [List.mem_takeWhile_imp h] at hc
    · exact h
  have hsplit : (cs.dropWhile isBlank).rdropWhile isBlank ++
      (cs.dropWhile isBlank).rtakeWhile isBlank = cs.dropWhile isBlank :=
    List.rdropWhile_append_rtakeWhile
  rw [trimChars, trimRightChars_eq_rdropWhile]
  rw [← hsplit, List.mem_append] at h1
  rcases h1 with h1 | h1
  · exact h1
  · simp [List.mem_rtakeWhile_imp h1] at hc

theorem exists_not_blank_of_trimChars_ne_nil {cs : List Char} (h : trimChars cs ≠ []) :
    ∃ c ∈ trimChars cs, isBlank c = false := by
  by_contra hnone
  refine h (trimChars_eq_nil_iff.mpr fun c hc => ?_)
  by_contra hb
  have hb : isBlank c = false := by simpa using hb
  exact hnone ⟨c, (mem_trimChars_of_not_blank hb).mpr hc, hb⟩

theorem dropWhile_blank_of_prefix {l cs : List Char} (h : l <+: cs.dropWhile isBlank) :
    l.dropWhile isBlank = l := by
  cases l with
  | nil => rfl
  | cons a rest =>
    obtain ⟨more, hmore⟩ := h
    have hne : cs.dropWhile isBlank ≠ [] := by simp [← hmore]
    have ha := List.head_dropWhile_not isBlank hne
    simp only [← hmore, List.cons_append, List.head_cons] at ha
    simp [ha]

theorem trimChars_eq_self {l : List Char} (hleft : l.dropWhile isBlank = l)
    (hright : l.rdropWhile isBlank = l) : trimChars l = l := by
  rw [trimChars, trimRightChars_eq_rdropWhile, hleft, hright]

theorem trimChars_trimChars (cs : List Char) : trimChars (trimChars cs) = trimChars cs := by
  apply trimChars_eq_self
  · rw [trimChars, trimRightChars_eq_rdropWhile]
    exact dropWhile_blank_of_prefix (List.rdropWhile_prefix isBlank _)
  · rw [trimChars, trimRightChars_eq_rdropWhile, List.rdropWhile_idempotent]

@[simp] theorem trim_trim (s : String) : trim (trim s) = trim s := by
  simp [trim, trimChars_trimChars]

/-! ## Splitting at a separator -/

/-- Cutting at a one-character separator, the scan with its accumulator is the library's
`List.splitOnPPrepend`, as long as the fuel covers the characters left. -/
theorem splitList_go_single (c : Char) :
    ∀ (fuel : Nat) (rest acc : List Char), rest.length ≤ fuel →
      splitList.go [c] rest acc fuel = List.splitOnPPrepend (· == c) rest acc
  | 0, rest, acc, h => by
    rw [List.length_eq_zero_iff.mp (Nat.le_zero.mp h)]
    simp [splitList.go]
  | fuel + 1, [], acc, _ => by simp [splitList.go]
  | fuel + 1, d :: more, acc, h => by
    have hm : more.length ≤ fuel := by simp at h; omega
    by_cases hd : d = c
    · subst hd
      rw [List.splitOnPPrepend_cons_pos (by simp), ← List.splitOnPPrepend_nil_right]
      simp [splitList.go, splitList_go_single d fuel more [] hm]
    · rw [List.splitOnPPrepend_cons_neg (by simpa using hd)]
      simp [splitList.go, Ne.symm hd, splitList_go_single c fuel more (d :: acc) hm]

theorem splitList_single (c : Char) (cs : List Char) : splitList [c] cs = cs.splitOn c := by
  rw [splitList, List.splitOn_eq_splitOnP, List.splitOnP_eq_splitOnPPrepend]
  exact splitList_go_single c cs.length cs [] le_rfl

/-- The characters of the pieces are those of the text other than the separator. -/
theorem mem_splitOn_iff {c a : Char} :
    ∀ {cs : List Char}, (∃ piece ∈ cs.splitOn c, a ∈ piece) ↔ a ∈ cs ∧ a ≠ c
  | [] => by simp [List.splitOn_nil]
  | d :: more => by
    have ih : (∃ piece ∈ more.splitOn c, a ∈ piece) ↔ a ∈ more ∧ a ≠ c := mem_splitOn_iff
    rw [List.splitOn_eq_splitOnP, List.splitOnP_cons_eq_if_modifyHead] at *
    split
    · rename_i hd
      have hdc : d = c := by simpa using hd
      simp only [List.mem_cons, exists_eq_or_imp, List.not_mem_nil, false_or, ih]
      constructor
      · exact fun ⟨h1, h2⟩ => ⟨.inr h1, h2⟩
      · rintro ⟨rfl | h1, h2⟩
        · exact absurd hdc h2
        · exact ⟨h1, h2⟩
    · rename_i hd
      have hdc : d ≠ c := by simpa using hd
      -- the first piece of the rest gets `d` in front
      obtain ⟨first, others, hsplit⟩ :=
        List.exists_cons_of_ne_nil (List.splitOnP_ne_nil (· == c) more)
      rw [hsplit] at ih ⊢
      simp only [List.modifyHead_cons, List.mem_cons, exists_eq_or_imp] at ih ⊢
      constructor
      · rintro ((rfl | h) | h)
        · exact ⟨.inl rfl, hdc⟩
        · exact (ih.mp (.inl h)).imp_left .inr
        · exact (ih.mp (.inr h)).imp_left .inr
      · rintro ⟨rfl | h1, h2⟩
        · exact .inl (.inl rfl)
        · rcases ih.mpr ⟨h1, h2⟩ with h | h
          · exact .inl (.inr h)
          · exact .inr h

end Citations.Text
