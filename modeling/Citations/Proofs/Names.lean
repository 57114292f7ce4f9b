import Citations.Proofs.Text
import Citations.Text.Names

/-!
# Names without parts

`readingOrder` and `abbreviate` cut a name at its commas and work on the parts. A name made only
of commas and blanks (`CommaOnly`) has none, and it is the only name that neither function can
handle: `readingOrder_eq_none_iff` and `abbreviate_eq_none_iff`. The styles turn that `none` into
the failure `Fault.nameWithoutParts`.

Both characterisations go through the parts: a name has no parts exactly when every character
is a comma or blank (`nameParts_eq_nil_iff`), and trimming a name changes nothing of that
(`commaOnly_trim`).
-/

namespace Citations.Text

open Citations.Unicode

/-- A name made only of commas and blanks, with at least one comma. -/
def CommaOnly (name : String) : Prop :=
  ',' ∈ name.toList ∧ ∀ c ∈ name.toList, c = ',' ∨ isBlank c = true

instance : DecidablePred CommaOnly := fun _ => inferInstanceAs (Decidable (_ ∧ _))

theorem commaOnly_trim {name : String} : CommaOnly (trim name) ↔ CommaOnly name := by
  have hcomma : isBlank ',' = false := by decide
  simp only [CommaOnly, toList_trim, mem_trimChars_of_not_blank hcomma]
  refine and_congr_right fun _ =>
    ⟨fun h c hc => ?_, fun h c hc => h c ((trimChars_isInfix _).subset hc)⟩
  by_cases hb : isBlank c = true
  · exact .inr hb
  · exact h c ((mem_trimChars_of_not_blank (by simpa using hb)).mpr hc)

/-! ## Parts -/

theorem coreLength_go_pos (parts : List String) : ∀ n, 0 < n → 0 < coreLength.go parts n
  | 0, h => absurd h (Nat.lt_irrefl 0)
  | n + 1, _ => by
    unfold coreLength.go
    split
    · rename_i h
      exact coreLength_go_pos parts n (by simp at h; omega)
    · exact Nat.succ_pos n

theorem coreLength_eq_zero_iff {parts : List String} : coreLength parts = 0 ↔ parts = [] := by
  constructor
  · intro h
    by_contra hne
    have := coreLength_go_pos parts parts.length (List.length_pos_of_ne_nil hne)
    simp [coreLength] at h
    omega
  · rintro rfl; rfl

theorem take_coreLength_eq_nil_iff {parts : List String} :
    parts.take (coreLength parts) = [] ↔ parts = [] := by
  rw [List.take_eq_nil_iff, coreLength_eq_zero_iff, or_self]

/-- A name has no parts exactly when it is made only of commas and blanks. -/
theorem nameParts_eq_nil_iff {name : String} :
    nameParts name = [] ↔ ∀ c ∈ name.toList, c = ',' ∨ isBlank c = true := by
  have hsep : ",".toList = [','] := by simp
  have hpieces : nameParts name = [] ↔
      ∀ piece ∈ name.toList.splitOn ',', ∀ c ∈ piece, isBlank c = true := by
    simp [nameParts, splitOn, hsep, splitList_single, List.filter_eq_nil_iff, trim,
      trimChars_eq_nil_iff]
  rw [hpieces]
  constructor
  · intro h c hc
    by_cases hcomma : c = ','
    · exact .inl hcomma
    · obtain ⟨piece, hp, hcp⟩ := mem_splitOn_iff.mpr ⟨hc, hcomma⟩
      exact .inr (h piece hp c hcp)
  · intro h piece hp c hcp
    obtain ⟨hc, hcomma⟩ := mem_splitOn_iff.mp ⟨piece, hp, hcp⟩
    exact (h c hc).resolve_left hcomma

theorem commaOnly_trim_iff {name : String} :
    CommaOnly (trim name) ↔
      (trim name).isEmpty = false ∧ isCorporate (trim name) = false ∧
        nameParts (trim name) = [] := by
  constructor
  · rintro ⟨hcomma, hall⟩
    have hparen : ∀ p, p = '(' ∨ p = ')' → p ∉ (trim name).toList := by
      rintro p (rfl | rfl) hp
      · have hb : isBlank '(' = false := by decide
        simpa [hb] using hall _ hp
      · have hb : isBlank ')' = false := by decide
        simpa [hb] using hall _ hp
    refine ⟨?_, ?_, nameParts_eq_nil_iff.mpr hall⟩
    · simpa [String.isEmpty_iff, trim_eq_empty_iff] using List.ne_nil_of_mem hcomma
    · simpa [isCorporate] using And.intro (hparen '(' (.inl rfl)) (hparen ')' (.inr rfl))
  · rintro ⟨hne, -, hparts⟩
    have hall := nameParts_eq_nil_iff.mp hparts
    have hne : trimChars name.toList ≠ [] := by
      simpa [String.isEmpty_iff, trim_eq_empty_iff] using hne
    -- a trimmed name that is not empty has a character that is not blank: a comma
    obtain ⟨c, hc, hb⟩ := exists_not_blank_of_trimChars_ne_nil hne
    rw [← toList_trim] at hc
    have hcomma : c = ',' := by simpa [hb] using hall c hc
    exact ⟨hcomma ▸ hc, hall⟩

/-! ## The two forms of a name -/

theorem not_partless_of_kept {name : String}
    (hkept : ((trim name).isEmpty || isCorporate (trim name)) = true) :
    ¬ ((trim name).isEmpty = false ∧ isCorporate (trim name) = false ∧
        nameParts (trim name) = []) := by
  rintro ⟨hne, hcorp, -⟩
  simp [hne, hcorp] at hkept

theorem dropLifeDates_eq_nil_iff (parts : List String) :
    (if parts.length > 1 && isLifeDates (parts.getLastD "") then parts.dropLast else parts) = [] ↔
      parts = [] := by
  split
  · rename_i h
    simp only [Bool.and_eq_true, decide_eq_true_eq] at h
    constructor
    · intro hd
      have := congrArg List.length hd
      simp at this
      omega
    · rintro rfl
      simp at h
  · rfl

theorem readingOrder_eq_none_iff_parts {name : String} :
    readingOrder name = none ↔
      (trim name).isEmpty = false ∧ isCorporate (trim name) = false ∧
        nameParts (trim name) = [] := by
  simp only [readingOrder]
  by_cases hkept : ((trim name).isEmpty || isCorporate (trim name)) = true
  · rw [if_pos hkept]
    exact iff_of_false (Option.some_ne_none _) (not_partless_of_kept hkept)
  · rw [if_neg hkept]
    simp only [Bool.or_eq_true, not_or, Bool.not_eq_true] at hkept
    rw [← take_coreLength_eq_nil_iff]
    split <;> simp_all

theorem abbreviate_eq_none_iff_parts {name : String} :
    abbreviate name = none ↔
      (trim name).isEmpty = false ∧ isCorporate (trim name) = false ∧
        nameParts (trim name) = [] := by
  simp only [abbreviate]
  by_cases hkept : ((trim name).isEmpty || isCorporate (trim name)) = true
  · rw [if_pos hkept]
    exact iff_of_false (Option.some_ne_none _) (not_partless_of_kept hkept)
  · rw [if_neg hkept]
    simp only [Bool.or_eq_true, not_or, Bool.not_eq_true] at hkept
    rw [← dropLifeDates_eq_nil_iff]
    split <;> simp_all

/-- **A name has no reading order exactly when it is made only of commas and blanks.** -/
theorem readingOrder_eq_none_iff {name : String} : readingOrder name = none ↔ CommaOnly name := by
  rw [readingOrder_eq_none_iff_parts, ← commaOnly_trim_iff, commaOnly_trim]

/-- A name cannot be abbreviated exactly when it is made only of commas and blanks. -/
theorem abbreviate_eq_none_iff {name : String} : abbreviate name = none ↔ CommaOnly name := by
  rw [abbreviate_eq_none_iff_parts, ← commaOnly_trim_iff, commaOnly_trim]

end Citations.Text
