import Citations.Proofs.Text
import Citations.Text.Cleaning

/-!
# What cleaning keeps

`cleanField` only takes characters away: separators, a dangling period and blanks from the end,
and one pair of brackets around the whole value. So a cleaned field holds only characters of
the field (`mem_of_mem_cleanField`) and has no blank at either end (`trim_cleanField`).

Both come from the rounds of `cleanEndChars`. Each round keeps a prefix of its input and leaves
no blank at its end (`cleanRound_isPrefix`, `rdropWhile_cleanRound`), so the rounds keep a prefix
of the trimmed field with no blank at its end, however many of them run (`cleanRounds_spec`).
-/

namespace Citations.Text

open Citations.Unicode

theorem rdropWhile_trimChars (cs : List Char) :
    (trimChars cs).rdropWhile isBlank = trimChars cs := by
  rw [trimChars, trimRightChars_eq_rdropWhile, List.rdropWhile_idempotent]

theorem trimChars_prefix_dropWhile (cs : List Char) : trimChars cs <+: cs.dropWhile isBlank := by
  rw [trimChars, trimRightChars_eq_rdropWhile]
  exact List.rdropWhile_prefix isBlank _

/-! ## Cleaning the end -/

/-- A round of cleaning keeps a prefix of its input. -/
theorem cleanRound_isPrefix (cs : List Char) : cleanRound cs <+: cs := by
  have hmarks : dropTrailingMarks cs <+: cs := List.rdropWhile_prefix isTrailingMark cs
  unfold cleanRound
  rw [trimRightChars_eq_rdropWhile]
  refine (List.rdropWhile_prefix isBlank _).trans ?_
  split
  · exact (List.dropLast_prefix _).trans hmarks
  · exact hmarks

/-- A round of cleaning leaves no blank at the end. -/
theorem rdropWhile_cleanRound (cs : List Char) :
    (cleanRound cs).rdropWhile isBlank = cleanRound cs := by
  unfold cleanRound
  rw [trimRightChars_eq_rdropWhile, List.rdropWhile_idempotent]

/-- The rounds keep a prefix of the text they start from, with no blank at its end. -/
theorem cleanRounds_spec : ∀ (fuel : Nat) {cs : List Char}, cs.rdropWhile isBlank = cs →
    cleanRounds fuel cs <+: cs ∧
      (cleanRounds fuel cs).rdropWhile isBlank = cleanRounds fuel cs
  | 0, cs, h => ⟨List.prefix_refl cs, h⟩
  | fuel + 1, cs, h => by
    unfold cleanRounds
    dsimp only
    split
    · exact ⟨List.prefix_refl cs, h⟩
    · obtain ⟨hp, hr⟩ := cleanRounds_spec fuel (rdropWhile_cleanRound cs)
      exact ⟨hp.trans (cleanRound_isPrefix cs), hr⟩

theorem cleanEndChars_isPrefix (cs : List Char) : cleanEndChars cs <+: trimChars cs :=
  (cleanRounds_spec _ (rdropWhile_trimChars cs)).1

theorem trimChars_cleanEndChars (cs : List Char) :
    trimChars (cleanEndChars cs) = cleanEndChars cs := by
  apply trimChars_eq_self
  · exact dropWhile_blank_of_prefix
      ((cleanEndChars_isPrefix cs).trans (trimChars_prefix_dropWhile cs))
  · exact (cleanRounds_spec _ (rdropWhile_trimChars cs)).2

/-! ## Brackets -/

theorem stripBracketsChars_isInfix (cs : List Char) : stripBracketsChars cs <:+: cs := by
  have ht := trimChars_isInfix cs
  unfold stripBracketsChars
  dsimp only
  split
  · rename_i _ c x xs hsplit
    -- the text inside the brackets lies within the trimmed field
    have hinside : (x :: xs).dropLast <:+: c :: x :: xs :=
      (List.dropLast_prefix (x :: xs)).isInfix.trans (List.suffix_cons c (x :: xs)).isInfix
    have hrest : (x :: xs).dropLast <:+: cs := hinside.trans (hsplit ▸ ht)
    split
    · split
      · exact (trimChars_isInfix _).trans hrest
      · exact ht
    · exact ht
  · exact ht

/-! ## Fields -/

/-- A cleaned field holds only characters of the field. -/
theorem mem_of_mem_cleanField {s : String} {c : Char} (h : c ∈ (cleanField s).toList) :
    c ∈ s.toList := by
  simp only [cleanField, cleanEndPunctuation, stripBrackets, String.toList_ofList] at h
  have h1 := (cleanEndChars_isPrefix (stripBracketsChars (cleanEndChars s.toList))).isInfix.trans
    (trimChars_isInfix _)
  have h2 := stripBracketsChars_isInfix (cleanEndChars s.toList)
  have h3 := (cleanEndChars_isPrefix s.toList).isInfix.trans (trimChars_isInfix s.toList)
  exact h3.subset (h2.subset (h1.subset h))

/-- A cleaned field has no blank at either end. -/
theorem trim_cleanField (s : String) : trim (cleanField s) = cleanField s := by
  simp [cleanField, cleanEndPunctuation, trim, trimChars_cleanEndChars]

end Citations.Text
