import Citations.Proofs.Cleaning

/-!
# The longest clean end

Cleaning the end of a field cuts the trimmed field back to its longest clean prefix
(`cleanEndPunctuation_longest`). Text is clean at its end (`CleanEnd`) when its last character is
no blank and none of `, ; : / =`, and is a period only where the text ends with an ellipsis
(`EllipsisEnd`) or an initial (`InitialEnd`). What is cut is blanks, separators and periods
(`isDroppable`), and no longer prefix of the trimmed field is clean. Cleaning a cleaned field
therefore changes nothing.

The proof follows the rounds of `cleanEndChars`, with `Cut s p` as the invariant: `p` begins `s`,
only droppable characters follow it, and no prefix of `s` longer than `p` is clean.

* Each of the three stages of a round is a cut (`rdropWhile_cut`, `dropLast_cut`), so a round is
  one (`cleanRound_cut`), and cuts compose (`Cut.trans`).
* A round leaves exactly clean text as it is (`cleanRound_eq_self_iff`) and shortens any other
  (`cleanRound_shorter`). So one round more than the text has characters ends on clean text
  (`cleanRounds_cut`).
-/

namespace Citations.Text

open Citations.Unicode

/-- A character that cleaning may cut from the end: a blank, one of `, ; : / =`, or a period. -/
def isDroppable (c : Char) : Bool := isTrailingMark c || c == '.'

/-- The text ends with an ellipsis. -/
def EllipsisEnd (cs : List Char) : Prop := ∃ q, cs = q ++ ['.', '.', '.']

/-- The text ends with an initial: a capital `A` to `Z` and a period, the capital at the start or
after a blank or a period. -/
def InitialEnd (cs : List Char) : Prop :=
  ∃ q c, cs = q ++ [c, '.'] ∧ 'A' ≤ c ∧ c ≤ 'Z' ∧
    (q = [] ∨ ∃ r b, q = r ++ [b] ∧ (isBlank b = true ∨ b = '.'))

/-- Text clean at its end: its last character is no blank or separator, and is a period only
where the text ends with an ellipsis or an initial. -/
def CleanEnd (cs : List Char) : Prop :=
  (∀ c, cs.getLast? = some c → isTrailingMark c = false) ∧
    (cs.getLast? = some '.' → EllipsisEnd cs ∨ InitialEnd cs)

/-! ## Clean text -/

theorem endsWithEllipsis_iff {cs : List Char} : endsWithEllipsis cs = true ↔ EllipsisEnd cs := by
  simp only [endsWithEllipsis, List.isSuffixOf_iff_suffix, EllipsisEnd]
  exact ⟨fun ⟨q, h⟩ => ⟨q, h.symm⟩, fun ⟨q, h⟩ => ⟨q, h.symm⟩⟩

theorem initial_before_iff (before : List Char) :
    (match before with
      | [] => true
      | b :: _ => isBlank b || b == '.') = true ↔
    (before.reverse = [] ∨ ∃ r b, before.reverse = r ++ [b] ∧ (isBlank b = true ∨ b = '.')) := by
  cases before with
  | nil => simp
  | cons b rest =>
    simp only [List.reverse_cons, List.append_eq_nil_iff, List.reverse_eq_nil_iff,
      List.cons_ne_self, and_false, false_or, Bool.or_eq_true, beq_iff_eq]
    constructor
    · intro h
      exact ⟨rest.reverse, b, rfl, h⟩
    · rintro ⟨r, b', h, hb⟩
      obtain ⟨-, hbb⟩ := List.append_inj' h rfl
      simp only [List.cons.injEq, and_true] at hbb
      exact hbb ▸ hb

theorem endsWithInitial_iff {cs : List Char} : endsWithInitial cs = true ↔ InitialEnd cs := by
  obtain ⟨r, rfl⟩ : ∃ r, cs = r.reverse := ⟨cs.reverse, cs.reverse_reverse.symm⟩
  unfold endsWithInitial InitialEnd
  rw [List.reverse_reverse]
  constructor
  · intro h
    split at h
    · rename_i c before
      simp only [Bool.and_eq_true, decide_eq_true_eq] at h
      obtain ⟨⟨hA, hZ⟩, hb⟩ := h
      exact ⟨before.reverse, c, by simp, hA, hZ, (initial_before_iff before).mp hb⟩
    · cases h
  · rintro ⟨q, c, hq, hA, hZ, hb⟩
    have hr : r = '.' :: c :: q.reverse := by
      simpa using congrArg List.reverse hq
    subst hr
    simp only [Bool.and_eq_true, decide_eq_true_eq]
    exact ⟨⟨hA, hZ⟩, (initial_before_iff q.reverse).mpr (by simpa using hb)⟩


theorem danglingPeriod_iff {cs : List Char} :
    danglingPeriod cs = true ↔ cs.getLast? = some '.' ∧ ¬ EllipsisEnd cs ∧ ¬ InitialEnd cs := by
  simp [danglingPeriod, ← endsWithEllipsis_iff, ← endsWithInitial_iff, and_assoc]

theorem not_cleanEnd_of_mark {cs : List Char} {c : Char} (hc : cs.getLast? = some c)
    (hm : isTrailingMark c = true) : ¬ CleanEnd cs := fun h => by
  simp [h.1 c hc] at hm

theorem not_cleanEnd_of_danglingPeriod {cs : List Char} (h : danglingPeriod cs = true) :
    ¬ CleanEnd cs := by
  rw [danglingPeriod_iff] at h
  obtain ⟨hlast, hell, hini⟩ := h
  intro hc
  rcases hc.2 hlast with h | h
  · exact hell h
  · exact hini h

theorem isTrailingMark_of_isBlank {c : Char} (h : isBlank c = true) : isTrailingMark c = true := by
  simp [isTrailingMark, h]

/-! ## Cuts -/

/-- A cut of `s` back to `p`: `p` begins `s`, the characters cut are droppable, and no prefix of
`s` longer than `p` is clean. -/
structure Cut (s p : List Char) : Prop where
  isPrefix : p <+: s
  droppable : ∀ c ∈ s.drop p.length, isDroppable c = true
  unclean : ∀ q, q <+: s → p.length < q.length → ¬ CleanEnd q

theorem Cut.refl (s : List Char) : Cut s s where
  isPrefix := List.prefix_refl s
  droppable := by simp
  unclean := fun _ hq hlt => absurd hq.length_le (by omega)

theorem Cut.trans {s t u : List Char} (h₁ : Cut s t) (h₂ : Cut t u) : Cut s u where
  isPrefix := h₂.isPrefix.trans h₁.isPrefix
  droppable := by
    obtain ⟨d, rfl⟩ := h₁.isPrefix
    obtain ⟨e, rfl⟩ := h₂.isPrefix
    have hd := h₁.droppable
    have he := h₂.droppable
    rw [List.drop_left] at hd he
    rw [List.append_assoc, List.drop_left]
    intro c hc
    rcases List.mem_append.mp hc with hc | hc
    · exact he c hc
    · exact hd c hc
  unclean := fun q hq hlt => by
    by_cases hle : q.length ≤ t.length
    · exact h₂.unclean q (List.prefix_of_prefix_length_le hq h₁.isPrefix hle) hlt
    · exact h₁.unclean q hq (by omega)

/-- Dropping a trailing run of characters, each of which leaves text unclean when it ends it,
is a cut. -/
theorem rdropWhile_cut {P : Char → Bool} (hP : ∀ c, P c = true → isTrailingMark c = true)
    (s : List Char) : Cut s (s.rdropWhile P) := by
  induction s using List.reverseRecOn with
  | nil => exact Cut.refl []
  | append_singleton l x ih =>
    by_cases hx : P x = true
    · rw [List.rdropWhile_concat_pos P l x hx]
      refine Cut.trans ⟨List.prefix_append l [x], ?_, ?_⟩ ih
      · simp [isDroppable, hP x hx]
      · intro q hq hlt
        rcases List.prefix_concat_iff.mp hq with rfl | hq
        · exact not_cleanEnd_of_mark (by simp) (hP x hx)
        · exact absurd hq.length_le (by omega)
    · rw [List.rdropWhile_concat_neg P l x hx]
      exact Cut.refl _

/-- Dropping a dangling period is a cut. -/
theorem dropLast_cut {r : List Char} (h : danglingPeriod r = true) : Cut r r.dropLast := by
  have hlast : r.getLast? = some '.' := (danglingPeriod_iff.mp h).1
  obtain ⟨l, rfl⟩ : ∃ l, r = l ++ ['.'] := by
    rw [List.getLast?_eq_some_iff] at hlast
    exact hlast
  rw [List.dropLast_concat]
  refine ⟨List.prefix_append l ['.'], by simp [isDroppable], fun q hq hlt => ?_⟩
  rcases List.prefix_concat_iff.mp hq with rfl | hq
  · exact not_cleanEnd_of_danglingPeriod h
  · exact absurd hq.length_le (by omega)

theorem dropTrailingMarks_eq_rdropWhile (cs : List Char) :
    dropTrailingMarks cs = cs.rdropWhile isTrailingMark := rfl

/-- A round of cleaning is a cut. -/
theorem cleanRound_cut (cs : List Char) : Cut cs (cleanRound cs) := by
  have hmarks : Cut cs (dropTrailingMarks cs) := rdropWhile_cut (fun _ h => h) cs
  have hperiod : Cut (dropTrailingMarks cs)
      (if danglingPeriod (dropTrailingMarks cs) then (dropTrailingMarks cs).dropLast
        else dropTrailingMarks cs) := by
    split
    · exact dropLast_cut ‹_›
    · exact Cut.refl _
  unfold cleanRound
  rw [trimRightChars_eq_rdropWhile]
  exact hmarks.trans (hperiod.trans (rdropWhile_cut (fun _ h => isTrailingMark_of_isBlank h) _))


/-! ## Rounds of cleaning -/

/-- A round of cleaning shortens text that is not clean: it drops a trailing blank or separator,
or a dangling period. -/
theorem cleanRound_shorter {cs : List Char} (h : ¬ CleanEnd cs) :
    (cleanRound cs).length < cs.length := by
  -- the round keeps a prefix of what its first two stages leave
  have hstages : cleanRound cs <+: if danglingPeriod (dropTrailingMarks cs)
      then (dropTrailingMarks cs).dropLast else dropTrailingMarks cs := by
    unfold cleanRound
    rw [trimRightChars_eq_rdropWhile]
    exact List.rdropWhile_prefix isBlank _
  have hne : cs ≠ [] := by
    rintro rfl
    exact h ⟨by simp, by simp⟩
  obtain ⟨l, x, rfl⟩ : ∃ l x, cs = l ++ [x] :=
    ⟨cs.dropLast, cs.getLast hne, (List.dropLast_append_getLast hne).symm⟩
  by_cases hx : isTrailingMark x = true
  · rw [dropTrailingMarks_eq_rdropWhile, List.rdropWhile_concat_pos _ l x hx] at hstages
    have h1 := hstages.length_le
    have h2 := (List.rdropWhile_prefix isTrailingMark l).length_le
    split at h1 <;> simp at h1 ⊢ <;> omega
  · -- the text ends with a period that is dangling
    have hclean : ∀ c, (l ++ [x]).getLast? = some c → isTrailingMark c = false := by
      simp_all
    have hdot : (l ++ [x]).getLast? = some '.' ∧ ¬ EllipsisEnd (l ++ [x]) ∧
        ¬ InitialEnd (l ++ [x]) := by
      by_contra hd
      refine h ⟨hclean, fun hlast => ?_⟩
      by_contra hei
      exact hd ⟨hlast, fun he => hei (.inl he), fun hi => hei (.inr hi)⟩
    rw [dropTrailingMarks_eq_rdropWhile, List.rdropWhile_concat_neg _ l x hx,
      if_pos (danglingPeriod_iff.mpr hdot), List.dropLast_concat] at hstages
    simpa using Nat.lt_succ_of_le hstages.length_le

/-- A round of cleaning changes exactly the text that is not clean. -/
theorem cleanRound_eq_self_iff {cs : List Char} : cleanRound cs = cs ↔ CleanEnd cs := by
  constructor
  · intro h
    by_contra hc
    have := cleanRound_shorter hc
    rw [h] at this
    exact Nat.lt_irrefl _ this
  · intro h
    have hmarks : dropTrailingMarks cs = cs := by
      rw [dropTrailingMarks_eq_rdropWhile, List.rdropWhile_eq_self_iff]
      intro hne hm
      have hlast := h.1 _ (List.getLast?_eq_some_getLast hne)
      rw [hm] at hlast
      cases hlast
    have hperiod : danglingPeriod cs = false := by
      by_contra hd
      exact not_cleanEnd_of_danglingPeriod (by simpa using hd) h
    have hblank : cs.rdropWhile isBlank = cs := by
      rw [List.rdropWhile_eq_self_iff]
      intro hne hb
      have hlast := h.1 _ (List.getLast?_eq_some_getLast hne)
      rw [isTrailingMark_of_isBlank hb] at hlast
      cases hlast
    simp [cleanRound, hmarks, hperiod, trimRightChars_eq_rdropWhile, hblank]


/-- Rounds of cleaning, more of them than the text has characters, cut it back to clean text. -/
theorem cleanRounds_cut : ∀ (fuel : Nat) (cs : List Char), cs.length < fuel →
    Cut cs (cleanRounds fuel cs) ∧ CleanEnd (cleanRounds fuel cs)
  | 0, _, h => absurd h (Nat.not_lt_zero _)
  | fuel + 1, cs, h => by
    unfold cleanRounds
    dsimp only
    split
    · exact ⟨Cut.refl cs, cleanRound_eq_self_iff.mp ‹_›⟩
    · rename_i hchanged
      -- the round changed the text, so it shortened it and one round less is enough
      have hshort := cleanRound_shorter (mt cleanRound_eq_self_iff.mpr hchanged)
      obtain ⟨hcut, hclean⟩ := cleanRounds_cut fuel (cleanRound cs) (by omega)
      exact ⟨(cleanRound_cut cs).trans hcut, hclean⟩

theorem cleanEndChars_cut (cs : List Char) :
    Cut (trimChars cs) (cleanEndChars cs) ∧ CleanEnd (cleanEndChars cs) :=
  cleanRounds_cut _ _ (Nat.lt_succ_self _)

/-- `p` is the longest clean prefix of `s`, and only droppable characters follow it. -/
def LongestCleanPrefix (s p : List Char) : Prop :=
  p <+: s ∧ (∀ c ∈ s.drop p.length, isDroppable c = true) ∧ CleanEnd p ∧
    ∀ q, q <+: s → CleanEnd q → q.length ≤ p.length

theorem Cut.longestCleanPrefix {s p : List Char} (h : Cut s p) (hp : CleanEnd p) :
    LongestCleanPrefix s p :=
  ⟨h.isPrefix, h.droppable, hp, fun q hq hc => by
    by_contra hlt
    exact h.unclean q hq (by omega) hc⟩

theorem LongestCleanPrefix.unique {s p p' : List Char} (h : LongestCleanPrefix s p)
    (h' : LongestCleanPrefix s p') : p = p' :=
  List.prefix_of_prefix_length_le h.1 h'.1 (h'.2.2.2 p h.1 h.2.2.1) |>.eq_of_length
    (le_antisymm (h'.2.2.2 p h.1 h.2.2.1) (h.2.2.2 p' h'.1 h'.2.2.1))

theorem cleanEndChars_of_clean {cs : List Char} (htrim : trimChars cs = cs) (h : CleanEnd cs) :
    cleanEndChars cs = cs := by
  unfold cleanEndChars
  rw [htrim]
  unfold cleanRounds
  simp [cleanRound_eq_self_iff.mpr h]

/-- **Cleaning the end of a field** cuts the trimmed field back to its longest clean prefix, and
only blanks, separators and periods are cut; so a cleaned field is cleaned no further. -/
theorem cleanEndPunctuation_longest (v : String) :
    LongestCleanPrefix (trimChars v.toList) (cleanEndPunctuation v).toList ∧
      cleanEndPunctuation (cleanEndPunctuation v) = cleanEndPunctuation v := by
  obtain ⟨hcut, hclean⟩ := cleanEndChars_cut v.toList
  refine ⟨?_, ?_⟩
  · simpa [cleanEndPunctuation] using hcut.longestCleanPrefix hclean
  · simp only [cleanEndPunctuation, String.toList_ofList]
    rw [cleanEndChars_of_clean (trimChars_cleanEndChars _) hclean]

example : cleanEndPunctuation "X..,." = "X." := by decide +kernel

end Citations.Text
