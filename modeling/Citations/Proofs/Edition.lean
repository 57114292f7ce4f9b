import Citations.Proofs.CleanEnd
import Citations.Citation.Builder

/-!
# Normal form of edition statements

Normalizing an edition statement gives the empty text or text that ends with a blank and `ed.` or
`eds.`, drops a first edition, and changes nothing when applied again
(`normalizeEdition_idempotent`).

Normalizing has four ways out: the empty text for a first edition or nothing left after cleaning,
the trimmed statement when it is already in form, the text before a word for edition with `ed.`
or `eds.`, and the cleaned statement with ` ed.` after it. Each output that is not empty is in
normal form (`EditionNormal`), and normalizing leaves such a statement as it is
(`normalizeEdition_of_normal`), through the second way out.

* Cleaning a stem with ` ed.` or ` eds.` cuts only the period and strips no brackets
  (`cleanField_ending`), by the longest clean prefix of `Proofs/CleanEnd`.
* A blank after a statement decides nothing about `1st` or `first` at its start
  (`isFirstEdition_append_blank`): no blank is a word character or matches one of their
  letters in any case (`blankCodes_no_edition_match`). So a stem is a first edition exactly when
  the statement it was cut from is.
-/

namespace Citations

open Citations.Unicode Citations.Text

/-! ## Blanks and the first edition -/

/-- No blank is a word character, and none matches a character of `1st` or `first`, whatever
the case. -/
theorem blankCodes_no_edition_match :
    blankCodes.all (fun n => !isWordChar (Char.ofNat n) &&
      ("1st".toList ++ "first".toList).all (fun p => !caselessMatch p (Char.ofNat n))) = true := by
  decide +kernel

theorem isWordChar_of_isBlank {x : Char} (h : isBlank x = true) : isWordChar x = false := by
  have hx : x.toNat ∈ blankCodes := by simpa [isBlank] using h
  have := List.all_eq_true.mp blankCodes_no_edition_match _ hx
  simp only [Char.ofNat_toNat, Bool.and_eq_true, Bool.not_eq_true'] at this
  exact this.1

theorem caselessMatch_blank {x p : Char} (h : isBlank x = true)
    (hp : p ∈ "1st".toList ++ "first".toList) :
    caselessMatch p x = false := by
  have hx : x.toNat ∈ blankCodes := by simpa [isBlank] using h
  have := List.all_eq_true.mp blankCodes_no_edition_match _ hx
  simp only [Char.ofNat_toNat, Bool.and_eq_true, Bool.not_eq_true', List.all_eq_true] at this
  simpa using this.2 p hp

theorem startsWithWord_append_blank {x : Char} (hx : isBlank x = true) :
    ∀ {pat : List Char}, (∀ p ∈ pat, caselessMatch p x = false) → ∀ (cs ys : List Char),
      startsWithWord pat (cs ++ x :: ys) = startsWithWord pat cs
  | [], _, cs, ys => by
    cases cs <;> simp [startsWithWord, caselessPrefix, wordEndsBefore, isWordChar_of_isBlank hx]
  | p :: ps, hpat, [], ys => by
    simp [startsWithWord, caselessPrefix, hpat p (by simp)]
  | p :: ps, hpat, c :: cs, ys => by
    have ih := startsWithWord_append_blank hx
      (fun q (hq : q ∈ ps) => hpat q (List.mem_cons_of_mem p hq)) cs ys
    unfold startsWithWord at ih ⊢
    by_cases hc : caselessMatch p c = true
    · simpa [caselessPrefix, hc] using ih
    · simp [caselessPrefix, hc]

theorem isFirstEdition_append_blank {x : Char} (hx : isBlank x = true) (cs ys : List Char) :
    isFirstEdition (cs ++ x :: ys) = isFirstEdition cs := by
  simp only [isFirstEdition]
  rw [startsWithWord_append_blank hx fun p hp => caselessMatch_blank hx (List.mem_append_left _ hp),
    startsWithWord_append_blank hx fun p hp => caselessMatch_blank hx (List.mem_append_right _ hp)]

/-! ## Cleaning a statement in form -/

theorem cleanEndChars_eq_of_longest {cs p : List Char}
    (h : LongestCleanPrefix (trimChars cs) p) : cleanEndChars cs = p :=
  let ⟨hcut, hclean⟩ := cleanEndChars_cut cs
  (hcut.longestCleanPrefix hclean).unique h

theorem not_cleanEnd_period {cs : List Char} {d : Char} (hd : cs.getLast? = some d)
    (hdot : d ≠ '.') (hcap : ¬ ('A' ≤ d ∧ d ≤ 'Z')) : ¬ CleanEnd (cs ++ ['.']) := by
  intro h
  rcases h.2 (by simp) with ⟨q, hq⟩ | ⟨q, c, hq, hA, hZ, -⟩
  · have hcs : cs = q ++ ['.', '.'] := by
      simpa using congrArg List.dropLast hq
    simp [hcs] at hd
    exact hdot hd.symm
  · have hcs : cs = q ++ [c] := by
      simpa using congrArg List.dropLast hq
    simp [hcs] at hd
    exact hcap (hd ▸ ⟨hA, hZ⟩)

theorem cleanEndChars_dangling {cs : List Char} (htrim : trimChars (cs ++ ['.']) = cs ++ ['.'])
    (hclean : CleanEnd cs) (hdangling : ¬ CleanEnd (cs ++ ['.'])) :
    cleanEndChars (cs ++ ['.']) = cs := by
  apply cleanEndChars_eq_of_longest
  rw [htrim]
  refine ⟨List.prefix_append cs ['.'], by simp [isDroppable], hclean, fun q hq hq' => ?_⟩
  rcases List.prefix_concat_iff.mp hq with rfl | hq
  · exact absurd hq' hdangling
  · exact hq.length_le

theorem dropWhile_blank_of_trimmed {stem : List Char} (h : trimChars stem = stem) :
    stem.dropWhile isBlank = stem :=
  dropWhile_blank_of_prefix (h ▸ trimChars_prefix_dropWhile stem)

theorem trimChars_append_of_trimmed {stem tail : List Char} (h : trimChars stem = stem)
    (hne : stem ≠ []) {x : Char} (hx : isBlank x = false) :
    trimChars (stem ++ tail ++ [x]) = stem ++ tail ++ [x] := by
  apply trimChars_eq_self
  · rw [List.append_assoc, List.dropWhile_append, dropWhile_blank_of_trimmed h]
    simp [hne]
  · rw [List.rdropWhile_concat_neg _ _ _ (by simp [hx])]

theorem cleanEnd_of_ending {stem e : List Char} (he : e = " ed".toList ∨ e = " eds".toList) :
    CleanEnd (stem ++ e) := by
  rcases he with rfl | rfl <;>
    exact ⟨fun c hc => by simp at hc; subst hc; decide, fun hc => by simp at hc⟩

theorem closingBracket?_eq_some {o k : Char} (h : closingBracket? o = some k) :
    k = ')' ∨ k = ']' ∨ k = '}' := by
  unfold closingBracket? at h
  split at h <;> cases h <;> simp

theorem stripBracketsChars_of_last {cs : List Char} (htrim : trimChars cs = cs) {d : Char}
    (hd : cs.getLast? = some d) (hclose : d ≠ ')' ∧ d ≠ ']' ∧ d ≠ '}') :
    stripBracketsChars cs = cs := by
  unfold stripBracketsChars
  rw [htrim]
  match cs, hd with
  | [_], _ => rfl
  | c :: x :: xs, hd =>
    dsimp only
    cases hk : closingBracket? c with
    | none => rfl
    | some k =>
      have hlast : (x :: xs).getLast? ≠ some k := by
        rw [show (x :: xs).getLast? = some d by simpa using hd]
        rcases closingBracket?_eq_some hk with rfl | rfl | rfl <;> simp [hclose]
      simp [hlast]

/-- A statement in form cleans to itself without its period. -/
theorem cleanField_ending {stem e : List Char} (htrim : trimChars stem = stem) (hne : stem ≠ [])
    (he : e = " ed".toList ∨ e = " eds".toList) :
    cleanField (String.ofList (stem ++ e ++ ['.'])) = String.ofList (stem ++ e) := by
  have hlast : ∃ d, (stem ++ e).getLast? = some d ∧ (d = 'd' ∨ d = 's') := by
    rcases he with rfl | rfl <;> simp
  obtain ⟨d, hd, hds⟩ := hlast
  have hblank : isBlank d = false := by rcases hds with rfl | rfl <;> decide
  have htrimmed : trimChars (stem ++ e) = stem ++ e := by
    obtain ⟨e', x, hex⟩ : ∃ e' x, e = e' ++ [x] := by
      rcases he with rfl | rfl
      · exact ⟨" e".toList, 'd', rfl⟩
      · exact ⟨" ed".toList, 's', rfl⟩
    have : x = d := by simpa [hex] using hd
    subst this
    rw [hex, ← List.append_assoc]
    exact trimChars_append_of_trimmed htrim hne hblank
  have hclean : CleanEnd (stem ++ e) := cleanEnd_of_ending he
  have hend : cleanEndChars (stem ++ e ++ ['.']) = stem ++ e :=
    cleanEndChars_dangling (trimChars_append_of_trimmed htrim hne (by decide)) hclean
      (not_cleanEnd_period hd (by rcases hds with rfl | rfl <;> decide)
        (by rcases hds with rfl | rfl <;> decide))
  have hstrip : stripBracketsChars (stem ++ e) = stem ++ e :=
    stripBracketsChars_of_last htrimmed hd (by rcases hds with rfl | rfl <;> decide)
  simp only [cleanField, cleanEndPunctuation, stripBrackets, String.toList_ofList, hend, hstrip,
    cleanEndChars_of_clean htrimmed hclean]

/-! ## The four ways out -/

theorem editionWordAtEnd?_spec {cs before word : List Char}
    (h : editionWordAtEnd? cs = some (before, word)) :
    before = [] ∨ ∃ b tail, isBlank b = true ∧ cs = before ++ b :: tail := by
  unfold editionWordAtEnd? at h
  obtain ⟨w, -, hw⟩ := List.exists_of_findSome?_eq_some h
  obtain ⟨k, -, hk⟩ := List.exists_of_findSome?_eq_some hw
  dsimp only at hk
  obtain ⟨-, hk⟩ := Option.ite_none_right_eq_some.mp hk
  -- the text before the word, reversed, is empty or begins with a blank
  generalize hrev : (cs.take (cs.length - k)).reverse = r at hk
  rcases r with _ | ⟨b, rest⟩
  · cases hk
    exact .inl rfl
  · obtain ⟨hb, hk⟩ := Option.ite_none_right_eq_some.mp hk
    cases hk
    refine .inr ⟨b, cs.drop (cs.length - k), hb, ?_⟩
    have htake : cs.take (cs.length - k) = rest.reverse ++ [b] := by
      rw [← List.reverse_reverse (cs.take _), hrev, List.reverse_cons]
    calc cs = cs.take (cs.length - k) ++ cs.drop (cs.length - k) :=
          (List.take_append_drop _ _).symm
      _ = rest.reverse ++ b :: cs.drop (cs.length - k) := by simp [htake]

/-- An edition statement that normalizing keeps as it is: trimmed, in the form `… ed.` or
`… eds.`, and cleaning it leaves text that is no first edition. -/
structure EditionNormal (w : String) : Prop where
  trimmed : trim w = w
  form : isEditionForm w.toList = true
  cleaned_ne : cleanField w ≠ ""
  not_first : isFirstEdition (cleanField w).toList = false

/-- Normalizing keeps a statement in normal form. -/
theorem normalizeEdition_of_normal {w : String} (h : EditionNormal w) : normalizeEdition w = w := by
  have hne : (cleanField w).isEmpty = false := by simpa using h.cleaned_ne
  simp [normalizeEdition, h.trimmed, hne, h.not_first, h.form]

theorem isFirstEdition_append_blanks {bl : List Char} (hbl : ∀ c ∈ bl, isBlank c = true)
    {b : Char} (hb : isBlank b = true) (cs tail : List Char) :
    isFirstEdition (cs ++ bl ++ b :: tail) = isFirstEdition cs := by
  cases bl with
  | nil => simpa using isFirstEdition_append_blank hb cs tail
  | cons x xs =>
    simpa using isFirstEdition_append_blank (hbl x (by simp)) cs (xs ++ b :: tail)

theorem editionNormal_ending {stem : String} (htrim : trim stem = stem) (hne : stem ≠ "")
    (hfirst : isFirstEdition stem.toList = false) {e : String} (he : e = " ed." ∨ e = " eds.") :
    EditionNormal (stem ++ e) := by
  have htrimL : trimChars stem.toList = stem.toList := by
    simpa [trim] using congrArg String.toList htrim
  have hneL : stem.toList ≠ [] := by simpa using hne
  obtain ⟨e', he', hsplit⟩ : ∃ e', (e' = " ed".toList ∨ e' = " eds".toList) ∧
      (stem ++ e).toList = stem.toList ++ e' ++ ['.'] := by
    rcases he with rfl | rfl
    · exact ⟨" ed".toList, .inl rfl, by simp⟩
    · exact ⟨" eds".toList, .inr rfl, by simp⟩
  have hclean : cleanField (stem ++ e) = String.ofList (stem.toList ++ e') := by
    rw [← String.ofList_toList (s := stem ++ e), hsplit]
    exact cleanField_ending htrimL hneL he'
  refine ⟨?_, ?_, ?_, ?_⟩
  · apply String.toList_injective
    rw [toList_trim, hsplit]
    exact trimChars_append_of_trimmed htrimL hneL (by decide)
  · rw [hsplit]
    rcases he' with rfl | rfl <;> simp [isEditionForm] <;> decide
  · rw [hclean]
    intro h
    exact hneL (List.append_eq_nil_iff.mp (String.ofList_eq_empty_iff.mp h)).1
  · rw [hclean, String.toList_ofList]
    obtain ⟨w, rfl⟩ : ∃ w, e' = ' ' :: w := by rcases he' with rfl | rfl <;> exact ⟨_, rfl⟩
    rw [isFirstEdition_append_blank (by decide), hfirst]

theorem isFirstEdition_before_word {cs before word : List Char} (htrim : trimChars cs = cs)
    (hfirst : isFirstEdition cs = false) (hw : editionWordAtEnd? cs = some (before, word))
    (hne : trim (String.ofList before) ≠ "") :
    isFirstEdition (trim (String.ofList before)).toList = false := by
  rcases editionWordAtEnd?_spec hw with rfl | ⟨b, tail, hb, hcs⟩
  · exact absurd (by simp [trimChars, trimRightChars]) hne
  · have hlead : before.dropWhile isBlank = before := by
      apply dropWhile_blank_of_prefix
      rw [dropWhile_blank_of_trimmed htrim, hcs]
      exact List.prefix_append _ _
    have hsplit : before = before.rdropWhile isBlank ++ before.rtakeWhile isBlank :=
      List.rdropWhile_append_rtakeWhile.symm
    have hstemL : (trim (String.ofList before)).toList = before.rdropWhile isBlank := by
      simp [trimChars, hlead, trimRightChars_eq_rdropWhile]
    rw [hstemL, ← isFirstEdition_append_blanks (fun c hc => List.mem_rtakeWhile_imp hc) hb
      _ tail, ← hsplit, ← hcs, hfirst]

/-- Normalizing gives the empty text or a statement in normal form. -/
theorem normalizeEdition_empty_or_normal (v : String) :
    normalizeEdition v = "" ∨ EditionNormal (normalizeEdition v) := by
  unfold normalizeEdition
  dsimp only
  -- the cleaned statement, trimmed
  have hct : trim (cleanField (trim v)) = cleanField (trim v) := trim_cleanField _
  have hctL : trimChars (cleanField (trim v)).toList = (cleanField (trim v)).toList := by
    simpa [trim] using congrArg String.toList hct
  by_cases h1 :
      ((cleanField (trim v)).isEmpty || isFirstEdition (cleanField (trim v)).toList) = true
  · exact .inl (if_pos h1)
  rw [if_neg h1]
  simp only [Bool.or_eq_true, not_or, Bool.not_eq_true, String.isEmpty_eq_false_iff] at h1
  obtain ⟨hne, hfirst⟩ := h1
  by_cases h2 : isEditionForm (trim v).toList = true
  · rw [if_pos h2]
    exact .inr ⟨trim_trim v, h2, hne, hfirst⟩
  rw [if_neg h2]
  cases hw : editionWordAtEnd? (cleanField (trim v)).toList with
  | none => exact .inr (editionNormal_ending hct hne hfirst (.inl rfl))
  | some bw =>
    obtain ⟨before, word⟩ := bw
    dsimp only
    by_cases h3 : (trim (String.ofList before)).isEmpty = true
    · exact .inl (if_pos h3)
    rw [if_neg h3]
    simp only [Bool.not_eq_true, String.isEmpty_eq_false_iff] at h3
    have hstem := isFirstEdition_before_word hctL hfirst hw h3
    refine .inr (editionNormal_ending (trim_trim _) h3 hstem ?_)
    split
    · exact .inr rfl
    · exact .inl rfl

/-! ## Normalizing twice -/

theorem isEditionForm_iff {cs : List Char} :
    isEditionForm cs = true ↔ ∃ pre b, isBlank b = true ∧
      (cs = pre ++ b :: "ed.".toList ∨ cs = pre ++ b :: "eds.".toList) := by
  obtain ⟨r, rfl⟩ : ∃ r, cs = r.reverse := ⟨cs.reverse, cs.reverse_reverse.symm⟩
  constructor
  · intro h
    unfold isEditionForm at h
    rw [List.reverse_reverse] at h
    split at h
    · rename_i b rest
      exact ⟨rest.reverse, b, h, .inl (by simp)⟩
    · rename_i b rest
      exact ⟨rest.reverse, b, h, .inr (by simp)⟩
    · cases h
  · rintro ⟨pre, b, hb, h | h⟩
    · have hr : r = '.' :: 'd' :: 'e' :: b :: pre.reverse := by simpa using congrArg List.reverse h
      simp [hr, isEditionForm, hb]
    · have hr : r = '.' :: 's' :: 'd' :: 'e' :: b :: pre.reverse := by
        simpa using congrArg List.reverse h
      simp [hr, isEditionForm, hb]

theorem normalizeEdition_empty : normalizeEdition "" = "" := by decide

/-- **Normalizing an edition statement** gives the empty text or text that ends with a blank and
`ed.` or `eds.`; it gives the empty text when the cleaned statement is empty or starts with `1st`
or `first` as a whole word, in any case; and normalizing again changes nothing. -/
theorem normalizeEdition_idempotent (v : String) :
    (normalizeEdition v = "" ∨ ∃ pre b, isBlank b = true ∧
        ((normalizeEdition v).toList = pre ++ b :: "ed.".toList ∨
          (normalizeEdition v).toList = pre ++ b :: "eds.".toList)) ∧
      (cleanField (trim v) = "" ∨ startsWithWord "1st".toList (cleanField (trim v)).toList ∨
          startsWithWord "first".toList (cleanField (trim v)).toList → normalizeEdition v = "") ∧
      normalizeEdition (normalizeEdition v) = normalizeEdition v := by
  refine ⟨?_, ?_, ?_⟩
  · exact (normalizeEdition_empty_or_normal v).imp_right fun h => isEditionForm_iff.mp h.form
  · intro h
    have hdrop : ((cleanField (trim v)).isEmpty || isFirstEdition (cleanField (trim v)).toList)
        = true := by
      rw [Bool.or_eq_true, isFirstEdition, Bool.or_eq_true]
      rcases h with h | h | h
      · exact .inl (by simp [h])
      · exact .inr (.inl h)
      · exact .inr (.inr h)
    simp [normalizeEdition, hdrop]
  · rcases normalizeEdition_empty_or_normal v with h | h
    · rw [h, normalizeEdition_empty]
    · exact normalizeEdition_of_normal h

example : normalizeEdition "[2nd ed.]" = "2nd ed." := by decide +kernel

end Citations
