import Citations.Proofs.Tables
import Citations.Text.Titles
import Mathlib.Data.List.Forall2

/-!
# Title case and sentence case

Both casings split a title into its words, case each word on its own, and join the results with
single spaces (`caseWords`). A word is lowered or given a capital first letter, and in sentence
case it may also stay as it is; the cased text splits back into exactly the cased words
(`caseWords_frame`). The main result is `titleCase_sentenceCase_stable`.

* Lower case and a capital first letter are each stable (`lower_lower`,
  `upperFirst_upperFirst`): every character they write is its own lower (upper) case, by a scan
  of the case tables (`mem_lowerFull`, `mem_upperFull`).
* Neither changes whether a word ends with a colon (`endsWith_lower_colon`,
  `endsWith_upperFirst_colon`), so a second pass takes each word with the same capital flag. The
  same holds of every character that casing leaves alone and writes for no other (`Caseless`),
  a comma or an opening parenthesis among them, and casing writes such a character only where
  the word has it.
* Then casing twice is casing once as soon as each word is stable under the step it took
  (`caseWords_caseWords`). This holds for every word in sentence case. In title case it holds
  unless the capital first letter turns a word into a small word: the dotless i of "ıt"
  upper-cases to I, and "It" lowers to the small word "it" (`titleCase_dotless_i_twice`).
-/

namespace Citations.Text

open Citations.Unicode

/-! ## Splitting into words -/

theorem wordsOf_cons_of_not_blank {c : Char} (hc : isBlank c = false) (cs : List Char) :
    wordsOf (c :: cs) = match wordsOf cs with
      | w :: ws => if cs.head?.any isBlank then [c] :: w :: ws else (c :: w) :: ws
      | [] => [[c]] := by
  rw [wordsOf]
  exact if_neg (by simp [hc])

theorem wordsOf_cons_of_blank {c : Char} (hc : isBlank c = true) (cs : List Char) :
    wordsOf (c :: cs) = wordsOf cs := by
  rw [wordsOf, if_pos hc]

theorem wordsOf_word_append {w : List Char} (hw : ∀ c ∈ w, isBlank c = false) (hne : w ≠ [])
    {b : Char} (hb : isBlank b = true) (rest : List Char) :
    wordsOf (w ++ b :: rest) = w :: wordsOf rest := by
  induction w with
  | nil => exact absurd rfl hne
  | cons c w ih =>
    rw [List.cons_append, wordsOf_cons_of_not_blank (hw c (by simp))]
    cases w with
    | nil =>
      rw [List.nil_append, wordsOf_cons_of_blank hb]
      cases wordsOf rest <;> simp [hb]
    | cons c' w =>
      rw [ih (fun x hx => hw x (List.mem_cons_of_mem c hx)) (by simp)]
      simp [hw c' (by simp)]

theorem wordsOf_word {w : List Char} (hw : ∀ c ∈ w, isBlank c = false) (hne : w ≠ []) :
    wordsOf w = [w] := by
  induction w with
  | nil => exact absurd rfl hne
  | cons c w ih =>
    rw [wordsOf_cons_of_not_blank (hw c (by simp))]
    cases w with
    | nil => rfl
    | cons c' w =>
      rw [ih (fun x hx => hw x (List.mem_cons_of_mem c hx)) (by simp)]
      simp [hw c' (by simp)]

/-- A word: text that is not empty and has no blank. -/
def IsWord (w : String) : Prop := w ≠ "" ∧ ∀ c ∈ w.toList, isBlank c = false

theorem wordsOf_intercalate : ∀ {ws : List (List Char)},
    (∀ w ∈ ws, w ≠ [] ∧ ∀ c ∈ w, isBlank c = false) →
      wordsOf (List.intercalate [' '] ws) = ws
  | [], _ => rfl
  | [w], h => by
    rw [List.intercalate_singleton]
    exact wordsOf_word (h w (by simp)).2 (h w (by simp)).1
  | w :: w' :: ws, h => by
    rw [List.intercalate_cons_cons, List.append_assoc, List.singleton_append]
    rw [wordsOf_word_append (h w (by simp)).2 (h w (by simp)).1 (by decide)]
    rw [wordsOf_intercalate (fun x hx => h x (List.mem_cons_of_mem w hx))]

theorem words_intercalate {ws : List String} (h : ∀ w ∈ ws, IsWord w) :
    words (" ".intercalate ws) = ws := by
  have hlists : ∀ w ∈ ws.map String.toList, w ≠ [] ∧ ∀ c ∈ w, isBlank c = false := by
    simp only [List.mem_map]
    rintro _ ⟨w, hw, rfl⟩
    exact ⟨by simpa using (h w hw).1, (h w hw).2⟩
  have hsep : " ".toList = [' '] := rfl
  rw [words, String.toList_intercalate, hsep, wordsOf_intercalate hlists, List.map_map]
  simp

/-! ## Lower case -/

theorem lowerFull_sigma_small : lowerFull 'σ' = ['σ'] ∧ lowerFull 'ς' = ['ς'] := by
  decide +kernel

theorem lowerFixed_of_mem_lowerAfter {d : Char} :
    ∀ {before cs : List Char}, d ∈ lowerAfter before cs → lowerFull d = [d] ∧ d ≠ 'Σ'
  | _, [], hd => by simp [lowerAfter] at hd
  | before, c :: rest, hd => by
    rw [lowerAfter, List.mem_append] at hd
    rcases hd with hd | hd
    · split at hd
      · -- a capital sigma becomes a small one, final or not
        split at hd <;> simp only [List.mem_singleton] at hd <;> subst hd <;>
          exact ⟨by simp [lowerFull_sigma_small], by decide⟩
      · rename_i hc
        rcases mem_lowerFull hd with ⟨hfix, rfl⟩ | himg
        · exact ⟨hfix, hc⟩
        · exact ⟨himg.fixed, himg.ne_sigma⟩
    · exact lowerFixed_of_mem_lowerAfter hd

theorem lowerAfter_of_fixed : ∀ {before cs : List Char},
    (∀ d ∈ cs, lowerFull d = [d] ∧ d ≠ 'Σ') → lowerAfter before cs = cs
  | _, [], _ => rfl
  | before, c :: rest, h => by
    have hc := h c (by simp)
    rw [lowerAfter, if_neg hc.2, hc.1, lowerAfter_of_fixed (fun d hd => h d (by simp [hd]))]
    rfl

theorem lowerChars_lowerChars (cs : List Char) : lowerChars (lowerChars cs) = lowerChars cs :=
  lowerAfter_of_fixed fun _ hd => lowerFixed_of_mem_lowerAfter hd

/-- Lower case is lower case once and for all. -/
theorem lower_lower (s : String) : lower (lower s) = lower s := by
  simp [lower, lowerChars_lowerChars]

/-! ## The first letter in upper case -/

theorem upperFull_fixed_of_mem {c d : Char} (hd : d ∈ upperFull c) : upperFull d = [d] := by
  rcases mem_upperFull hd with ⟨hfix, rfl⟩ | himg
  · exact hfix
  · exact himg.fixed

theorem upperFirstChars_of_fixed : ∀ {pre : List Char}, (∀ d ∈ pre, upperFull d = [d]) →
    (∃ d ∈ pre, isLetter d = true) → ∀ rest, upperFirstChars (pre ++ rest) = pre ++ rest
  | [], _, ⟨_, hd, _⟩, _ => absurd hd List.not_mem_nil
  | d :: pre, hfix, ⟨x, hx, hletter⟩, rest => by
    rw [List.cons_append, upperFirstChars]
    split
    · rw [hfix d (by simp)]
      rfl
    · rename_i hd
      have hx' : x ∈ pre := by
        rcases List.mem_cons.mp hx with rfl | hx
        · exact absurd hletter hd
        · exact hx
      rw [upperFirstChars_of_fixed (fun y hy => hfix y (by simp [hy])) ⟨x, hx', hletter⟩ rest]

theorem upperFirstChars_upperFirstChars :
    ∀ cs : List Char, upperFirstChars (upperFirstChars cs) = upperFirstChars cs
  | [] => rfl
  | c :: rest => by
    rw [upperFirstChars]
    split
    · rename_i hc
      exact upperFirstChars_of_fixed (fun _ hd => upperFull_fixed_of_mem hd)
        (exists_letter_upperFull hc) rest
    · rename_i hc
      rw [upperFirstChars, if_neg hc, upperFirstChars_upperFirstChars rest]

/-- Upper-casing the first letter of a word twice is doing it once. -/
theorem upperFirst_upperFirst (w : String) : upperFirst (upperFirst w) = upperFirst w := by
  simp [upperFirst, upperFirstChars_upperFirstChars]

/-! ## Words stay words -/

theorem lowerAfter_ne_nil {before cs : List Char} (h : cs ≠ []) : lowerAfter before cs ≠ [] := by
  obtain ⟨c, rest, rfl⟩ := List.exists_cons_of_ne_nil h
  rw [lowerAfter]
  split
  · simp
  · simp [lowerFull_ne_nil]

theorem not_blank_of_mem_lowerAfter {d : Char} :
    ∀ {before cs : List Char}, (∀ c ∈ cs, isBlank c = false) → d ∈ lowerAfter before cs →
      isBlank d = false
  | _, [], _, hd => by simp [lowerAfter] at hd
  | before, c :: rest, hcs, hd => by
    rw [lowerAfter, List.mem_append] at hd
    rcases hd with hd | hd
    · split at hd
      · split at hd <;> simp only [List.mem_singleton] at hd <;> subst hd <;> decide
      · rcases mem_lowerFull hd with ⟨-, rfl⟩ | himg
        · exact hcs d (by simp)
        · exact himg.not_blank
    · exact not_blank_of_mem_lowerAfter (fun x hx => hcs x (by simp [hx])) hd

theorem upperFirstChars_ne_nil {cs : List Char} (h : cs ≠ []) : upperFirstChars cs ≠ [] := by
  obtain ⟨c, rest, rfl⟩ := List.exists_cons_of_ne_nil h
  rw [upperFirstChars]
  split
  · simp [upperFull_ne_nil]
  · simp

theorem not_blank_of_mem_upperFirstChars {d : Char} {cs : List Char}
    (hcs : ∀ c ∈ cs, isBlank c = false) (hd : d ∈ upperFirstChars cs) : isBlank d = false := by
  induction cs with
  | nil => exact absurd hd List.not_mem_nil
  | cons c rest ih =>
    rw [upperFirstChars] at hd
    split at hd
    · rcases List.mem_append.mp hd with hd | hd
      · rcases mem_upperFull hd with ⟨-, rfl⟩ | himg
        · exact hcs d List.mem_cons_self
        · exact himg.not_blank
      · exact hcs d (List.mem_cons_of_mem c hd)
    · rcases List.mem_cons.mp hd with rfl | hd
      · exact hcs d List.mem_cons_self
      · exact ih (fun x hx => hcs x (List.mem_cons_of_mem c hx)) hd

/-! ## Characters that casing keeps -/

/-- A character that casing leaves alone and writes for no other character, such as a colon, a
comma or an opening parenthesis. -/
structure Caseless (x : Char) : Prop where
  lower_self : lowerFull x = [x]
  upper_self : upperFull x = [x]
  lower_image : ∀ {d}, LowerImage d → d ≠ x
  upper_image : ∀ {d}, UpperImage d → d ≠ x
  not_sigma : x ≠ 'Σ' ∧ x ≠ 'σ' ∧ x ≠ 'ς'

theorem caseless_colon : Caseless ':' :=
  ⟨by decide +kernel, by decide +kernel, fun h => h.ne_colon, fun h => h.ne_colon, by decide⟩

theorem Caseless.eq_of_mem_lowerFull {x c : Char} (hx : Caseless x) (h : x ∈ lowerFull c) :
    c = x := by
  rcases mem_lowerFull h with ⟨-, hc⟩ | himg
  · exact hc.symm
  · exact absurd rfl (hx.lower_image himg)

theorem Caseless.eq_of_mem_upperFull {x c : Char} (hx : Caseless x) (h : x ∈ upperFull c) :
    c = x := by
  rcases mem_upperFull h with ⟨-, hc⟩ | himg
  · exact hc.symm
  · exact absurd rfl (hx.upper_image himg)

theorem Caseless.getLast?_lowerAfter {x : Char} (hx : Caseless x) :
    ∀ {before cs : List Char}, (lowerAfter before cs).getLast? = some x ↔ cs.getLast? = some x
  | _, [] => by simp [lowerAfter]
  | before, c :: rest => by
    rw [lowerAfter]
    cases rest with
    | nil =>
      simp only [lowerAfter, List.append_nil, List.getLast?_singleton, Option.some.injEq]
      split
      · rename_i hc
        subst hc
        -- a capital sigma becomes a small one, and none of the three is `x`
        obtain ⟨h1, h2, h3⟩ := hx.not_sigma
        split <;> simp [Ne.symm h1, Ne.symm h2, Ne.symm h3]
      · constructor
        · intro h
          exact hx.eq_of_mem_lowerFull (List.mem_of_getLast? h)
        · rintro rfl
          simp [hx.lower_self]
    | cons c' rest =>
      rw [List.getLast?_append_of_ne_nil _ (lowerAfter_ne_nil (List.cons_ne_nil c' rest)),
        hx.getLast?_lowerAfter, List.getLast?_cons_cons]

theorem Caseless.getLast?_upperFirstChars {x : Char} (hx : Caseless x) :
    ∀ {cs : List Char}, (upperFirstChars cs).getLast? = some x ↔ cs.getLast? = some x
  | [] => by simp [upperFirstChars]
  | c :: rest => by
    rw [upperFirstChars]
    split
    · cases rest with
      | nil =>
        simp only [List.append_nil, List.getLast?_singleton, Option.some.injEq]
        constructor
        · intro h
          exact hx.eq_of_mem_upperFull (List.mem_of_getLast? h)
        · rintro rfl
          simp [hx.upper_self]
      | cons c' rest =>
        rw [List.getLast?_append_of_ne_nil _ (List.cons_ne_nil c' rest)]
        simp
    · cases rest with
      | nil => rfl
      | cons c' rest =>
        rw [← List.singleton_append, List.getLast?_append_of_ne_nil _
          (upperFirstChars_ne_nil (List.cons_ne_nil c' rest)), hx.getLast?_upperFirstChars,
          List.getLast?_cons_cons]

theorem Caseless.mem_lowerAfter {x : Char} (hx : Caseless x) :
    ∀ {before cs : List Char}, x ∈ lowerAfter before cs → x ∈ cs
  | _, [], h => by simp [lowerAfter] at h
  | before, c :: rest, h => by
    rw [lowerAfter, List.mem_append] at h
    rcases h with h | h
    · split at h
      · obtain ⟨-, h2, h3⟩ := hx.not_sigma
        split at h <;> simp only [List.mem_singleton] at h
        · exact absurd h h3
        · exact absurd h h2
      · rw [hx.eq_of_mem_lowerFull h]
        exact List.mem_cons_self
    · exact List.mem_cons_of_mem c (hx.mem_lowerAfter h)

theorem Caseless.mem_upperFirstChars {x : Char} (hx : Caseless x) {cs : List Char}
    (h : x ∈ upperFirstChars cs) : x ∈ cs := by
  induction cs with
  | nil => simp [upperFirstChars] at h
  | cons c rest ih =>
    rw [upperFirstChars] at h
    split at h
    · rcases List.mem_append.mp h with h | h
      · rw [hx.eq_of_mem_upperFull h]
        exact List.mem_cons_self
      · exact List.mem_cons_of_mem c h
    · rcases List.mem_cons.mp h with h | h
      · rw [h]
        exact List.mem_cons_self
      · exact List.mem_cons_of_mem c (ih h)

theorem isWord_of_mem_wordsOf {w : List Char} :
    ∀ {cs : List Char}, w ∈ wordsOf cs → w ≠ [] ∧ ∀ c ∈ w, isBlank c = false
  | [], h => absurd h List.not_mem_nil
  | c :: cs, h => by
    by_cases hc : isBlank c = true
    · rw [wordsOf_cons_of_blank hc] at h
      exact isWord_of_mem_wordsOf h
    · have hc : isBlank c = false := by simpa using hc
      have ih : ∀ x ∈ wordsOf cs, x ≠ [] ∧ ∀ c ∈ x, isBlank c = false :=
        fun x hx => isWord_of_mem_wordsOf hx
      rw [wordsOf_cons_of_not_blank hc] at h
      split at h
      · rename_i w' ws' hsplit
        rw [hsplit] at ih
        split at h
        · rcases List.mem_cons.mp h with rfl | h
          · simp [hc]
          · exact ih w h
        · rcases List.mem_cons.mp h with rfl | h
          · refine ⟨List.cons_ne_nil c w', fun x hx => ?_⟩
            rcases List.mem_cons.mp hx with rfl | hx
            · exact hc
            · exact (ih w' List.mem_cons_self).2 x hx
          · exact ih w (List.mem_cons_of_mem _ h)
      · rw [List.mem_singleton] at h
        subst h
        simp [hc]

theorem isWord_of_mem_words {t w : String} (h : w ∈ words t) : IsWord w := by
  rw [words, List.mem_map] at h
  obtain ⟨cs, hcs, rfl⟩ := h
  obtain ⟨hne, hblank⟩ := isWord_of_mem_wordsOf hcs
  exact ⟨by simpa using hne, by simpa using hblank⟩

theorem IsWord.lower {w : String} (h : IsWord w) : IsWord (lower w) := by
  have hne : w.toList ≠ [] := by simpa using h.1
  refine ⟨?_, fun c hc => ?_⟩
  · simpa [Text.lower, lowerChars] using @lowerAfter_ne_nil [] _ hne
  · simp only [Text.lower, lowerChars, String.toList_ofList] at hc
    exact not_blank_of_mem_lowerAfter h.2 hc

theorem IsWord.upperFirst {w : String} (h : IsWord w) : IsWord (upperFirst w) := by
  have hne : w.toList ≠ [] := by simpa using h.1
  refine ⟨?_, fun c hc => ?_⟩
  · simpa [Text.upperFirst] using upperFirstChars_ne_nil hne
  · simp only [Text.upperFirst, String.toList_ofList] at hc
    exact not_blank_of_mem_upperFirstChars h.2 hc

theorem endsWith_colon_iff {s : String} : endsWith s ":" = true ↔ s.toList.getLast? = some ':' := by
  rw [endsWith, List.isSuffixOf_iff_suffix]
  exact List.singleton_suffix_iff_getLast?_eq_some

theorem endsWith_lower_colon (w : String) : endsWith (lower w) ":" = endsWith w ":" := by
  rw [Bool.eq_iff_iff, endsWith_colon_iff, endsWith_colon_iff]
  simpa [lower, lowerChars] using caseless_colon.getLast?_lowerAfter

theorem endsWith_upperFirst_colon (w : String) :
    endsWith (upperFirst w) ":" = endsWith w ":" := by
  rw [Bool.eq_iff_iff, endsWith_colon_iff, endsWith_colon_iff]
  simpa [upperFirst] using caseless_colon.getLast?_upperFirstChars

theorem isWord_of_cased {w w' : String} (hw : IsWord w)
    (h : w' = w ∨ w' = lower w ∨ w' = upperFirst w) : IsWord w' := by
  rcases h with rfl | rfl | rfl
  · exact hw
  · exact hw.lower
  · exact hw.upperFirst

theorem endsWith_colon_of_cased {w w' : String}
    (h : w' = w ∨ w' = lower w ∨ w' = upperFirst w) : endsWith w' ":" = endsWith w ":" := by
  rcases h with rfl | rfl | rfl
  · rfl
  · exact endsWith_lower_colon w
  · exact endsWith_upperFirst_colon w

/-! ## Casing word by word -/

section CaseWords

variable {step : Bool → String → String}

theorem caseWords_go_forall₂ : ∀ (capital : Bool) (ws : List String),
    List.Forall₂ (fun w w' => ∃ capital', w' = step capital' w) ws (caseWords.go step capital ws)
  | _, [] => List.Forall₂.nil
  | capital, _ :: ws => List.Forall₂.cons ⟨capital, rfl⟩ (caseWords_go_forall₂ _ ws)

theorem isWord_of_mem_caseWords_go (hword : ∀ capital w, IsWord w → IsWord (step capital w)) :
    ∀ {capital : Bool} {ws : List String}, (∀ w ∈ ws, IsWord w) →
      ∀ w' ∈ caseWords.go step capital ws, IsWord w'
  | _, [], _, _, h' => absurd h' List.not_mem_nil
  | capital, w :: ws, h, w', h' => by
    rcases List.mem_cons.mp h' with rfl | h'
    · exact hword capital w (h w List.mem_cons_self)
    · exact isWord_of_mem_caseWords_go hword (fun x hx => h x (List.mem_cons_of_mem w hx)) w' h'

/-- When the step keeps words words, the cased text splits back into the cased words. -/
theorem words_caseWords (hword : ∀ capital w, IsWord w → IsWord (step capital w))
    (title : String) : words (caseWords step title) = caseWords.go step true (words title) :=
  words_intercalate (isWord_of_mem_caseWords_go hword (fun _ => isWord_of_mem_words))

/-- Casing the cased words again changes nothing when each word is stable under the step it
took and the step keeps the colon that ends a word, so that the same steps are taken. -/
theorem caseWords_go_go (hcolon : ∀ capital w, endsWith (step capital w) ":" = endsWith w ":") :
    ∀ (capital : Bool) {ws : List String},
      (∀ w ∈ ws, ∀ capital, step capital (step capital w) = step capital w) →
        caseWords.go step capital (caseWords.go step capital ws) = caseWords.go step capital ws
  | _, [], _ => rfl
  | capital, w :: ws, h => by
    simp only [caseWords.go, hcolon, h w List.mem_cons_self]
    rw [caseWords_go_go hcolon _ (fun x hx => h x (List.mem_cons_of_mem w hx))]

/-- Casing twice is casing once for a step that leaves each word, lowers it or gives it a
capital first letter, as soon as each word of the text is stable under its step. -/
theorem caseWords_caseWords
    (hcased : ∀ capital w, step capital w = w ∨ step capital w = lower w ∨
      step capital w = upperFirst w) {title : String}
    (hstable : ∀ w ∈ words title, ∀ capital, step capital (step capital w) = step capital w) :
    caseWords step (caseWords step title) = caseWords step title := by
  have hword : ∀ capital w, IsWord w → IsWord (step capital w) := fun capital w hw =>
    isWord_of_cased hw (hcased capital w)
  have hcolon : ∀ capital w, endsWith (step capital w) ":" = endsWith w ":" := fun capital w =>
    endsWith_colon_of_cased (hcased capital w)
  show " ".intercalate (caseWords.go step true (words (caseWords step title))) = _
  rw [words_caseWords hword, caseWords_go_go hcolon true hstable]
  rfl

/-- A cased text is its words, each cased by the step in one of its two ways, joined by single
spaces; it splits back into exactly those words. -/
theorem caseWords_frame
    (hcased : ∀ capital w, step capital w = w ∨ step capital w = lower w ∨
      step capital w = upperFirst w)
    {p : String → String → Prop} (hp : ∀ capital w, p w (step capital w)) (t : String) :
    ∃ ws, caseWords step t = " ".intercalate ws ∧ words (caseWords step t) = ws ∧
      List.Forall₂ p (words t) ws := by
  have hword : ∀ capital w, IsWord w → IsWord (step capital w) := fun capital w hw =>
    isWord_of_cased hw (hcased capital w)
  refine ⟨caseWords.go step true (words t), rfl, words_caseWords hword t, ?_⟩
  refine (caseWords_go_forall₂ true (words t)).imp ?_
  rintro w _ ⟨capital, rfl⟩
  exact hp capital w

end CaseWords

/-! ## Title case and sentence case -/

/-- The step title case takes for each word. -/
def titleStep (capital : Bool) (w : String) : String :=
  if capital || !smallWords.contains (lower w) then upperFirst w else lower w

/-- The step sentence case takes for each word. -/
def sentenceStep (capital : Bool) (w : String) : String :=
  if capital then upperFirst w else if isPlainCapitalized w then lower w else w

theorem titleCase_eq_caseWords (t : String) : titleCase t = caseWords titleStep t := rfl

theorem sentenceCase_eq_caseWords (t : String) : sentenceCase t = caseWords sentenceStep t := rfl

theorem titleStep_cases (capital : Bool) (w : String) :
    titleStep capital w = lower w ∨ titleStep capital w = upperFirst w := by
  unfold titleStep
  split <;> simp

theorem sentenceStep_cases (capital : Bool) (w : String) :
    sentenceStep capital w = w ∨ sentenceStep capital w = lower w ∨
      sentenceStep capital w = upperFirst w := by
  unfold sentenceStep
  split
  · simp
  · split <;> simp

theorem titleStep_capital (w : String) : titleStep true w = upperFirst w := rfl

theorem sentenceStep_capital (w : String) : sentenceStep true w = upperFirst w := rfl

theorem titleStep_of_small {w : String} (h : smallWords.contains (lower w) = true) :
    titleStep false w = lower w := by
  simp only [titleStep, h, Bool.not_true, Bool.or_self, Bool.false_eq_true, if_false]

theorem titleStep_of_not_small {w : String} (h : smallWords.contains (lower w) = false) :
    titleStep false w = upperFirst w := by
  simp only [titleStep, h, Bool.not_false, Bool.false_or, if_true]

theorem sentenceStep_of_plain {w : String} (h : isPlainCapitalized w = true) :
    sentenceStep false w = lower w := by
  simp only [sentenceStep, h, Bool.false_eq_true, if_false, if_true]

theorem sentenceStep_of_not_plain {w : String} (h : isPlainCapitalized w = false) :
    sentenceStep false w = w := by
  simp only [sentenceStep, h, Bool.false_eq_true, if_false]

/-- A word stays as title case left it, unless upper-casing its first letter made it a small
word: then it took the capital first and the lower case second. -/
theorem titleStep_titleStep {w : String}
    (h : smallWords.contains (lower (upperFirst w)) = true → smallWords.contains (lower w) = true)
    (capital : Bool) : titleStep capital (titleStep capital w) = titleStep capital w := by
  cases capital with
  | true => rw [titleStep_capital, titleStep_capital, upperFirst_upperFirst]
  | false =>
    cases hsmall : smallWords.contains (lower w) with
    | true =>
      have hsmall₂ : smallWords.contains (lower (lower w)) = true := by rwa [lower_lower]
      rw [titleStep_of_small hsmall, titleStep_of_small hsmall₂, lower_lower]
    | false =>
      -- the capital first letter must not make the word small, or the second pass lowers it
      have hsmall₂ : smallWords.contains (lower (upperFirst w)) = false :=
        Bool.eq_false_iff.mpr fun h' => by rw [h h'] at hsmall; exact Bool.noConfusion hsmall
      rw [titleStep_of_not_small hsmall, titleStep_of_not_small hsmall₂, upperFirst_upperFirst]

theorem sentenceStep_sentenceStep (capital : Bool) (w : String) :
    sentenceStep capital (sentenceStep capital w) = sentenceStep capital w := by
  cases capital with
  | true => rw [sentenceStep_capital, sentenceStep_capital, upperFirst_upperFirst]
  | false =>
    cases hplain : isPlainCapitalized w with
    | true =>
      -- a lowered word is lowered again or kept; either way it stays lowered
      rw [sentenceStep_of_plain hplain]
      cases hplain₂ : isPlainCapitalized (lower w) with
      | true => rw [sentenceStep_of_plain hplain₂, lower_lower]
      | false => rw [sentenceStep_of_not_plain hplain₂]
    | false => rw [sentenceStep_of_not_plain hplain, sentenceStep_of_not_plain hplain]

/-- Title case and sentence case keep the words of a title in order, joined by single spaces,
each word lowered or given a capital first letter (sentence case may also leave it as it is).
Sentence case is stable. Title case is stable too on a title none of whose words turns into a
small word only once its first letter is a capital: the dotless i of "ıt" is upper-cased to I,
and "It" lowers to the small word "it". -/
theorem titleCase_sentenceCase_stable (t : String) :
    sentenceCase (sentenceCase t) = sentenceCase t ∧
      ((∀ w ∈ words t, smallWords.contains (lower (upperFirst w)) = true →
          smallWords.contains (lower w) = true) →
        titleCase (titleCase t) = titleCase t) ∧
      (∃ ws, titleCase t = " ".intercalate ws ∧ words (titleCase t) = ws ∧
        List.Forall₂ (fun w w' => w' = lower w ∨ w' = upperFirst w) (words t) ws) ∧
      (∃ ws, sentenceCase t = " ".intercalate ws ∧ words (sentenceCase t) = ws ∧
        List.Forall₂ (fun w w' => w' = w ∨ w' = lower w ∨ w' = upperFirst w) (words t) ws) := by
  refine ⟨?sentence, ?title, ?titleFrame, ?sentenceFrame⟩
  case sentence =>
    rw [sentenceCase_eq_caseWords, sentenceCase_eq_caseWords]
    exact caseWords_caseWords sentenceStep_cases
      (fun w _ capital => sentenceStep_sentenceStep capital w)
  case title =>
    intro h
    rw [titleCase_eq_caseWords, titleCase_eq_caseWords]
    exact caseWords_caseWords (fun capital w => .inr (titleStep_cases capital w))
      (fun w hw => titleStep_titleStep (h w hw))
  case titleFrame =>
    rw [titleCase_eq_caseWords]
    exact caseWords_frame (fun capital w => .inr (titleStep_cases capital w)) titleStep_cases t
  case sentenceFrame =>
    rw [sentenceCase_eq_caseWords]
    exact caseWords_frame sentenceStep_cases sentenceStep_cases t

theorem titleCase_sentenceCase_stable_rings :
    (∀ w ∈ words "the lord of the rings", smallWords.contains (lower (upperFirst w)) = true →
        smallWords.contains (lower w) = true) ∧
      titleCase (titleCase "the lord of the rings") = titleCase "the lord of the rings" := by
  have h : ∀ w ∈ words "the lord of the rings",
      smallWords.contains (lower (upperFirst w)) = true →
        smallWords.contains (lower w) = true := by decide +kernel
  exact ⟨h, (titleCase_sentenceCase_stable "the lord of the rings").2.1 h⟩

/-- Title case is not stable: the dotless i turns "ıt" into "It", which a second pass lowers as
a small word. -/
theorem titleCase_dotless_i_twice :
    titleCase "x ıt" = "X It" ∧ titleCase (titleCase "x ıt") = "X it" := by
  decide +kernel

end Citations.Text
