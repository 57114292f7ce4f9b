import Citations.Proofs.Dangling

/-!
# Abbreviating a heading twice

`abbreviate` cuts a heading at its commas, drops a final part of life dates, and cuts every
word of the later parts to its initial. What it gives is a heading of the same kind, and a second
pass over it finds nothing left to do but one thing: the last part of the output can itself read
as life dates, and the second pass then drops it.

* The first pass gives `first, r₁, …, rₖ` (`abbreviate_eq_join`): `first` is a part that
  `capitalizeFirst` keeps (`HeadingPart`), and each `rᵢ` is words that `initialOf` keeps, joined
  by spaces (`Initials`).
* Such a join cuts back into the same parts (`nameParts_join`), is trimmed and not corporate,
  and the second pass only drops a final part of life dates from it (`abbreviate_join`).
* `abbreviate_abbreviate`: for every heading with something other than commas and blanks, the
  second pass gives the output of the first back, less its last part exactly when that part
  reads as life dates.

A word with a period is kept whole by the first pass, so `Smith, 1900., 1901` gives
`Smith, 1900.`, which a second pass shortens to `Smith` (`abbreviate_dates_twice`).
-/

namespace Citations.Text

open Citations.Unicode

/-! ## Plain text -/

/-- Text with no comma and no parenthesis. -/
def Plain (cs : List Char) : Prop := ∀ c ∈ cs, c ≠ ',' ∧ c ≠ '(' ∧ c ≠ ')'

theorem Plain.append {a b : List Char} (ha : Plain a) (hb : Plain b) : Plain (a ++ b) := by
  intro c hc
  rcases List.mem_append.mp hc with hc | hc
  · exact ha c hc
  · exact hb c hc

theorem plain_upperFull {c : Char} (hc : Plain [c]) : Plain (upperFull c) := by
  intro d hd
  rcases mem_upperFull hd with ⟨-, rfl⟩ | himg
  · exact hc d (List.mem_singleton_self d)
  · exact ⟨himg.ne_comma, himg.ne_open, himg.ne_close⟩

theorem not_blank_of_mem_upperFull {c d : Char} (hc : isBlank c = false) (hd : d ∈ upperFull c) :
    isBlank d = false := by
  rcases mem_upperFull hd with ⟨-, rfl⟩ | himg
  · exact hc
  · exact himg.not_blank

/-! ## Parts of a heading -/

/-- A part of a heading as `nameParts` gives it: not empty, plain and trimmed. -/
structure HeadingPart (p : String) : Prop where
  ne_empty : p ≠ ""
  plain : Plain p.toList
  trimmed : trim p = p

theorem HeadingPart.ends {p : String} (hp : HeadingPart p) :
    (∀ c ∈ p.toList.head?, isBlank c = false) ∧
      ∀ c ∈ p.toList.getLast?, isBlank c = false := by
  have hends := trimChars_ends p.toList
  rwa [← toList_trim, hp.trimmed] at hends

theorem headingPart_of_ends {p : String} (hne : p ≠ "") (hplain : Plain p.toList)
    (hhead : ∀ c ∈ p.toList.head?, isBlank c = false)
    (hlast : ∀ c ∈ p.toList.getLast?, isBlank c = false) : HeadingPart p :=
  ⟨hne, hplain, String.toList_inj.mp (by
    rw [toList_trim]
    exact trimChars_eq_self_of_ends hhead hlast)⟩

theorem headingPart_of_mem_nameParts {name p : String} (hcorp : isCorporate name = false)
    (h : p ∈ nameParts name) : HeadingPart p := by
  obtain ⟨hne, hchars, hhead, hlast⟩ := nameParts_spec h
  simp only [isCorporate, Bool.or_eq_false_iff, List.contains_eq_mem, decide_eq_false_iff_not]
    at hcorp
  refine headingPart_of_ends (by simpa using hne) (fun c hc => ?_) hhead hlast
  obtain ⟨hmem, hcomma⟩ := hchars c hc
  exact ⟨hcomma, fun h => hcorp.1 (h ▸ hmem), fun h => hcorp.2 (h ▸ hmem)⟩

/-! ## Initials -/

theorem initialOf_cases (t : String) :
    initialOf t = t ∨ ∃ c rest, t.toList = c :: rest ∧ initialOf t = upperOf c ++ "." := by
  unfold initialOf
  split
  · exact .inl rfl
  · split
    · rename_i c rest hcs
      exact .inr ⟨c, rest, hcs, rfl⟩
    · exact .inl rfl

theorem initialOf_initialOf (t : String) : initialOf (initialOf t) = initialOf t := by
  rcases initialOf_cases t with h | ⟨c, rest, -, h⟩
  · rw [h, h]
  · have hdot : (upperOf c ++ ".").toList.contains '.' = true := by simp
    rw [h, initialOf, if_pos (by rw [hdot]; simp only [Bool.or_true, Bool.true_or])]

theorem IsWord.initialOf {t : String} (h : IsWord t) : IsWord (initialOf t) := by
  rcases initialOf_cases t with h' | ⟨c, rest, ht, h'⟩
  · rwa [h']
  · rw [h']
    have hc : isBlank c = false := h.2 c (by simp [ht])
    refine ⟨fun he => by simpa using congrArg String.toList he, fun d hd => ?_⟩
    simp only [upperOf, String.toList_append, String.toList_ofList, List.mem_append] at hd
    rcases hd with hd | hd
    · exact not_blank_of_mem_upperFull hc hd
    · obtain rfl : d = '.' := by simpa using hd
      decide

theorem plain_initialOf {t : String} (h : Plain t.toList) : Plain (initialOf t).toList := by
  rcases initialOf_cases t with h' | ⟨c, rest, ht, h'⟩
  · rwa [h']
  · rw [h', upperOf, String.toList_append, String.toList_ofList]
    refine (plain_upperFull fun d hd => h d ?_).append fun d hd => ?_
    · simp [ht, List.mem_singleton.mp hd]
    · obtain rfl : d = '.' := by simpa using hd
      decide

/-- Given names cut to initials: words that `initialOf` keeps, joined by single spaces. -/
def Initials (r : String) : Prop :=
  ∃ ts : List String, ts ≠ [] ∧ r = " ".intercalate ts ∧
    ∀ t ∈ ts, IsWord t ∧ Plain t.toList ∧ initialOf t = t

/-- What the first pass makes of a part of given names. -/
def partInitials (part : String) : String := " ".intercalate ((words part).map initialOf)

theorem initials_partInitials {p : String} (hp : HeadingPart p) : Initials (partInitials p) := by
  refine ⟨_, ?_, rfl, ?_⟩
  · -- the part starts with a character that is not blank, so it has a word
    obtain ⟨c, rest, hcs⟩ :=
      List.exists_cons_of_ne_nil (by simpa using hp.ne_empty : p.toList ≠ [])
    have hc : isBlank c = false := hp.ends.1 c (by simp [hcs])
    have hhead := head?_intercalate_words (s := p) (by simp [hcs]) hc
    intro hnil
    rw [List.map_eq_nil_iff.mp hnil] at hhead
    simp at hhead
  · intro t ht
    obtain ⟨w, hw, rfl⟩ := List.mem_map.mp ht
    have hplain : Plain w.toList := fun c hc => hp.plain c (mem_of_mem_words hw hc)
    exact ⟨(isWord_of_mem_words hw).initialOf, plain_initialOf hplain, initialOf_initialOf w⟩

theorem Initials.headingPart {r : String} (h : Initials r) : HeadingPart r := by
  obtain ⟨ts, hne, rfl, hts⟩ := h
  obtain ⟨t, rest, rfl⟩ := List.exists_cons_of_ne_nil hne
  refine ⟨?_, fun c hc => ?_, trim_intercalate_words fun w hw => (hts w hw).1⟩
  · rw [Ne, ← String.toList_inj, String.toList_intercalate, List.map_cons]
    exact intercalate_cons_ne_nil _ (by simpa using (hts t List.mem_cons_self).1.1) _
  · rw [String.toList_intercalate] at hc
    rcases Style.Ris.mem_intercalate hc with hc | ⟨l, hl, hc⟩
    · obtain rfl : c = ' ' := by simpa using hc
      decide
    · obtain ⟨w, hw, rfl⟩ := List.mem_map.mp hl
      exact (hts w hw).2.1 c hc

theorem Initials.partInitials {r : String} (h : Initials r) : partInitials r = r := by
  obtain ⟨ts, -, rfl, hts⟩ := h
  rw [Text.partInitials, words_intercalate fun t ht => (hts t ht).1,
    List.map_congr_left fun t ht => (hts t ht).2.2, List.map_id']

/-! ## Capitals -/

theorem capitalizeFirst_append {s : String} (hs : s ≠ "") (t : String) :
    capitalizeFirst (s ++ t) = capitalizeFirst s ++ t := by
  obtain ⟨c, rest, hcs⟩ := List.exists_cons_of_ne_nil (by simpa using hs : s.toList ≠ [])
  simp only [capitalizeFirst, String.toList_append, hcs, List.cons_append]
  split
  · simp [← String.toList_inj]
  · rfl

theorem capitalizeFirst_join {p : String} (hp : p ≠ "") (ps : List String) :
    capitalizeFirst (", ".intercalate (p :: ps)) = ", ".intercalate (capitalizeFirst p :: ps) := by
  cases ps with
  | nil => simp
  | cons q ps =>
    rw [String.intercalate_cons_cons, String.intercalate_cons_cons, String.append_assoc,
      String.append_assoc, capitalizeFirst_append hp]

theorem capitalizeFirst_capitalizeFirst (s : String) :
    capitalizeFirst (capitalizeFirst s) = capitalizeFirst s := by
  cases hs : s.toList with
  | nil => simp [capitalizeFirst, hs]
  | cons c rest =>
    by_cases hc : isLowercase c = true
    · obtain ⟨d, ds, hd⟩ := List.exists_cons_of_ne_nil (upperFull_ne_nil c)
      have hfixed : upperFull d = [d] := upperFull_fixed_of_mem (c := c) (by simp [hd])
      simp [capitalizeFirst, hs, hc, hd, hfixed]
    · simp [capitalizeFirst, hs, hc]

theorem HeadingPart.capitalizeFirst {p : String} (hp : HeadingPart p) :
    HeadingPart (capitalizeFirst p) := by
  obtain ⟨c, rest, hcs⟩ :=
    List.exists_cons_of_ne_nil (by simpa using hp.ne_empty : p.toList ≠ [])
  have hc : isBlank c = false := hp.ends.1 c (by simp [hcs])
  by_cases hl : isLowercase c = true
  · have hcap : Text.capitalizeFirst p = String.ofList (upperFull c ++ rest) := by
      simp [Text.capitalizeFirst, hcs, hl]
    obtain ⟨d, ds, hd⟩ := List.exists_cons_of_ne_nil (upperFull_ne_nil c)
    have hplain : Plain (c :: rest) := hcs ▸ hp.plain
    rw [hcap]
    refine headingPart_of_ends (by simp [← String.toList_inj, hd]) ?_ ?_ ?_
    · rw [String.toList_ofList]
      exact (plain_upperFull fun x hx => hplain x (by simp [List.mem_singleton.mp hx])).append
        fun x hx => hplain x (List.mem_cons_of_mem c hx)
    · -- the first character is the first of the upper case
      intro x hx
      simp only [String.toList_ofList, hd, List.cons_append, List.head?_cons,
        Option.mem_def, Option.some.injEq] at hx
      exact not_blank_of_mem_upperFull hc (by simp [hd, hx])
    · -- the last character is the part's own, or the last of the upper case
      intro x hx
      rw [String.toList_ofList, List.getLast?_append] at hx
      cases hrest : rest.getLast? with
      | some y =>
        rw [hrest] at hx
        obtain rfl : y = x := by simpa using hx
        exact hp.ends.2 y (by rw [hcs, List.getLast?_cons, hrest]; rfl)
      | none =>
        rw [hrest] at hx
        exact not_blank_of_mem_upperFull hc (List.mem_of_getLast? (by simpa using hx))
  · have hcap : Text.capitalizeFirst p = p := by simp [Text.capitalizeFirst, hcs, hl]
    rwa [hcap]

/-! ## Joining parts -/

theorem intercalate_cons_head (sep : List Char) (x : Char) (q : List Char)
    (rest : List (List Char)) :
    sep.intercalate ((x :: q) :: rest) = x :: sep.intercalate (q :: rest) := by
  cases rest <;> simp [List.intercalate_cons_cons]

theorem comma_space_intercalate (p : List Char) :
    ∀ qs : List (List Char),
      [',', ' '].intercalate (p :: qs) = [','].intercalate (p :: qs.map (' ' :: ·))
  | [] => rfl
  | q :: qs => by
    rw [List.intercalate_cons_cons, List.map_cons, List.intercalate_cons_cons,
      intercalate_cons_head, comma_space_intercalate q qs]
    simp

section Join

variable {ps : List String}

/-- Heading parts joined at `, ` cut back into the same parts. -/
theorem nameParts_join (hps : ∀ p ∈ ps, HeadingPart p) :
    nameParts (", ".intercalate ps) = ps := by
  cases ps with
  | nil => decide
  | cons p qs =>
    have hsep : ", ".toList = [',', ' '] := rfl
    rw [nameParts_eq, String.toList_intercalate, hsep, List.map_cons, comma_space_intercalate,
      List.splitOn_intercalate]
    · have hmap : ((p.toList :: (qs.map String.toList).map (' ' :: ·)).map
          (trim ∘ String.ofList)) = p :: qs := by
        simp only [List.map_cons, List.map_map, Function.comp_apply, String.ofList_toList,
          (hps p List.mem_cons_self).trimmed, List.cons.injEq, true_and]
        refine (List.map_congr_left fun q hq => ?_).trans (List.map_id' qs)
        have hblank : isBlank ' ' = true := by decide
        simp only [Function.comp_apply]
        rw [← String.toList_inj, toList_trim, String.toList_ofList, trimChars_cons_blank hblank,
          ← toList_trim, (hps q (List.mem_cons_of_mem p hq)).trimmed]
      rw [hmap, List.filter_eq_self]
      intro q hq
      simpa using (hps q hq).ne_empty
    · intro l hl hcomma
      simp only [List.mem_cons, List.mem_map] at hl
      rcases hl with rfl | ⟨_, ⟨q, hq, rfl⟩, rfl⟩
      · exact ((hps p List.mem_cons_self).plain ',' hcomma).1 rfl
      · rcases List.mem_cons.mp hcomma with h | h
        · cases h
        · exact ((hps q (List.mem_cons_of_mem p hq)).plain ',' h).1 rfl
    · simp

theorem isCorporate_join (hps : ∀ p ∈ ps, HeadingPart p) :
    isCorporate (", ".intercalate ps) = false := by
  have hchars : ∀ c ∈ (", ".intercalate ps).toList, c ≠ '(' ∧ c ≠ ')' := by
    intro c hc
    rw [String.toList_intercalate] at hc
    rcases Style.Ris.mem_intercalate hc with hc | ⟨l, hl, hc⟩
    · simp only [show ", ".toList = [',', ' '] from rfl, List.mem_cons, List.not_mem_nil,
        or_false] at hc
      rcases hc with rfl | rfl <;> decide
    · obtain ⟨p, hp, rfl⟩ := List.mem_map.mp hl
      exact ((hps p hp).plain c hc).2
  simp only [isCorporate, Bool.or_eq_false_iff, List.contains_eq_mem, decide_eq_false_iff_not]
  exact ⟨fun h => (hchars _ h).1 rfl, fun h => (hchars _ h).2 rfl⟩

theorem trim_join (hps : ∀ p ∈ ps, HeadingPart p) :
    trim (", ".intercalate ps) = ", ".intercalate ps := by
  rcases List.eq_nil_or_concat ps with rfl | ⟨init, z, rfl⟩
  · decide
  rw [List.concat_eq_append] at hps ⊢
  have hz := hps z (by simp)
  -- the join starts as its first part and ends as its last
  have hlast : (", ".intercalate (init ++ [z])).toList.getLast? = z.toList.getLast? := by
    cases init with
    | nil => simp
    | cons a init =>
      rw [String.intercalate_append_of_ne_nil (by simp) (by simp), String.intercalate_singleton,
        String.toList_append, List.getLast?_append_of_ne_nil _ (by simpa using hz.ne_empty)]
  obtain ⟨p, qs, hpqs⟩ := List.exists_cons_of_ne_nil (show init ++ [z] ≠ [] by simp)
  have hp := hps p (by simp [hpqs])
  have hhead : (", ".intercalate (init ++ [z])).toList.head? = p.toList.head? := by
    rw [hpqs]
    exact head?_intercalate_cons _ (by simpa using hp.ne_empty) qs
  apply String.toList_inj.mp
  rw [toList_trim]
  exact trimChars_eq_self_of_ends (hhead ▸ hp.ends.1) (hlast ▸ hz.ends.2)

theorem join_ne_empty (hps : ∀ p ∈ ps, HeadingPart p) (hne : ps ≠ []) :
    ", ".intercalate ps ≠ "" := by
  obtain ⟨p, qs, rfl⟩ := List.exists_cons_of_ne_nil hne
  rw [Ne, ← String.toList_inj, String.toList_intercalate, List.map_cons]
  exact intercalate_cons_ne_nil _ (by simpa using (hps p List.mem_cons_self).ne_empty) _

theorem join_dropLast_ne (hps : ∀ p ∈ ps, HeadingPart p) (hlen : 1 < ps.length) :
    ", ".intercalate ps.dropLast ≠ ", ".intercalate ps := by
  rcases List.eq_nil_or_concat ps with rfl | ⟨init, z, rfl⟩
  · simp at hlen
  rw [List.concat_eq_append] at hps hlen ⊢
  have hinit : init ≠ [] := by
    rintro rfl
    simp at hlen
  rw [List.dropLast_concat, String.intercalate_append_of_ne_nil hinit (by simp)]
  intro h
  have hlength := congrArg String.length h
  simp only [String.length_append] at hlength
  have : (", " : String).length = 2 := rfl
  omega

end Join

/-! ## The two passes -/

/-- The parts that `abbreviate` keeps: all but a final part of life dates, when there are two
parts or more. -/
def dropLifeDates (parts : List String) : List String :=
  if parts.length > 1 && isLifeDates (parts.getLastD "") then parts.dropLast else parts

theorem dropLifeDates_sublist (parts : List String) : (dropLifeDates parts).Sublist parts := by
  unfold dropLifeDates
  split
  · exact List.dropLast_sublist parts
  · exact List.Sublist.refl parts

theorem dropLifeDates_cons (first : String) (rest : List String) :
    ∃ kept, dropLifeDates (first :: rest) = first :: kept ∧ kept.Sublist rest := by
  unfold dropLifeDates
  split
  · rename_i hdrop
    cases rest with
    | nil => simp at hdrop
    | cons r rs => exact ⟨(r :: rs).dropLast, List.dropLast_cons_cons, List.dropLast_sublist _⟩
  · exact ⟨rest, rfl, List.Sublist.refl rest⟩

theorem abbreviate_eq (name : String) :
    abbreviate name =
      if ((trim name).isEmpty || isCorporate (trim name)) = true then some (trim name)
      else match dropLifeDates (nameParts (trim name)) with
        | [] => none
        | first :: rest =>
          some (capitalizeFirst (", ".intercalate (first :: rest.map partInitials))) := by
  unfold abbreviate
  dsimp only
  rw [← dropLifeDates.eq_1]
  -- with the parts left abstract, the two matches agree case by case
  generalize dropLifeDates (nameParts (trim name)) = D
  rfl

/-- The first pass gives a capitalized part, then initials, joined at commas. -/
theorem abbreviate_eq_join {name out : String}
    (hkept : ((trim name).isEmpty || isCorporate (trim name)) = false)
    (h : abbreviate name = some out) :
    ∃ first reduced, out = ", ".intercalate (first :: reduced) ∧ HeadingPart first ∧
      capitalizeFirst first = first ∧ ∀ r ∈ reduced, Initials r := by
  rw [abbreviate_eq, if_neg (by simp [hkept])] at h
  have hcorp : isCorporate (trim name) = false := (Bool.or_eq_false_iff.mp hkept).2
  have hparts : ∀ p ∈ dropLifeDates (nameParts (trim name)), HeadingPart p := fun p hp =>
    headingPart_of_mem_nameParts hcorp ((dropLifeDates_sublist _).subset hp)
  split at h
  · cases h
  · rename_i first rest hd
    obtain rfl := Option.some.inj h
    rw [hd] at hparts
    have hfirst := hparts first List.mem_cons_self
    refine ⟨capitalizeFirst first, rest.map partInitials, capitalizeFirst_join hfirst.ne_empty _,
      hfirst.capitalizeFirst, capitalizeFirst_capitalizeFirst first, fun r hr => ?_⟩
    obtain ⟨p, hp, rfl⟩ := List.mem_map.mp hr
    exact initials_partInitials (hparts p (List.mem_cons_of_mem first hp))

/-- The second pass over such a join only drops a final part of life dates. -/
theorem abbreviate_join {first : String} {reduced : List String} (hfirst : HeadingPart first)
    (hcap : capitalizeFirst first = first) (hred : ∀ r ∈ reduced, Initials r) :
    abbreviate (", ".intercalate (first :: reduced)) =
      some (", ".intercalate (dropLifeDates (first :: reduced))) := by
  have hparts : ∀ p ∈ first :: reduced, HeadingPart p :=
    List.forall_mem_cons.mpr ⟨hfirst, fun r hr => (hred r hr).headingPart⟩
  have hne : (", ".intercalate (first :: reduced)).isEmpty = false := by
    simpa [String.isEmpty_iff] using join_ne_empty hparts (List.cons_ne_nil _ _)
  rw [abbreviate_eq, trim_join hparts, if_neg (by simp [hne, isCorporate_join hparts]),
    nameParts_join hparts]
  obtain ⟨kept, hkept, hsub⟩ := dropLifeDates_cons first reduced
  rw [hkept]
  dsimp only
  rw [List.map_congr_left fun r hr => (hred r (hsub.subset hr)).partInitials,
    List.map_id', capitalizeFirst_join hfirst.ne_empty, hcap]

/-- A heading whose last part reads as life dates, after another part; `abbreviate` drops such
a part. -/
def EndsInLifeDates (heading : String) : Prop :=
  isCorporate heading = false ∧ 1 < (nameParts heading).length ∧
    isLifeDates ((nameParts heading).getLastD "") = true

instance : DecidablePred EndsInLifeDates := fun _ => inferInstanceAs (Decidable (_ ∧ _ ∧ _))

theorem abbreviate_trim_of_kept {name : String}
    (hkept : ((trim name).isEmpty || isCorporate (trim name)) = true) :
    abbreviate (trim name) = some (trim name) ∧ ¬ EndsInLifeDates (trim name) := by
  refine ⟨by rw [abbreviate_eq, trim_trim, if_pos hkept], ?_⟩
  rintro ⟨hcorp, hlen, -⟩
  rcases Bool.or_eq_true _ _ ▸ hkept with hempty | hcorp'
  · rw [String.isEmpty_iff.mp hempty] at hlen
    exact absurd hlen (by decide)
  · exact absurd hcorp' (by simp [hcorp])

/-- What a second pass makes of the output of the first: the same heading, less its last part
when that part reads as life dates. -/
theorem abbreviate_of_abbreviate {name out : String} (h : abbreviate name = some out) :
    abbreviate out = some (if EndsInLifeDates out then ", ".intercalate (nameParts out).dropLast
      else out) ∧
      (EndsInLifeDates out → ", ".intercalate (nameParts out).dropLast ≠ out) := by
  by_cases hkept : ((trim name).isEmpty || isCorporate (trim name)) = true
  · rw [abbreviate_eq, if_pos hkept] at h
    obtain rfl := Option.some.inj h
    obtain ⟨hfixed, hnot⟩ := abbreviate_trim_of_kept hkept
    exact ⟨by rw [if_neg hnot, hfixed], fun hends => absurd hends hnot⟩
  · obtain ⟨first, reduced, rfl, hfirst, hcap, hred⟩ :=
      abbreviate_eq_join (by simpa using hkept) h
    have hparts : ∀ p ∈ first :: reduced, HeadingPart p :=
      List.forall_mem_cons.mpr ⟨hfirst, fun r hr => (hred r hr).headingPart⟩
    have hends : EndsInLifeDates (", ".intercalate (first :: reduced)) ↔
        ((first :: reduced).length > 1 &&
          isLifeDates ((first :: reduced).getLastD "")) = true := by
      simp [EndsInLifeDates, nameParts_join hparts, isCorporate_join hparts]
    rw [abbreviate_join hfirst hcap hred, nameParts_join hparts]
    unfold dropLifeDates
    by_cases hdrop : ((first :: reduced).length > 1 &&
        isLifeDates ((first :: reduced).getLastD "")) = true
    · rw [if_pos hdrop, if_pos (hends.mpr hdrop)]
      have hlen : 1 < (first :: reduced).length := by
        simpa using ((Bool.and_eq_true _ _).mp hdrop).1
      exact ⟨rfl, fun _ => join_dropLast_ne hparts hlen⟩
    · rw [if_neg hdrop, if_neg (mt hends.mp hdrop)]
      exact ⟨rfl, fun hE => absurd (hends.mp hE) hdrop⟩

/-- Abbreviating a heading a second time gives back the first abbreviation, less its last part
exactly when that part reads as life dates after another part. -/
theorem abbreviate_abbreviate (name : String)
    (h : ∃ c ∈ name.toList, c ≠ ',' ∧ isBlank c = false) :
    ∃ out, abbreviate name = some out ∧
      abbreviate out = some (if EndsInLifeDates out then ", ".intercalate (nameParts out).dropLast
        else out) ∧
      (abbreviate out = some out ↔ ¬ EndsInLifeDates out) := by
  -- a heading with something besides commas and blanks has an abbreviation
  obtain ⟨out, hout⟩ : ∃ out, abbreviate name = some out := by
    cases habbr : abbreviate name with
    | some out => exact ⟨out, rfl⟩
    | none =>
      obtain ⟨c, hc, hcomma, hblank⟩ := h
      rcases (abbreviate_eq_none_iff.mp habbr).2 c hc with h | h
      · exact absurd h hcomma
      · simp [hblank] at h
  obtain ⟨htwice, hshorter⟩ := abbreviate_of_abbreviate hout
  refine ⟨out, hout, htwice, ?_⟩
  rw [htwice, Option.some.injEq]
  split
  · rename_i hends
    exact iff_of_false (hshorter hends) (not_not.mpr hends)
  · rename_i hends
    exact iff_of_true rfl hends

theorem abbreviate_initials_twice :
    abbreviate "smith, john ronald" = some "Smith, J. R." ∧
      abbreviate "Smith, J. R." = some "Smith, J. R." := by
  obtain ⟨out, hout, -, hfixed⟩ :=
    abbreviate_abbreviate "smith, john ronald" ⟨'s', by decide, by decide, by decide⟩
  have hval : abbreviate "smith, john ronald" = some "Smith, J. R." := by decide +kernel
  obtain rfl : out = "Smith, J. R." := Option.some.inj (hout.symm.trans hval)
  exact ⟨hval, hfixed.mpr (by unfold EndsInLifeDates; decide +kernel)⟩

/-- `1900.` has a period, so the first pass keeps it whole; the second pass reads it as life
dates and drops it. -/
theorem abbreviate_dates_twice :
    abbreviate "Smith, 1900., 1901" = some "Smith, 1900." ∧
      abbreviate "Smith, 1900." = some "Smith" := by
  decide +kernel

end Citations.Text
