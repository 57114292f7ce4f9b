import Citations.Proofs.TagValues

/-!
# What the Unicode tables guarantee

The case rules of titles rest on a few facts of the Unicode tables, checked here once for the
whole of Unicode:

* the characters of a lower case are their own lower case, and none is a capital sigma
  (`mem_lowerFull`, `LowerImage`); the characters of an upper case are their own upper case
  (`mem_upperFull`, `UpperImage`); neither case holds a colon, a comma, an opening parenthesis
  or a blank that was not there, and the upper case no closing parenthesis either;
* no case mapping is empty (`lowerFull_ne_nil`, `upperFull_ne_nil`), and the upper case of a
  letter holds a letter (`exists_letter_upperFull`).

A table lookup is a binary search over an array, so a check that looks up each of a table's
thousand entries in another table costs too much for the kernel. The checks therefore read the
tables as bit masks (`rangesMask`), built once, with `testBit_rangesMask` saying what they hold.
The search itself is proved right: over ordered ranges a range set holds exactly the code points
of its ranges (`RangeSet.contains_eq_testBit`, from `RangeSet.lastStartAtOrBelow_spec`), and a
case map leaves alone every character that is not one of its keys (`CodeMap.apply_of_not_key`).
-/

namespace Citations.Unicode

/-! ## Sets of code points as bit masks -/

/-- The code points of a list of inclusive ranges, as the set bits of a number. -/
def rangesMask (rs : List (Nat × Nat)) : Nat :=
  rs.foldl (fun m r => m ||| ((2 ^ (r.2 + 1 - r.1) - 1) <<< r.1)) 0

theorem testBit_range_block (a b n : Nat) :
    ((2 ^ (b + 1 - a) - 1) <<< a).testBit n = true ↔ a ≤ n ∧ n ≤ b := by
  simp only [Nat.testBit_shiftLeft, Nat.testBit_two_pow_sub_one, Bool.and_eq_true,
    decide_eq_true_eq]
  omega

theorem testBit_foldl_rangesMask (rs : List (Nat × Nat)) (m n : Nat) :
    (rs.foldl (fun m r => m ||| ((2 ^ (r.2 + 1 - r.1) - 1) <<< r.1)) m).testBit n = true ↔
      m.testBit n = true ∨ ∃ r ∈ rs, r.1 ≤ n ∧ n ≤ r.2 := by
  induction rs generalizing m with
  | nil => simp
  | cons r rs ih =>
    rw [List.foldl_cons, ih, Nat.testBit_or, Bool.or_eq_true, testBit_range_block]
    simp only [List.mem_cons, exists_eq_or_imp]
    tauto

/-- A bit of the mask is set exactly for the code points in the ranges. -/
theorem testBit_rangesMask {rs : List (Nat × Nat)} {n : Nat} :
    (rangesMask rs).testBit n = true ↔ ∃ r ∈ rs, r.1 ≤ n ∧ n ≤ r.2 := by
  simp [rangesMask, testBit_foldl_rangesMask]

/-! ## Membership in a range set -/

namespace RangeSet

/-- The search keeps its window: the range at `lo` starts at or below `n`, and the one at `hi`,
if there is one, above it. So it ends at the last range that starts at or below `n`. -/
theorem lastStartAtOrBelow_spec (rs : Array (Nat × Nat)) (n lo hi : Nat) (hlt : lo < hi)
    (hsize : hi ≤ rs.size) (hlo : (rs.getD lo (0, 0)).1 ≤ n)
    (hhi : hi < rs.size → n < (rs.getD hi (0, 0)).1) :
    lastStartAtOrBelow rs n lo hi < rs.size ∧
      (rs.getD (lastStartAtOrBelow rs n lo hi) (0, 0)).1 ≤ n ∧
      (lastStartAtOrBelow rs n lo hi + 1 < rs.size →
        n < (rs.getD (lastStartAtOrBelow rs n lo hi + 1) (0, 0)).1) := by
  fun_induction lastStartAtOrBelow rs n lo hi with
  | case1 lo hi hwide mid hmid ih =>
    exact ih (by omega) hsize hmid hhi
  | case2 lo hi hwide mid hmid ih =>
    exact ih (by omega) (by omega) hlo (fun _ => by omega)
  | case3 lo hi hnarrow =>
    refine ⟨by omega, hlo, fun h => ?_⟩
    have : lo + 1 = hi := by omega
    subst this
    exact hhi h

theorem getD_of_lt {α : Type} {rs : Array α} {i : Nat} (d : α) (h : i < rs.size) :
    rs.getD i d = rs[i] := by
  simp [Array.getD_eq_getD_getElem?, h]

theorem mem_of_containsCode {t : RangeSet} {n : Nat} (h : t.containsCode n = true) :
    ∃ r ∈ t.ranges.toList, r.1 ≤ n ∧ n ≤ r.2 := by
  unfold containsCode at h
  split at h
  · cases h
  · rename_i first hfirst
    have hpos : 0 < t.ranges.size := by
      rcases Array.getElem?_eq_some_iff.mp hfirst with ⟨h0, -⟩
      exact h0
    split at h
    · cases h
    · rename_i hge
      have h0 : (t.ranges.getD 0 (0, 0)).1 ≤ n := by
        rw [Array.getD_eq_getD_getElem?, hfirst]
        simp only [Option.getD_some]
        omega
      obtain ⟨hi, -, -⟩ := lastStartAtOrBelow_spec t.ranges n 0 t.ranges.size hpos le_rfl h0
        (fun h => absurd h (Nat.lt_irrefl _))
      simp only [Bool.and_eq_true, decide_eq_true_eq] at h
      rw [getD_of_lt _ hi] at h
      exact ⟨_, Array.getElem_mem_toList hi, h⟩

/-- Ranges that are nonempty, in increasing order and apart from each other. -/
def ordered : List (Nat × Nat) → Bool
  | a :: b :: rest => a.1 ≤ a.2 && a.2 < b.1 && ordered (b :: rest)
  | [a] => a.1 ≤ a.2
  | [] => true

theorem ordered_head {a : Nat × Nat} {rest : List (Nat × Nat)} (h : ordered (a :: rest) = true) :
    a.1 ≤ a.2 := by
  cases rest with
  | nil => simpa [ordered] using h
  | cons b rest =>
    simp only [ordered, Bool.and_eq_true, decide_eq_true_eq] at h
    exact h.1.1

theorem ordered_pairwise : ∀ {rs : List (Nat × Nat)}, ordered rs = true →
    rs.Pairwise (fun a b => a.1 ≤ a.2 ∧ a.2 < b.1 ∧ b.1 ≤ b.2)
  | [], _ => .nil
  | [_], _ => List.pairwise_singleton _ _
  | a :: b :: rest, h => by
    simp only [ordered, Bool.and_eq_true, decide_eq_true_eq] at h
    obtain ⟨⟨ha, hab⟩, hrest⟩ := h
    have ih := ordered_pairwise hrest
    have hb := ordered_head hrest
    refine List.Pairwise.cons (fun x hx => ?_) ih
    rcases List.mem_cons.mp hx with rfl | hx
    · exact ⟨ha, hab, hb⟩
    · obtain ⟨-, hbx, hx⟩ := List.rel_of_pairwise_cons ih hx
      exact ⟨ha, by omega, hx⟩

theorem containsCode_of_mem {t : RangeSet} (hord : ordered t.ranges.toList = true)
    {r : Nat × Nat} (hr : r ∈ t.ranges.toList) {n : Nat} (h1 : r.1 ≤ n) (h2 : n ≤ r.2) :
    t.containsCode n = true := by
  have hpw := List.pairwise_iff_getElem.mp (ordered_pairwise hord)
  simp only [Array.length_toList, Array.getElem_toList] at hpw
  obtain ⟨j, hj, rfl⟩ := List.getElem_of_mem hr
  simp only [Array.length_toList, Array.getElem_toList] at hj h1 h2
  have hpos : 0 < t.ranges.size := by omega
  -- the first range starts at or below `n`
  have hfirst : t.ranges[0].1 ≤ n := by
    rcases Nat.eq_zero_or_pos j with rfl | hj0
    · exact h1
    · have := hpw 0 j hpos hj hj0
      omega
  unfold containsCode
  rw [Array.getElem?_eq_getElem hpos]
  dsimp only
  rw [if_neg (by omega)]
  have h0 : (t.ranges.getD 0 (0, 0)).1 ≤ n := by rw [getD_of_lt _ hpos]; exact hfirst
  obtain ⟨hi, hstart, hnext⟩ := lastStartAtOrBelow_spec t.ranges n 0 t.ranges.size hpos le_rfl h0
    (fun h => absurd h (Nat.lt_irrefl _))
  generalize lastStartAtOrBelow t.ranges n 0 t.ranges.size = i at hi hstart hnext
  rw [getD_of_lt _ hi] at hstart ⊢
  -- the range holding `n` is the one the search ends at
  have hij : j = i := by
    rcases Nat.lt_trichotomy j i with hlt | heq | hgt
    · have := hpw j i hj hi hlt
      omega
    · exact heq
    · have hn := hnext (by omega)
      rw [getD_of_lt _ (by omega)] at hn
      rcases Nat.lt_or_ge (i + 1) j with hlt | hge
      · have := hpw (i + 1) j (by omega) hj hlt
        omega
      · have : i + 1 = j := by omega
        subst this
        omega
  subst hij
  simp [h1, h2]

/-- Over ordered ranges, a range set holds exactly the characters of its ranges: the bits of its
mask. -/
theorem contains_eq_testBit {t : RangeSet} (hord : ordered t.ranges.toList = true) (c : Char) :
    t.contains c = (rangesMask t.ranges.toList).testBit c.toNat := by
  rw [Bool.eq_iff_iff, testBit_rangesMask]
  constructor
  · exact mem_of_containsCode
  · rintro ⟨r, hr, h1, h2⟩
    exact containsCode_of_mem hord hr h1 h2

end RangeSet

/-! ## Case maps -/

namespace CodeMap

/-- The keys of a map, as the set bits of a number. -/
def keyMask (m : CodeMap) : Nat := rangesMask (m.entries.toList.map fun e => (e.1, e.1))

theorem testBit_keyMask {m : CodeMap} {n : Nat} :
    m.keyMask.testBit n = true ↔ ∃ vs, (n, vs) ∈ m.entries.toList := by
  simp only [keyMask, testBit_rangesMask, List.mem_map]
  constructor
  · rintro ⟨_, ⟨e, he, rfl⟩, h1, h2⟩
    exact ⟨e.2, by rwa [show n = e.1 by omega]⟩
  · rintro ⟨vs, h⟩
    exact ⟨_, ⟨_, h, rfl⟩, le_rfl, le_rfl⟩

theorem apply_cases (m : CodeMap) (h0 : m.find? 0 = none) (c : Char) :
    m.apply c = [c] ∨ ∃ vs, (c.toNat, vs) ∈ m.entries.toList ∧ m.apply c = vs.map Char.ofNat := by
  unfold apply
  cases hf : m.find? c.toNat with
  | none => exact .inl rfl
  | some vs =>
    rcases find?_sound hf with hmem | ⟨hc0, -⟩
    · exact .inr ⟨vs, hmem, rfl⟩
    · rw [hc0, h0] at hf
      cases hf

/-- A character that is no key of a map is its own image. -/
theorem apply_of_not_key {m : CodeMap} (h0 : m.find? 0 = none) {c : Char}
    (hkey : m.keyMask.testBit c.toNat = false) : m.apply c = [c] := by
  rcases apply_cases m h0 c with h | ⟨vs, hvs, -⟩
  · exact h
  · rw [testBit_keyMask.mpr ⟨vs, hvs⟩] at hkey
    cases hkey

theorem mem_apply {m : CodeMap} (h0 : m.find? 0 = none) {c d : Char} (hd : d ∈ m.apply c) :
    (m.apply c = [c] ∧ d = c) ∨
      ∃ vs, (c.toNat, vs) ∈ m.entries.toList ∧ ∃ v ∈ vs, d = Char.ofNat v := by
  rcases apply_cases m h0 c with h | ⟨vs, hvs, h⟩
  · rw [h, List.mem_singleton] at hd
    exact .inl ⟨h, hd⟩
  · rw [h, List.mem_map] at hd
    obtain ⟨v, hv, rfl⟩ := hd
    exact .inr ⟨vs, hvs, v, hv, rfl⟩

end CodeMap

/-! ## The tables -/

/-- A code that names a character. -/
def isCharCode (v : Nat) : Bool := v < 0xd800 || (0xdfff < v && v < 0x110000)

theorem toNat_ofNat_of_isCharCode {v : Nat} (h : isCharCode v = true) :
    (Char.ofNat v).toNat = v := by
  rw [Char.toNat_ofNat]
  split
  · rfl
  · rename_i hv
    exfalso
    apply hv
    simp only [isCharCode, Bool.or_eq_true, decide_eq_true_eq, Bool.and_eq_true] at h
    unfold Nat.isValidChar
    omega

set_option maxRecDepth 100000 in
theorem alphabetic_ordered : RangeSet.ordered alphabetic.ranges.toList = true := by
  decide +kernel

theorem isLetter_eq_testBit (c : Char) :
    isLetter c = (rangesMask alphabetic.ranges.toList).testBit c.toNat :=
  RangeSet.contains_eq_testBit alphabetic_ordered c

theorem lowerCaseMap_first : lowerCaseMap.entries[0]? = some (0x41, [0x61]) := by
  decide +kernel

theorem lowerCaseMap_find?_zero : lowerCaseMap.find? 0 = none := by
  simp [CodeMap.find?, lowerCaseMap_first]

theorem upperCaseMap_find?_zero : upperCaseMap.find? 0 = none := by
  simp [CodeMap.find?, upperCaseMap_first]

set_option maxRecDepth 100000 in
theorem lowerCaseMap_images :
    (fun keys blanks : Nat => lowerCaseMap.entries.toList.all fun e => !e.2.isEmpty &&
      e.2.all fun v => isCharCode v && !keys.testBit v && v != 0x3a3 && v != 0x3a && v != 0x2c &&
        v != 0x28 && !blanks.testBit v)
      lowerCaseMap.keyMask (rangesMask (blankCodes.map fun n => (n, n))) = true := by
  decide +kernel

set_option maxRecDepth 100000 in
theorem upperCaseMap_images :
    (fun keys letters blanks : Nat => upperCaseMap.entries.toList.all fun e => !e.2.isEmpty &&
      (!letters.testBit e.1 || e.2.any letters.testBit) && e.2.all fun v =>
        isCharCode v && !keys.testBit v && v != 0x3a && v != 0x2c && v != 0x28 && v != 0x29 &&
          !blanks.testBit v)
      upperCaseMap.keyMask (rangesMask alphabetic.ranges.toList)
        (rangesMask (blankCodes.map fun n => (n, n))) = true := by
  decide +kernel

theorem testBit_blankMask {v : Nat}
    (h : (rangesMask (blankCodes.map fun n => (n, n))).testBit v = false) :
    isBlank (Char.ofNat v) = false ∨ (Char.ofNat v).toNat ≠ v := by
  by_contra hc
  simp only [not_or, Bool.not_eq_false, ne_eq, not_not] at hc
  obtain ⟨hb, hv⟩ := hc
  have : (rangesMask (blankCodes.map fun n => (n, n))).testBit v = true := by
    rw [testBit_rangesMask]
    refine ⟨(v, v), List.mem_map.mpr ⟨v, ?_, rfl⟩, le_rfl, le_rfl⟩
    simpa [isBlank, hv] using hb
  rw [this] at h
  cases h

/-! ## Characters of a case mapping -/

/-- What the lower-case table holds of each character of an image: it is its own lower case,
and no capital sigma, colon, comma, opening parenthesis or blank. -/
structure LowerImage (d : Char) : Prop where
  fixed : lowerFull d = [d]
  ne_sigma : d ≠ 'Σ'
  ne_colon : d ≠ ':'
  ne_comma : d ≠ ','
  ne_open : d ≠ '('
  not_blank : isBlank d = false

/-- A character of a lower case is the character itself, which the table leaves alone, or a
character that the table gives as an image. -/
theorem mem_lowerFull {c d : Char} (hd : d ∈ lowerFull c) :
    (lowerFull c = [c] ∧ d = c) ∨ LowerImage d := by
  rcases CodeMap.mem_apply lowerCaseMap_find?_zero hd with h | ⟨vs, hvs, v, hv, rfl⟩
  · exact .inl h
  have hentry := List.all_eq_true.mp lowerCaseMap_images _ hvs
  simp only [Bool.and_eq_true, List.all_eq_true] at hentry
  have hcode := hentry.2 v hv
  simp only [Bool.not_eq_true', bne_iff_ne, ne_eq] at hcode
  obtain ⟨⟨⟨⟨⟨⟨hchar, hkey⟩, hsigma⟩, hcolon⟩, hcomma⟩, hopen⟩, hblank⟩ := hcode
  have hto := toNat_ofNat_of_isCharCode hchar
  refine .inr ⟨?_, fun he => hsigma ?_, fun he => hcolon ?_, fun he => hcomma ?_,
    fun he => hopen ?_, ?_⟩
  · exact CodeMap.apply_of_not_key lowerCaseMap_find?_zero (by rw [hto]; exact hkey)
  all_goals first
    | simpa [hto] using congrArg Char.toNat he
    | exact (testBit_blankMask hblank).resolve_right (not_not.mpr hto)

/-- What the upper-case table holds of each character of an image: it is its own upper case,
and no colon, comma, parenthesis or blank. -/
structure UpperImage (d : Char) : Prop where
  fixed : upperFull d = [d]
  ne_colon : d ≠ ':'
  ne_comma : d ≠ ','
  ne_open : d ≠ '('
  ne_close : d ≠ ')'
  not_blank : isBlank d = false

/-- A character of an upper case is the character itself, which the table leaves alone, or a
character that the table gives as an image. -/
theorem mem_upperFull {c d : Char} (hd : d ∈ upperFull c) :
    (upperFull c = [c] ∧ d = c) ∨ UpperImage d := by
  rcases CodeMap.mem_apply upperCaseMap_find?_zero hd with h | ⟨vs, hvs, v, hv, rfl⟩
  · exact .inl h
  have hentry := List.all_eq_true.mp upperCaseMap_images _ hvs
  simp only [Bool.and_eq_true, List.all_eq_true] at hentry
  have hcode := hentry.2 v hv
  simp only [Bool.not_eq_true', bne_iff_ne, ne_eq] at hcode
  obtain ⟨⟨⟨⟨⟨⟨hchar, hkey⟩, hcolon⟩, hcomma⟩, hopen⟩, hclose⟩, hblank⟩ := hcode
  have hto := toNat_ofNat_of_isCharCode hchar
  refine .inr ⟨?_, fun he => hcolon ?_, fun he => hcomma ?_, fun he => hopen ?_,
    fun he => hclose ?_, ?_⟩
  · exact CodeMap.apply_of_not_key upperCaseMap_find?_zero (by rw [hto]; exact hkey)
  all_goals first
    | simpa [hto] using congrArg Char.toNat he
    | exact (testBit_blankMask hblank).resolve_right (not_not.mpr hto)

theorem lowerFull_ne_nil (c : Char) : lowerFull c ≠ [] := by
  rcases CodeMap.apply_cases lowerCaseMap lowerCaseMap_find?_zero c with h | ⟨vs, hvs, h⟩
  · simp [lowerFull, h]
  · have hentry := List.all_eq_true.mp lowerCaseMap_images _ hvs
    simp only [Bool.and_eq_true, Bool.not_eq_true', List.isEmpty_eq_false_iff] at hentry
    simpa [lowerFull, h] using hentry.1

theorem upperFull_ne_nil (c : Char) : upperFull c ≠ [] := by
  rcases CodeMap.apply_cases upperCaseMap upperCaseMap_find?_zero c with h | ⟨vs, hvs, h⟩
  · simp [upperFull, h]
  · have hentry := List.all_eq_true.mp upperCaseMap_images _ hvs
    simp only [Bool.and_eq_true, Bool.not_eq_true', List.isEmpty_eq_false_iff] at hentry
    simpa [upperFull, h] using hentry.1.1

/-- The upper case of a letter holds a letter. -/
theorem exists_letter_upperFull {c : Char} (hc : isLetter c = true) :
    ∃ d ∈ upperFull c, isLetter d = true := by
  rcases CodeMap.apply_cases upperCaseMap upperCaseMap_find?_zero c with h | ⟨vs, hvs, h⟩
  · exact ⟨c, by simp [upperFull, h], hc⟩
  · have hentry := List.all_eq_true.mp upperCaseMap_images _ hvs
    simp only [Bool.and_eq_true, List.all_eq_true] at hentry
    have hletter := hentry.1.2
    rw [isLetter_eq_testBit] at hc
    simp only [hc, Bool.not_true, Bool.false_or, List.any_eq_true] at hletter
    obtain ⟨v, hv, hbit⟩ := hletter
    have hto := toNat_ofNat_of_isCharCode (hentry.2 v hv).1.1.1.1.1.1
    refine ⟨Char.ofNat v, by simp [upperFull, h]; exact ⟨v, hv, rfl⟩, ?_⟩
    rw [isLetter_eq_testBit, hto]
    exact hbit

end Citations.Unicode
