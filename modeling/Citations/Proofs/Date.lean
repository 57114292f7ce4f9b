import Mathlib.Tactic.Ring
import Citations.Proofs.Text
import Citations.Citation.Date

/-!
# Dates

`DateParts.parse` never makes an impossible date (`parse_valid`): there is a year exactly when
there is a date text, and it is from 1 to 9999; a month is from 1 to 12 or missing; a day comes
only with a month, and then makes a day of the calendar; and the date text is a piece of the
trimmed input.

Each form of date gives these in its own way. A four-digit year, a calendar day and a year with
a month keep the whole trimmed text. A year taken from the digits keeps at most four digits of
one run of digits of the text (`digitRuns_isInfix`, `digitYear?_spec`), and four digits make at
most 9999 (`digitsValue_lt`).
-/

namespace Citations

open Citations.Unicode Citations.Text

namespace DateParts

/-- What a date read from `source` satisfies. -/
structure Valid (d : DateParts) (source : String) : Prop where
  year_eq_zero_iff : d.year = 0 ↔ d.date = ""
  unknown_year : d.year = 0 → d.month = 0 ∧ d.day = 0
  year_range : d.year ≠ 0 → 1 ≤ d.year ∧ d.year ≤ 9999
  date_isInfix : d.date.toList <:+: source.toList
  month_range : d.month = 0 ∨ 1 ≤ d.month ∧ d.month ≤ 12
  day_valid : d.day ≠ 0 → d.month ≠ 0 ∧ isCalendarDay d.year.toNat d.month.toNat d.day.toNat

/-! ## The value of digits -/

theorem decimalValue_lt (c : Char) : decimalValue c < 10 := by
  unfold decimalValue
  dsimp only
  split
  · decide
  · exact Nat.mod_lt _ (by decide)

theorem foldl_digits_lt (acc : Nat) (cs : List Char) :
    cs.foldl (fun acc c => acc * 10 + decimalValue c) acc < (acc + 1) * 10 ^ cs.length := by
  induction cs generalizing acc with
  | nil => simp
  | cons c rest ih =>
    have hd := decimalValue_lt c
    calc rest.foldl (fun acc c => acc * 10 + decimalValue c) (acc * 10 + decimalValue c)
        < (acc * 10 + decimalValue c + 1) * 10 ^ rest.length := ih _
      _ ≤ (acc + 1) * 10 * 10 ^ rest.length := Nat.mul_le_mul_right _ (by omega)
      _ = (acc + 1) * 10 ^ (c :: rest).length := by rw [List.length_cons, pow_succ]; ring

/-- `n` digits make less than `10 ^ n`. -/
theorem digitsValue_lt (cs : List Char) : digitsValue cs < 10 ^ cs.length := by
  simpa [digitsValue] using foldl_digits_lt 0 cs

theorem digitsValue_le_of_length_le {cs : List Char} (h : cs.length ≤ 4) :
    digitsValue cs ≤ 9999 := by
  have hlt := digitsValue_lt cs
  have hpow : 10 ^ cs.length ≤ 10 ^ 4 := Nat.pow_le_pow_right (by decide) h
  omega

theorem ne_nil_of_digitsValue_ne_zero {cs : List Char} (h : digitsValue cs ≠ 0) : cs ≠ [] := by
  rintro rfl
  exact h rfl

theorem isYearText_length {cs : List Char} (h : isYearText cs = true) : cs.length = 4 := by
  simp only [isYearText, Bool.and_eq_true, decide_eq_true_eq] at h
  exact h.1

/-! ## The forms of a date -/

theorem yearThenSep?_le {cs rest : List Char} {y : Nat} (h : yearThenSep? cs = some (y, rest)) :
    y ≤ 9999 := by
  unfold yearThenSep? at h
  split at h
  · split at h
    · rename_i hyear
      simp only [Bool.and_eq_true] at hyear
      simp only [Option.some.injEq, Prod.mk.injEq] at h
      rw [← h.1]
      exact digitsValue_le_of_length_le (isYearText_length hyear.1).le
    · cases h
  · cases h

theorem yearMonth?_le {cs : List Char} {y m : Nat} (h : yearMonth? cs = some (y, m)) :
    y ≤ 9999 := by
  unfold yearMonth? at h
  simp only [bind, Option.bind] at h
  split at h
  · cases h
  · rename_i p hsep
    obtain ⟨y', r1⟩ := p
    dsimp only at h
    split at h
    · cases h
    · rename_i q _
      obtain ⟨m', r2⟩ := q
      dsimp only at h
      split at h
      · simp only [Option.some.injEq, Prod.mk.injEq] at h
        rw [← h.1]
        exact yearThenSep?_le hsep
      · cases h

theorem digitRuns_spec (cs : List Char) :
    (∀ run ∈ digitRuns cs, run <:+: cs) ∧
      (∀ c ∈ cs.head?, isDecimal c = true →
        ∃ run runs, digitRuns cs = run :: runs ∧ run <+: cs) := by
  induction cs with
  | nil => simp [digitRuns]
  | cons c rest ih =>
    obtain ⟨hin, hfirst⟩ := ih
    have hrest : ∀ run ∈ digitRuns rest, run <:+: c :: rest :=
      fun run h => (hin run h).trans (List.suffix_cons c rest).isInfix
    by_cases hc : isDecimal c = true
    · -- a digit extends the run that the rest starts with, or starts one of its own
      simp only [digitRuns, hc, if_true]
      split
      · rename_i run runs hruns
        split
        · rename_i hnext
          obtain ⟨d, hd, hdec⟩ : ∃ d ∈ rest.head?, isDecimal d = true := by
            simpa [Option.any_eq_true] using hnext
          obtain ⟨run', runs', hruns', hpre⟩ := hfirst d hd hdec
          rw [hruns] at hruns'
          obtain ⟨rfl, rfl⟩ := List.cons.inj hruns'
          have hpre' : c :: run <+: c :: rest := List.cons_prefix_cons.mpr ⟨rfl, hpre⟩
          refine ⟨fun r hr => ?_, fun _ _ _ => ⟨c :: run, runs, rfl, hpre'⟩⟩
          rcases List.mem_cons.mp hr with rfl | hr
          · exact hpre'.isInfix
          · exact hrest r (by simp [hruns, hr])
        · refine ⟨fun r hr => ?_, fun _ _ _ => ⟨[c], run :: runs, rfl, by simp⟩⟩
          rcases List.mem_cons.mp hr with rfl | hr
          · exact (List.cons_prefix_cons.mpr ⟨rfl, List.nil_prefix⟩).isInfix
          · exact hrest r (hruns ▸ hr)
      · refine ⟨fun r hr => ?_, fun _ _ _ => ⟨[c], [], rfl, by simp⟩⟩
        rw [List.mem_singleton.mp hr]
        exact (List.cons_prefix_cons.mpr ⟨rfl, List.nil_prefix⟩).isInfix
    · simp only [digitRuns, hc, Bool.false_eq_true, if_false]
      refine ⟨hrest, fun d hd hdec => ?_⟩
      simp only [List.head?_cons, Option.mem_def, Option.some.injEq] at hd
      exact absurd (hd ▸ hdec) hc

theorem digitRuns_isInfix {cs run : List Char} (h : run ∈ digitRuns cs) : run <:+: cs :=
  (digitRuns_spec cs).1 run h

/-- The year taken from the digits is at most four digits of the text. -/
theorem digitYear?_spec {cs run : List Char} (h : digitYear? cs = some run) :
    run <:+: cs ∧ run.length ≤ 4 := by
  unfold digitYear? at h
  split at h
  · cases h
  · rename_i first rest hruns
    simp only [Option.some.injEq] at h
    have hfirst : first <:+: cs := digitRuns_isInfix (hruns ▸ List.mem_cons_self)
    have hlast : (first :: rest).getLastD first <:+: cs := by
      apply digitRuns_isInfix
      rw [hruns, List.getLastD_cons]
      exact List.getLastD_mem_cons
    split at h
    · rw [← h]
      exact ⟨(List.drop_suffix _ _).isInfix.trans hlast, by simp; omega⟩
    · rw [← h]
      exact ⟨(List.take_prefix _ _).isInfix.trans hfirst, by simp⟩

/-! ## Valid dates -/

theorem valid_empty (source : String) : ({} : DateParts).Valid source where
  year_eq_zero_iff := by simp
  unknown_year := by simp
  year_range := by simp
  date_isInfix := by simp
  month_range := by simp
  day_valid := by simp

theorem valid_known {date source : String} {y m d : Nat} (hy : 1 ≤ y ∧ y ≤ 9999)
    (hm : m = 0 ∨ 1 ≤ m ∧ m ≤ 12) (hd : d ≠ 0 → m ≠ 0 ∧ isCalendarDay y m d = true)
    (hdate : date ≠ "") (hin : date.toList <:+: source.toList) :
    ({ date := date, year := y, month := m, day := d } : DateParts).Valid source where
  year_eq_zero_iff := by simp [hdate]; omega
  unknown_year := fun h => by simp at h; omega
  year_range := fun _ => by simp; omega
  date_isInfix := hin
  month_range := by simp; omega
  day_valid := fun h => by
    obtain ⟨hm0, hcal⟩ := hd (by simpa using h)
    exact ⟨by simpa using hm0, by simpa using hcal⟩

theorem valid_year {date source : String} {y : Nat} (hy : 1 ≤ y ∧ y ≤ 9999) (hdate : date ≠ "")
    (hin : date.toList <:+: source.toList) :
    ({ date := date, year := y } : DateParts).Valid source :=
  valid_known (m := 0) (d := 0) hy (.inl rfl) (fun h => absurd rfl h) hdate hin

theorem valid_yearMonth {date source : String} {y m : Nat} (hy : 1 ≤ y ∧ y ≤ 9999)
    (hm : 1 ≤ m ∧ m ≤ 12) (hdate : date ≠ "") (hin : date.toList <:+: source.toList) :
    ({ date := date, year := y, month := m } : DateParts).Valid source :=
  valid_known (d := 0) hy (.inr hm) (fun h => absurd rfl h) hdate hin

theorem valid_calendarDay {date source : String} {y m d : Nat}
    (hcal : isCalendarDay y m d = true) (hdate : date ≠ "")
    (hin : date.toList <:+: source.toList) :
    ({ date := date, year := y, month := m, day := d } : DateParts).Valid source := by
  have hbounds := hcal
  simp only [isCalendarDay, Bool.and_eq_true, decide_eq_true_eq] at hbounds
  exact valid_known ⟨by omega, by omega⟩ (by omega) (fun _ => ⟨by omega, hcal⟩) hdate hin

section Parse

variable {v : String}

theorem text_of_trimmed (hne : (trimChars v.toList).isEmpty = false) :
    String.ofList (trimChars v.toList) ≠ "" ∧
      (String.ofList (trimChars v.toList)).toList <:+: (trim v).toList := by
  refine ⟨fun h => ?_, by simp⟩
  have := congrArg String.toList h
  simp_all

theorem fromDigits_valid : (parse.fromDigits (trimChars v.toList)).Valid (trim v) := by
  unfold parse.fromDigits
  split
  · rename_i run hrun
    obtain ⟨hin, hlen⟩ := digitYear?_spec hrun
    split
    · exact valid_empty _
    · rename_i hzero
      refine valid_year ⟨by omega, digitsValue_le_of_length_le hlen⟩ ?_ (by simpa using hin)
      intro h
      exact ne_nil_of_digitsValue_ne_zero hzero (by simpa using congrArg String.toList h)
  · exact valid_empty _

theorem fallback_valid (hne : (trimChars v.toList).isEmpty = false) :
    (parse.fallback (trimChars v.toList) (String.ofList (trimChars v.toList))).Valid
      (trim v) := by
  obtain ⟨hdate, hin⟩ := text_of_trimmed hne
  unfold parse.fallback
  split
  · rename_i y m hym
    split
    · rename_i hok
      simp only [Bool.and_eq_true, bne_iff_ne, ne_eq, decide_eq_true_eq] at hok
      exact valid_yearMonth ⟨by omega, yearMonth?_le hym⟩ ⟨hok.1.2, hok.2⟩ hdate hin
    · exact fromDigits_valid
  · exact fromDigits_valid

end Parse

/-- **A date read from any text is a possible date.** -/
theorem parse_valid (v : String) : (parse v).Valid (trim v) := by
  unfold parse
  dsimp only
  split
  · exact valid_empty _
  · rename_i hne
    have hne : (trimChars v.toList).isEmpty = false := by simpa using hne
    obtain ⟨hdate, hin⟩ := text_of_trimmed hne
    split
    · -- four digits: a year
      rename_i hyear
      simp only [Bool.and_eq_true, bne_iff_ne, ne_eq] at hyear
      exact valid_year ⟨by omega, digitsValue_le_of_length_le (isYearText_length hyear.1).le⟩
        hdate hin
    · split
      · split
        · rename_i hcal
          exact valid_calendarDay hcal hdate hin
        · exact fallback_valid hne
      · exact fallback_valid hne

end DateParts

end Citations
