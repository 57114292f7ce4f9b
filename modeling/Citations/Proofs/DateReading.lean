import Citations.Proofs.Date

/-!
# How a catalog date is read

`parse_eq_iff_reading` describes `DateParts.parse` without its recognizers: the date read from a
text is the one that the rules of `Reading` give its trimmed text. The rules are the forms of a
date in their order of preference, each taken only where none before it fits:

* four digits of nonzero value, a year (`Reading.year`);
* a year, a month and a day separated by `-` or `/`, perhaps followed by a time, that make a day
  of the calendar (`Reading.calendarDate`);
* a year and a month, the year nonzero and the month from 1 to 12 (`Reading.yearMonth`);
* else a year made of the digits (`runYear`): the first up to four digits of the first run of
  digits, unless the last up to four digits of the last run are more (`Reading.runs`), and
  nothing when they have value zero (`Reading.zeroRuns`) or the text has no digit at all
  (`Reading.noDigit`).

Each recognizer is matched with its form by an iff (`fullDate?_eq_some_iff`,
`yearMonth?_eq_some_iff`), and the runs of digits with their first and last member
(`FirstRun.digitRuns_eq`, `LastRun.getLast?_digitRuns`). From these, `parse` is computed once
for each form (`parse_of_isYear` to `parse_of_noDigit`), and both halves of the main theorem are
read off those equations.
-/

namespace Citations

open Citations.Unicode Citations.Text

namespace DateParts

/-! ## The forms of a date -/

/-- Decimal digits, of any script. -/
def AllDigits (cs : List Char) : Prop := ∀ c ∈ cs, isDecimal c = true

/-- Text without a decimal digit. -/
def NoDigit (cs : List Char) : Prop := ∀ c ∈ cs, isDecimal c = false

/-- A run of digits may end before this text: it is empty or starts with no digit. -/
def RunEnds (rest : List Char) : Prop := ∀ c ∈ rest.head?, isDecimal c = false

/-- The year of a date: exactly four digits. -/
def YearDigits (ys : List Char) : Prop := ys.length = 4 ∧ AllDigits ys

/-- The month or the day of a date: one or two digits. -/
def ShortDigits (ms : List Char) : Prop := (ms.length = 1 ∨ ms.length = 2) ∧ AllDigits ms

/-- A separator of the parts of a date. -/
def DateSep (c : Char) : Prop := c = '-' ∨ c = '/'

/-- What may follow a full date: nothing, or `T` or a space and then text without a line feed. -/
def TimeTail (t : List Char) : Prop :=
  t = [] ∨ ∃ c rest, t = c :: rest ∧ (c = 'T' ∨ c = ' ') ∧ '\n' ∉ rest

/-- `s` is a full date of year `ys`, month `ms` and day `ds`. -/
structure FullDateForm (s ys ms ds : List Char) : Prop where
  year : YearDigits ys
  month : ShortDigits ms
  day : ShortDigits ds
  split : ∃ a b t, s = ys ++ a :: (ms ++ b :: (ds ++ t)) ∧ DateSep a ∧ DateSep b ∧ TimeTail t

/-- `s` is a year `ys` and a month `ms`. -/
structure YearMonthForm (s ys ms : List Char) : Prop where
  year : YearDigits ys
  month : ShortDigits ms
  split : ∃ a, s = ys ++ a :: ms ∧ DateSep a

/-- `run` is the first run of digits of `s`. -/
structure FirstRun (s run : List Char) : Prop where
  ne_nil : run ≠ []
  digits : AllDigits run
  split : ∃ pre post, s = pre ++ run ++ post ∧ NoDigit pre ∧ RunEnds post

/-- `run` is the last run of digits of `s`. -/
structure LastRun (s run : List Char) : Prop where
  ne_nil : run ≠ []
  digits : AllDigits run
  split : ∃ pre post, s = pre ++ run ++ post ∧ (∀ c ∈ pre.getLast?, isDecimal c = false) ∧
    NoDigit post

/-- The year made of the digits of a text whose first run of digits is `first` and whose last is
`last`: the first up to four digits of `first`, unless the last up to four digits of `last` are
more. -/
def runYear (first last : List Char) : List Char :=
  let leading := first.take 4
  let trailing := last.drop (last.length - 4)
  if trailing.length > leading.length then trailing else leading

/-- Four digits of nonzero value. -/
def IsYear (s : List Char) : Prop := YearDigits s ∧ digitsValue s ≠ 0

/-- A full date that is a day of the calendar. -/
def IsCalendarDate (s : List Char) : Prop :=
  ∃ ys ms ds, FullDateForm s ys ms ds ∧
    isCalendarDay (digitsValue ys) (digitsValue ms) (digitsValue ds) = true

/-- A year and a month, the year nonzero and the month one of the year. -/
def IsYearMonth (s : List Char) : Prop :=
  ∃ ys ms, YearMonthForm s ys ms ∧ digitsValue ys ≠ 0 ∧ 1 ≤ digitsValue ms ∧ digitsValue ms ≤ 12

/-- The date that a trimmed text reads as: the first of its forms that fits. -/
inductive Reading (s : List Char) : DateParts → Prop
  | year (h : IsYear s) : Reading s { date := String.ofList s, year := digitsValue s }
  | calendarDate {ys ms ds : List Char} (hyear : ¬IsYear s) (h : FullDateForm s ys ms ds)
      (hday : isCalendarDay (digitsValue ys) (digitsValue ms) (digitsValue ds) = true) :
      Reading s
        { date := String.ofList s, year := digitsValue ys, month := digitsValue ms,
          day := digitsValue ds }
  | yearMonth {ys ms : List Char} (hyear : ¬IsYear s) (hdate : ¬IsCalendarDate s)
      (h : YearMonthForm s ys ms) (hy : digitsValue ys ≠ 0)
      (hm : 1 ≤ digitsValue ms ∧ digitsValue ms ≤ 12) :
      Reading s { date := String.ofList s, year := digitsValue ys, month := digitsValue ms }
  | runs {first last : List Char} (hyear : ¬IsYear s) (hdate : ¬IsCalendarDate s)
      (hmonth : ¬IsYearMonth s) (hfirst : FirstRun s first) (hlast : LastRun s last)
      (hv : digitsValue (runYear first last) ≠ 0) :
      Reading s
        { date := String.ofList (runYear first last), year := digitsValue (runYear first last) }
  | zeroRuns {first last : List Char} (hyear : ¬IsYear s) (hdate : ¬IsCalendarDate s)
      (hmonth : ¬IsYearMonth s) (hfirst : FirstRun s first) (hlast : LastRun s last)
      (hv : digitsValue (runYear first last) = 0) : Reading s {}
  | noDigit (h : NoDigit s) : Reading s {}

/-! ## The recognizers -/

theorem isYearText_iff {cs : List Char} : isYearText cs = true ↔ YearDigits cs := by
  simp [isYearText, YearDigits, AllDigits]

theorem isDateSep_iff {c : Char} : isDateSep c = true ↔ DateSep c := by
  simp [isDateSep, DateSep]

theorem isTimeTail_iff {t : List Char} : isTimeTail t = true ↔ TimeTail t := by
  cases t with
  | nil => simp [isTimeTail, TimeTail]
  | cons c rest => simp [isTimeTail, TimeTail, List.contains_eq_mem]

theorem isDecimal_of_dateSep {c : Char} (h : DateSep c) : isDecimal c = false := by
  rcases h with rfl | rfl <;> decide +kernel

theorem RunEnds.of_dateSep {c : Char} {rest : List Char} (h : DateSep c) : RunEnds (c :: rest) :=
  fun x hx => by
    simp only [List.head?_cons, Option.mem_def, Option.some.injEq] at hx
    exact hx ▸ isDecimal_of_dateSep h

theorem RunEnds.of_timeTail {t : List Char} (h : TimeTail t) : RunEnds t := by
  rcases h with rfl | ⟨c, rest, rfl, hc, -⟩
  · simp [RunEnds]
  · have hdec : isDecimal c = false := by rcases hc with rfl | rfl <;> decide +kernel
    simpa [RunEnds] using hdec

theorem RunEnds.any_head? {rest : List Char} (h : RunEnds rest) :
    rest.head?.any isDecimal = false := by
  cases rest with
  | nil => rfl
  | cons c rest => simpa using h c rfl

theorem takeWhile_isDecimal_eq_iff {cs ms : List Char} :
    cs.takeWhile isDecimal = ms ↔ ∃ rest, cs = ms ++ rest ∧ AllDigits ms ∧ RunEnds rest := by
  constructor
  · rintro rfl
    refine ⟨cs.dropWhile isDecimal, List.takeWhile_append_dropWhile.symm,
      fun c hc => List.mem_takeWhile_imp hc, fun c hc => ?_⟩
    have hstop := List.head?_dropWhile_not isDecimal cs
    rw [Option.mem_def.mp hc] at hstop
    exact hstop
  · rintro ⟨rest, rfl, hms, hrest⟩
    rw [List.takeWhile_append_of_pos hms]
    cases rest with
    | nil => simp
    | cons c rest => simp [hrest c rfl]

theorem shortNumber?_eq_some_iff {cs rest : List Char} {n : Nat} :
    shortNumber? cs = some (n, rest) ↔
      ∃ ms, cs = ms ++ rest ∧ ShortDigits ms ∧ RunEnds rest ∧ digitsValue ms = n := by
  unfold shortNumber?
  constructor
  · intro h
    generalize hds : cs.takeWhile isDecimal = ds at h
    obtain ⟨rest', rfl, hall, hends⟩ := takeWhile_isDecimal_eq_iff.mp hds
    dsimp only at h
    split at h
    · rename_i hlen
      simp only [List.drop_left, Option.some.injEq, Prod.mk.injEq] at h
      obtain ⟨rfl, rfl⟩ := h
      exact ⟨ds, rfl, ⟨hlen, hall⟩, hends, rfl⟩
    · cases h
  · rintro ⟨ms, rfl, ⟨hlen, hall⟩, hends, rfl⟩
    have hms := takeWhile_isDecimal_eq_iff.mpr ⟨rest, rfl, hall, hends⟩
    simp [hms, hlen]

theorem yearThenSep?_eq_some_iff {cs rest : List Char} {y : Nat} :
    yearThenSep? cs = some (y, rest) ↔
      ∃ ys a, cs = ys ++ a :: rest ∧ YearDigits ys ∧ DateSep a ∧ digitsValue ys = y := by
  unfold yearThenSep?
  constructor
  · intro h
    split at h
    · rename_i a rest' hdrop
      split at h
      · rename_i hok
        simp only [Bool.and_eq_true] at hok
        simp only [Option.some.injEq, Prod.mk.injEq] at h
        obtain ⟨rfl, rfl⟩ := h
        refine ⟨cs.take 4, a, ?_, isYearText_iff.mp hok.1, isDateSep_iff.mp hok.2, rfl⟩
        rw [← hdrop, List.take_append_drop]
      · cases h
    · cases h
  · rintro ⟨ys, a, rfl, hy, ha, rfl⟩
    have hlen : ys.length = 4 := hy.1
    have hdrop : (ys ++ a :: rest).drop 4 = a :: rest := by rw [← hlen, List.drop_left]
    have htake : (ys ++ a :: rest).take 4 = ys := by rw [← hlen, List.take_left]
    simp [hdrop, htake, isYearText_iff.mpr hy, isDateSep_iff.mpr ha]

theorem fullDate?_eq_some_iff {s : List Char} {y m d : Nat} :
    fullDate? s = some (y, m, d) ↔
      ∃ ys ms ds, FullDateForm s ys ms ds ∧
        digitsValue ys = y ∧ digitsValue ms = m ∧ digitsValue ds = d := by
  constructor
  · intro h
    simp only [fullDate?, bind, Option.bind_eq_some_iff] at h
    obtain ⟨⟨y', r1⟩, h1, h⟩ := h
    obtain ⟨ys, a, rfl, hy, ha, rfl⟩ := yearThenSep?_eq_some_iff.mp h1
    obtain ⟨⟨m', r2⟩, h2, h⟩ := h
    obtain ⟨ms, rfl, hm, -, rfl⟩ := shortNumber?_eq_some_iff.mp h2
    -- after the month comes a separator, the day and what may follow a date
    cases r2 with
    | nil => cases h
    | cons b r3 =>
      dsimp only at h
      split_ifs at h with hb
      obtain ⟨⟨d', t⟩, h3, h⟩ := Option.bind_eq_some_iff.mp h
      obtain ⟨ds, rfl, hd, -, rfl⟩ := shortNumber?_eq_some_iff.mp h3
      split_ifs at h with ht
      simp only [Option.some.injEq, Prod.mk.injEq] at h
      obtain ⟨rfl, rfl, rfl⟩ := h
      exact ⟨ys, ms, ds, ⟨hy, hm, hd, a, b, t, rfl, ha, isDateSep_iff.mp hb,
        isTimeTail_iff.mp ht⟩, rfl, rfl, rfl⟩
  · rintro ⟨ys, ms, ds, ⟨hy, hm, hd, a, b, t, rfl, ha, hb, ht⟩, rfl, rfl, rfl⟩
    have h1 : yearThenSep? (ys ++ a :: (ms ++ b :: (ds ++ t))) =
        some (digitsValue ys, ms ++ b :: (ds ++ t)) :=
      yearThenSep?_eq_some_iff.mpr ⟨ys, a, rfl, hy, ha, rfl⟩
    have h2 : shortNumber? (ms ++ b :: (ds ++ t)) = some (digitsValue ms, b :: (ds ++ t)) :=
      shortNumber?_eq_some_iff.mpr ⟨ms, rfl, hm, RunEnds.of_dateSep hb, rfl⟩
    have h3 : shortNumber? (ds ++ t) = some (digitsValue ds, t) :=
      shortNumber?_eq_some_iff.mpr ⟨ds, rfl, hd, RunEnds.of_timeTail ht, rfl⟩
    simp [fullDate?, h1, h2, h3, isDateSep_iff.mpr hb, isTimeTail_iff.mpr ht]

theorem yearMonth?_eq_some_iff {s : List Char} {y m : Nat} :
    yearMonth? s = some (y, m) ↔
      ∃ ys ms, YearMonthForm s ys ms ∧ digitsValue ys = y ∧ digitsValue ms = m := by
  constructor
  · intro h
    simp only [yearMonth?, bind, Option.bind_eq_some_iff] at h
    obtain ⟨⟨y', r1⟩, h1, ⟨m', r2⟩, h2, h⟩ := h
    obtain ⟨ys, a, rfl, hy, ha, rfl⟩ := yearThenSep?_eq_some_iff.mp h1
    obtain ⟨ms, rfl, hm, -, rfl⟩ := shortNumber?_eq_some_iff.mp h2
    -- the month ends the text
    dsimp only at h
    split_ifs at h with hend
    simp only [Option.some.injEq, Prod.mk.injEq] at h
    obtain ⟨rfl, rfl⟩ := h
    rw [List.isEmpty_iff.mp hend, List.append_nil]
    exact ⟨ys, ms, ⟨hy, hm, a, rfl, ha⟩, rfl, rfl⟩
  · rintro ⟨ys, ms, ⟨hy, hm, a, rfl, ha⟩, rfl, rfl⟩
    have h1 : yearThenSep? (ys ++ a :: ms) = some (digitsValue ys, ms) :=
      yearThenSep?_eq_some_iff.mpr ⟨ys, a, rfl, hy, ha, rfl⟩
    have h2 : shortNumber? ms = some (digitsValue ms, []) :=
      shortNumber?_eq_some_iff.mpr ⟨ms, (List.append_nil ms).symm, hm, by simp [RunEnds], rfl⟩
    simp [yearMonth?, h1, h2]

/-! ## Runs of digits -/

theorem noDigit_cons {c : Char} {cs : List Char} :
    NoDigit (c :: cs) ↔ isDecimal c = false ∧ NoDigit cs := by
  simp [NoDigit]

theorem digitRuns_eq_nil_iff {cs : List Char} : digitRuns cs = [] ↔ NoDigit cs := by
  induction cs with
  | nil => simp [digitRuns, NoDigit]
  | cons c rest ih =>
    cases hc : isDecimal c with
    | false => simp [digitRuns, hc, ih, noDigit_cons]
    | true =>
      -- a digit always makes a run
      have hne : digitRuns (c :: rest) ≠ [] := by
        simp only [digitRuns, hc, if_true]
        split
        · split <;> simp
        · simp
      simp [hne, noDigit_cons, hc]

theorem digitRuns_run_append {run post : List Char} (hne : run ≠ []) (hrun : AllDigits run)
    (hpost : RunEnds post) : digitRuns (run ++ post) = run :: digitRuns post := by
  induction run with
  | nil => exact absurd rfl hne
  | cons c rest ih =>
    have hc : isDecimal c = true := hrun c List.mem_cons_self
    cases rest with
    | nil =>
      simp only [List.cons_append, List.nil_append, digitRuns, hc, if_true, hpost.any_head?]
      split <;> simp_all
    | cons c' rest =>
      have hc' : isDecimal c' = true := hrun c' (by simp)
      have ih' := ih (List.cons_ne_nil _ _) (fun x hx => hrun x (List.mem_cons_of_mem c hx))
      rw [List.cons_append, digitRuns, if_pos hc, ih']
      simp [hc']

theorem digitRuns_append {pre cs : List Char} (hpre : ∀ c ∈ pre.getLast?, isDecimal c = false) :
    digitRuns (pre ++ cs) = digitRuns pre ++ digitRuns cs := by
  induction pre with
  | nil => simp [digitRuns]
  | cons c pre ih =>
    have hpre' : ∀ x ∈ pre.getLast?, isDecimal x = false := by
      cases pre with
      | nil => simp
      | cons d pre => simpa [List.getLast?_cons_cons] using hpre
    cases hc : isDecimal c with
    | false => simp [digitRuns, hc, ih hpre']
    | true =>
      -- the digit `c` is not the last character, so its run is decided inside `pre`
      have hne : pre ≠ [] := by
        rintro rfl
        simp [hc] at hpre
      have hhead : (pre ++ cs).head? = pre.head? := List.head?_append_of_ne_nil _ hne
      rw [List.cons_append, digitRuns, digitRuns, if_pos hc, if_pos hc, ih hpre', hhead]
      cases hruns : digitRuns pre with
      | nil =>
        have hany : RunEnds pre := fun x hx =>
          digitRuns_eq_nil_iff.mp hruns x (List.mem_of_mem_head? hx)
        cases digitRuns cs <;> simp [hany.any_head?]
      | cons run runs =>
        simp only [List.cons_append]
        split <;> simp

theorem NoDigit.getLast? {pre : List Char} (h : NoDigit pre) :
    ∀ c ∈ pre.getLast?, isDecimal c = false :=
  fun c hc => h c (List.mem_of_getLast? hc)

/-- The first run of digits heads the runs. -/
theorem FirstRun.digitRuns_eq {s run : List Char} (h : FirstRun s run) :
    ∃ runs, digitRuns s = run :: runs := by
  obtain ⟨pre, post, rfl, hpre, hpost⟩ := h.split
  refine ⟨digitRuns post, ?_⟩
  rw [List.append_assoc, digitRuns_append hpre.getLast?, digitRuns_eq_nil_iff.mpr hpre,
    digitRuns_run_append h.ne_nil h.digits hpost, List.nil_append]

/-- The last run of digits ends the runs. -/
theorem LastRun.getLast?_digitRuns {s run : List Char} (h : LastRun s run) :
    (digitRuns s).getLast? = some run := by
  obtain ⟨pre, post, rfl, hpre, hpost⟩ := h.split
  have hend : digitRuns post = [] := digitRuns_eq_nil_iff.mpr hpost
  rw [List.append_assoc, digitRuns_append hpre, digitRuns_run_append h.ne_nil h.digits
    (fun c hc => hpost c (List.mem_of_mem_head? hc)), hend]
  simp

theorem exists_firstRun {s : List Char} (h : ¬NoDigit s) : ∃ run, FirstRun s run := by
  induction s with
  | nil => exact absurd (by simp [NoDigit]) h
  | cons c s ih =>
    cases hc : isDecimal c with
    | false =>
      -- the first run is the first run of the rest
      obtain ⟨run, hrun⟩ := ih fun hs => h (noDigit_cons.mpr ⟨hc, hs⟩)
      obtain ⟨pre, post, rfl, hpre, hpost⟩ := hrun.split
      exact ⟨run, hrun.ne_nil, hrun.digits, c :: pre, post, rfl, noDigit_cons.mpr ⟨hc, hpre⟩,
        hpost⟩
    | true =>
      -- the text starts with its first run
      obtain ⟨post, hsplit, hall, hends⟩ :=
        takeWhile_isDecimal_eq_iff.mp (rfl : (c :: s).takeWhile isDecimal = _)
      refine ⟨(c :: s).takeWhile isDecimal, ?_, hall, [], post,
        by rw [List.nil_append]; exact hsplit, by simp [NoDigit], hends⟩
      simp [List.takeWhile_cons_of_pos hc]

theorem FirstRun.reverse {s run : List Char} (h : FirstRun s.reverse run) :
    LastRun s run.reverse := by
  obtain ⟨pre, post, hs, hpre, hpost⟩ := h.split
  refine ⟨by simpa using h.ne_nil, fun c hc => h.digits c (List.mem_reverse.mp hc),
    post.reverse, pre.reverse, ?_, by simpa [List.getLast?_reverse, RunEnds] using hpost,
    fun c hc => hpre c (List.mem_reverse.mp hc)⟩
  rw [← List.reverse_reverse s, hs]
  simp

theorem exists_lastRun {s : List Char} (h : ¬NoDigit s) : ∃ run, LastRun s run := by
  have h' : ¬NoDigit s.reverse := by simpa [NoDigit] using h
  obtain ⟨run, hrun⟩ := exists_firstRun h'
  exact ⟨run.reverse, hrun.reverse⟩

theorem digitYear?_of_runs {s first last : List Char} (hfirst : FirstRun s first)
    (hlast : LastRun s last) : digitYear? s = some (runYear first last) := by
  obtain ⟨runs, hruns⟩ := hfirst.digitRuns_eq
  have hend := hlast.getLast?_digitRuns
  rw [hruns] at hend
  unfold digitYear?
  rw [hruns]
  dsimp only
  rw [List.getLastD_eq_getLast?, hend]
  rfl

theorem digitYear?_of_noDigit {s : List Char} (h : NoDigit s) : digitYear? s = none := by
  unfold digitYear?
  rw [digitRuns_eq_nil_iff.mpr h]

/-! ## `parse`, form by form -/

theorem isYear_iff {s : List Char} : (isYearText s && digitsValue s != 0) = true ↔ IsYear s := by
  simp [IsYear, isYearText_iff]

theorem isYear_eq_false {s : List Char} (h : ¬IsYear s) :
    (isYearText s && digitsValue s != 0) = false :=
  Bool.eq_false_iff.mpr (mt isYear_iff.mp h)

theorem ne_nil_of_not_noDigit {s : List Char} (h : ¬NoDigit s) : s ≠ [] := by
  rintro rfl
  exact h (by simp [NoDigit])

theorem not_noDigit_of_yearDigits {s ys t : List Char} (hy : YearDigits ys) (hs : s = ys ++ t) :
    ¬NoDigit s := by
  intro hnone
  obtain ⟨c, hc⟩ := List.exists_mem_of_length_pos (by rw [hy.1]; decide : 0 < ys.length)
  have hdec := hnone c (hs ▸ List.mem_append_left t hc)
  rw [hy.2 c hc] at hdec
  cases hdec

theorem IsYear.not_noDigit {s : List Char} (h : IsYear s) : ¬NoDigit s :=
  not_noDigit_of_yearDigits h.1 (List.append_nil s).symm

theorem FullDateForm.not_noDigit {s ys ms ds : List Char} (h : FullDateForm s ys ms ds) :
    ¬NoDigit s := by
  obtain ⟨a, b, t, hs, -⟩ := h.split
  exact not_noDigit_of_yearDigits h.year hs

theorem YearMonthForm.not_noDigit {s ys ms : List Char} (h : YearMonthForm s ys ms) :
    ¬NoDigit s := by
  obtain ⟨a, hs, -⟩ := h.split
  exact not_noDigit_of_yearDigits h.year hs

theorem fallback_eq_fromDigits {s : List Char} {text : String} (hmonth : ¬IsYearMonth s) :
    parse.fallback s text = parse.fromDigits s := by
  cases hym : yearMonth? s with
  | none => simp [parse.fallback, hym]
  | some p =>
    obtain ⟨y, m⟩ := p
    obtain ⟨ys, ms, hform, rfl, rfl⟩ := yearMonth?_eq_some_iff.mp hym
    have hno : ¬(digitsValue ys ≠ 0 ∧ 1 ≤ digitsValue ms ∧ digitsValue ms ≤ 12) :=
      fun h => hmonth ⟨ys, ms, hform, h⟩
    unfold parse.fallback
    rw [hym]
    dsimp only
    rw [if_neg (by simpa using hno)]

section Parse

variable {v : String}

theorem parse_eq_fallback (hne : trimChars v.toList ≠ []) (hyear : ¬IsYear (trimChars v.toList))
    (hdate : ¬IsCalendarDate (trimChars v.toList)) :
    parse v = parse.fallback (trimChars v.toList) (String.ofList (trimChars v.toList)) := by
  cases hfull : fullDate? (trimChars v.toList) with
  | none => simp [parse, hne, isYear_eq_false hyear, hfull]
  | some p =>
    obtain ⟨y, m, d⟩ := p
    -- a full date that is not a calendar date is passed over
    have hday : isCalendarDay y m d = false := by
      obtain ⟨ys, ms, ds, hform, rfl, rfl, rfl⟩ := fullDate?_eq_some_iff.mp hfull
      exact Bool.eq_false_iff.mpr fun h => hdate ⟨ys, ms, ds, hform, h⟩
    simp [parse, hne, isYear_eq_false hyear, hfull, hday]

theorem parse_of_isYear (h : IsYear (trimChars v.toList)) :
    parse v =
      { date := String.ofList (trimChars v.toList), year := digitsValue (trimChars v.toList) } := by
  simp [parse, ne_nil_of_not_noDigit h.not_noDigit, isYear_iff.mpr h]

theorem parse_of_calendarDate {ys ms ds : List Char} (hyear : ¬IsYear (trimChars v.toList))
    (h : FullDateForm (trimChars v.toList) ys ms ds)
    (hday : isCalendarDay (digitsValue ys) (digitsValue ms) (digitsValue ds) = true) :
    parse v =
      { date := String.ofList (trimChars v.toList), year := digitsValue ys,
        month := digitsValue ms, day := digitsValue ds } := by
  have hfull := fullDate?_eq_some_iff.mpr ⟨ys, ms, ds, h, rfl, rfl, rfl⟩
  simp [parse, ne_nil_of_not_noDigit h.not_noDigit, isYear_eq_false hyear, hfull, hday]

theorem parse_of_yearMonth {ys ms : List Char} (hyear : ¬IsYear (trimChars v.toList))
    (hdate : ¬IsCalendarDate (trimChars v.toList)) (h : YearMonthForm (trimChars v.toList) ys ms)
    (hy : digitsValue ys ≠ 0) (hm : 1 ≤ digitsValue ms ∧ digitsValue ms ≤ 12) :
    parse v =
      { date := String.ofList (trimChars v.toList), year := digitsValue ys,
        month := digitsValue ms } := by
  rw [parse_eq_fallback (ne_nil_of_not_noDigit h.not_noDigit) hyear hdate]
  have hym := yearMonth?_eq_some_iff.mpr ⟨ys, ms, h, rfl, rfl⟩
  simp [parse.fallback, hym, hy, hm]

theorem parse_of_runs {first last : List Char} (hyear : ¬IsYear (trimChars v.toList))
    (hdate : ¬IsCalendarDate (trimChars v.toList)) (hmonth : ¬IsYearMonth (trimChars v.toList))
    (hfirst : FirstRun (trimChars v.toList) first) (hlast : LastRun (trimChars v.toList) last) :
    parse v = if digitsValue (runYear first last) = 0 then {}
      else
        { date := String.ofList (runYear first last),
          year := digitsValue (runYear first last) } := by
  have hne : trimChars v.toList ≠ [] := by
    obtain ⟨pre, post, hs, -⟩ := hfirst.split
    simp [hs, hfirst.ne_nil]
  rw [parse_eq_fallback hne hyear hdate, fallback_eq_fromDigits hmonth]
  unfold parse.fromDigits
  rw [digitYear?_of_runs hfirst hlast]

theorem parse_of_noDigit (h : NoDigit (trimChars v.toList)) : parse v = {} := by
  by_cases hne : trimChars v.toList = []
  · simp [parse, hne]
  · rw [parse_eq_fallback hne (fun hy => hy.not_noDigit h)
      (fun ⟨_, _, _, hform, _⟩ => hform.not_noDigit h),
      fallback_eq_fromDigits (fun ⟨_, _, hform, _⟩ => hform.not_noDigit h)]
    simp [parse.fromDigits, digitYear?_of_noDigit h]

/-- `parse` reads every text by the rules. -/
theorem reading_parse (v : String) : Reading (trimChars v.toList) (parse v) := by
  by_cases hyear : IsYear (trimChars v.toList)
  · rw [parse_of_isYear hyear]
    exact .year hyear
  by_cases hdate : IsCalendarDate (trimChars v.toList)
  · obtain ⟨ys, ms, ds, h, hday⟩ := hdate
    rw [parse_of_calendarDate hyear h hday]
    exact .calendarDate hyear h hday
  by_cases hmonth : IsYearMonth (trimChars v.toList)
  · obtain ⟨ys, ms, h, hy, hm⟩ := hmonth
    rw [parse_of_yearMonth hyear hdate h hy hm]
    exact .yearMonth hyear hdate h hy hm
  by_cases hdigit : NoDigit (trimChars v.toList)
  · rw [parse_of_noDigit hdigit]
    exact .noDigit hdigit
  -- the year made of the digits
  obtain ⟨first, hfirst⟩ := exists_firstRun hdigit
  obtain ⟨last, hlast⟩ := exists_lastRun hdigit
  rw [parse_of_runs hyear hdate hmonth hfirst hlast]
  split
  · rename_i hzero
    exact .zeroRuns hyear hdate hmonth hfirst hlast hzero
  · rename_i hzero
    exact .runs hyear hdate hmonth hfirst hlast hzero

/-- What the rules give a text is what `parse` reads. -/
theorem parse_of_reading {r : DateParts} (h : Reading (trimChars v.toList) r) : parse v = r := by
  cases h with
  | year h => exact parse_of_isYear h
  | calendarDate hyear h hday => exact parse_of_calendarDate hyear h hday
  | yearMonth hyear hdate h hy hm => exact parse_of_yearMonth hyear hdate h hy hm
  | runs hyear hdate hmonth hfirst hlast hv =>
    rw [parse_of_runs hyear hdate hmonth hfirst hlast, if_neg hv]
  | zeroRuns hyear hdate hmonth hfirst hlast hv =>
    rw [parse_of_runs hyear hdate hmonth hfirst hlast, if_pos hv]
  | noDigit h => exact parse_of_noDigit h

end Parse

/-- **A catalog date is read by its rules**: the date `parse` reads from a text is the one, and
the only one, that the rules of `Reading` give its trimmed text. -/
theorem parse_eq_iff_reading (v : String) (r : DateParts) :
    parse v = r ↔ Reading (trim v).toList r := by
  rw [trim, String.toList_ofList]
  constructor
  · rintro rfl
    exact reading_parse v
  · exact parse_of_reading

end DateParts

end Citations
