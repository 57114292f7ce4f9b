import Citations.Unicode.Properties
import Citations.Text.Basic

/-! # Publication dates

Catalogs write dates in many ways: `2014`, `2014-03-15`, `2014/3`, `c1998.`, `[1887?]`,
`1995-2001`. `DateParts.parse` reads the first of these forms that fits the trimmed text, with
digits of any script:

1. four digits of nonzero value: a year;
2. a year, month and day separated by `-` or `/` (month and day of one or two digits),
   optionally followed by `T` or a space and more text without a line feed, when they make a
   day of the calendar: the date;
3. a year and a month, the year nonzero and the month from 1 to 12;
4. otherwise a year taken from the digits: the first up to four digits of the first run of
   digits, unless the last up to four digits of the last run are more; a year of value zero
   is no year.

The text of the date is the trimmed input in the first three forms and the year's digits in the
last.
-/

namespace Citations

open Citations.Unicode Citations.Text

/-- A date read from a catalog: its text, and year, month and day, 0 where unknown. -/
structure DateParts where
  date : String := ""
  year : Int := 0
  month : Int := 0
  day : Int := 0

namespace DateParts

/-- The value of a run of decimal digits of any script. -/
def digitsValue (cs : List Char) : Nat :=
  cs.foldl (fun acc c => acc * 10 + decimalValue c) 0

/-- Exactly four decimal digits. -/
def isYearText (cs : List Char) : Bool :=
  cs.length = 4 && cs.all isDecimal

/-- A separator of date parts. -/
def isDateSep (c : Char) : Bool := c = '-' || c = '/'

/-- A month or day: a whole run of one or two digits at the start, and what follows it. -/
def shortNumber? (cs : List Char) : Option (Nat × List Char) :=
  let ds := cs.takeWhile isDecimal
  if ds.length = 1 ∨ ds.length = 2 then some (digitsValue ds, cs.drop ds.length) else none

/-- A year at the start followed by a separator: the year and what follows the separator. -/
def yearThenSep? (cs : List Char) : Option (Nat × List Char) :=
  match cs.drop 4 with
  | s :: rest => if isYearText (cs.take 4) && isDateSep s then some (digitsValue (cs.take 4), rest)
    else none
  | [] => none

/-- What may follow a full date: nothing, or `T` or a space and text without a line feed. -/
def isTimeTail : List Char → Bool
  | [] => true
  | c :: rest => (c = 'T' || c = ' ') && !rest.contains '\n'

/-- Year, month and day of a full date, not yet checked against the calendar. -/
def fullDate? (cs : List Char) : Option (Nat × Nat × Nat) := do
  let (y, r1) ← yearThenSep? cs
  let (m, r2) ← shortNumber? r1
  match r2 with
  | s :: r3 =>
    if isDateSep s then
      let (d, r4) ← shortNumber? r3
      if isTimeTail r4 then some (y, m, d) else none
    else none
  | [] => none

/-- Year and month of a year-month date. -/
def yearMonth? (cs : List Char) : Option (Nat × Nat) := do
  let (y, r1) ← yearThenSep? cs
  let (m, r2) ← shortNumber? r1
  if r2.isEmpty then some (y, m) else none

/-- A leap year of the Gregorian calendar. -/
def isLeapYear (y : Nat) : Bool := y % 4 = 0 && (y % 100 != 0 || y % 400 = 0)

/-- The number of days of a month of a year. -/
def daysInMonth (y m : Nat) : Nat :=
  match m with
  | 2 => if isLeapYear y then 29 else 28
  | 4 | 6 | 9 | 11 => 30
  | _ => 31

/-- A day of the calendar: years 1 to 9999, months 1 to 12, days within the month. -/
def isCalendarDay (y m d : Nat) : Bool :=
  1 ≤ y && y ≤ 9999 && 1 ≤ m && m ≤ 12 && 1 ≤ d && d ≤ daysInMonth y m

/-- The runs of decimal digits of a text, in order. -/
def digitRuns : List Char → List (List Char)
  | [] => []
  | c :: rest =>
    if isDecimal c then
      match digitRuns rest with
      | run :: runs => if rest.head?.any isDecimal then (c :: run) :: runs else [c] :: run :: runs
      | [] => [[c]]
    else digitRuns rest

/-- The year taken from the digits of a text: the first up to four digits of the first run,
unless the last up to four digits of the last run are more. -/
def digitYear? (cs : List Char) : Option (List Char) :=
  match digitRuns cs with
  | [] => none
  | first :: rest =>
    let leading := first.take 4
    let last := (first :: rest).getLastD first
    let trailing := last.drop (last.length - 4)
    some (if trailing.length > leading.length then trailing else leading)

/-- Reads a catalog date. -/
def parse (value : String) : DateParts :=
  let cs := trimChars value.toList
  let text := String.ofList cs
  if cs.isEmpty then {}
  else if isYearText cs && digitsValue cs != 0 then
    { date := text, year := digitsValue cs }
  else
    match fullDate? cs with
    | some (y, m, d) =>
      if isCalendarDay y m d then { date := text, year := y, month := m, day := d }
      else fallback cs text
    | none => fallback cs text
where
  /-- The year-month form, else a year from the digits. -/
  fallback (cs : List Char) (text : String) : DateParts :=
    match yearMonth? cs with
    | some (y, m) =>
      if y != 0 && 1 ≤ m && m ≤ 12 then { date := text, year := y, month := m }
      else fromDigits cs
    | none => fromDigits cs
  /-- A year from the digits, or nothing. -/
  fromDigits (cs : List Char) : DateParts :=
    match digitYear? cs with
    | some run => if digitsValue run = 0 then {} else { date := String.ofList run, year := digitsValue run }
    | none => {}

end DateParts

end Citations
