import Citations.Yaml.Datum
import Citations.Yaml.Failure

/-! # Reading timestamps

A timestamp is a date `YYYY-M-D` (month and day of one or two digits), optionally followed by
`T`, `t` or blanks and a time `H:MM:SS` with an optional fraction of a second and an optional
zone: `Z`, or a sign, one or two digits of hours and optionally `:MM`, after optional blanks.
One final line feed may follow.

A date must be on the calendar (years 1 to 9999) and a time on the clock. Only the first six
digits of a fraction count, as microseconds. A zone's offset must be less than a day either
way; it is checked before the date.
-/

namespace Citations.Yaml

/-- The parts of a timestamp's text. -/
structure StampText where
  year : List Char
  month : List Char
  day : List Char
  /-- the time: hour, minute, second, fraction and zone -/
  time : Option (List Char × List Char × List Char × List Char × Option (Option (Bool × List Char × List Char)))

/-- Reads one or two digits, as many as there are. -/
def twoDigits (cs : List Char) : Option (List Char × List Char) :=
  let isDigit := fun (c : Char) => '0' ≤ c && c ≤ '9'
  match cs with
  | a :: b :: rest => if isDigit a then (if isDigit b then some ([a, b], rest) else some ([a], b :: rest)) else none
  | [a] => if isDigit a then some ([a], []) else none
  | [] => none

/-- Reads exactly `n` digits. -/
def exactDigits (n : Nat) (cs : List Char) : Option (List Char × List Char) :=
  let ds := cs.take n
  if ds.length = n && ds.all (fun c => '0' ≤ c && c ≤ '9') then some (ds, cs.drop n) else none

/-- Reads a zone: `Z`, or a sign, hours and optional minutes, after blanks; it must end the
text. Inner none is universal time. -/
def readZone (cs : List Char) : Option (Option (Bool × List Char × List Char)) :=
  match cs.dropWhile (fun c => c = ' ' || c = '\t') with
  | ['Z'] => some none
  | s :: rest =>
    if s = '-' || s = '+' then do
      let (h, rest) ← twoDigits rest
      match rest with
      | [] => some (some (s = '-', h, []))
      | ':' :: rest =>
        let (m, rest) ← exactDigits 2 rest
        if rest.isEmpty then some (some (s = '-', h, m)) else none
      | _ => none
    else none
  | [] => none

/-- Reads the time part of a timestamp, after the date. -/
def readTime (cs : List Char) :
    Option (List Char × List Char × List Char × List Char × Option (Option (Bool × List Char × List Char))) := do
  let cs ← match cs with
    | c :: rest =>
      if c = 'T' || c = 't' then some rest
      else if c = ' ' || c = '\t' then some (rest.dropWhile fun c => c = ' ' || c = '\t')
      else none
    | [] => none
  let (hour, cs) ← twoDigits cs
  let cs ← match cs with | ':' :: rest => some rest | _ => none
  let (minute, cs) ← exactDigits 2 cs
  let cs ← match cs with | ':' :: rest => some rest | _ => none
  let (second, cs) ← exactDigits 2 cs
  let (fraction, cs) := match cs with
    | '.' :: rest => (rest.takeWhile (fun c => '0' ≤ c && c ≤ '9'), rest.dropWhile (fun c => '0' ≤ c && c ≤ '9'))
    | _ => ([], cs)
  if cs.isEmpty then some (hour, minute, second, fraction, none)
  else
    let zone ← readZone cs
    some (hour, minute, second, fraction, some zone)

/-- Reads the parts of a timestamp's text. -/
def readStamp (cs : List Char) : Option StampText := do
  let (year, cs) ← exactDigits 4 cs
  let cs ← match cs with | '-' :: rest => some rest | _ => none
  let (month, cs) ← twoDigits cs
  let cs ← match cs with | '-' :: rest => some rest | _ => none
  let (day, cs) ← twoDigits cs
  if cs.isEmpty then some { year, month, day, time := none }
  else
    let time ← readTime cs
    some { year, month, day, time := some time }

/-- The value of ASCII digits. -/
def digitsNat (ds : List Char) : Nat := ds.foldl (fun n d => 10 * n + (d.toNat - '0'.toNat)) 0

/-- Whether a year has a 29th of February. -/
def isLeapYear (y : Nat) : Bool := y % 4 == 0 && (y % 100 != 0 || y % 400 == 0)

/-- The days of a month. -/
def daysInMonth (y m : Nat) : Nat :=
  if m = 2 then (if isLeapYear y then 29 else 28)
  else if m = 4 || m = 6 || m = 9 || m = 11 then 30 else 31

/-- A date, if it is on the calendar. -/
def Date.check (y m d : Nat) : Except Failure Date :=
  if y < 1 || y > 9999 then .error (.outOfRange ("year " ++ intText y ++ " is out of range"))
  else if m < 1 || m > 12 then .error (.outOfRange "month must be in 1..12")
  else if d < 1 || d > daysInMonth y m then .error (.outOfRange "day is out of range for month")
  else .ok { year := y, month := m, day := d }

/-- The datum a timestamp's text reads as, or none when the text is no timestamp. -/
def readTimestamp (text : String) : Option (Except Failure Datum) :=
  let cs := text.toList
  let stamp := match readStamp cs with
    | some s => some s
    | none => if cs.getLast? == some '\n' then readStamp cs.dropLast else none
  stamp.map fun s =>
    let (y, m, d) := (digitsNat s.year, digitsNat s.month, digitsNat s.day)
    match s.time with
    | none => (Date.check y m d).map .date
    | some (hour, minute, second, fraction, zone) => do
      let micro := digitsNat ((fraction.take 6) ++ List.replicate (6 - min 6 fraction.length) '0')
      let offset ← match zone with
        | none => pure none
        | some none => pure (some 0)
        | some (some (negative, h, mins)) =>
          let delta : Int := digitsNat h * 3600 + digitsNat mins * 60
          let delta := if negative then -delta else delta
          if delta ≤ -86400 || delta ≥ 86400 then
            throw (Failure.offsetTooLarge (delta / 86400) (delta % 86400))
          else pure (some delta)
      let date ← Date.check y m d
      let (hh, mm, ss) := (digitsNat hour, digitsNat minute, digitsNat second)
      if hh > 23 then throw (.outOfRange "hour must be in 0..23")
      if mm > 59 then throw (.outOfRange "minute must be in 0..59")
      if ss > 59 then throw (.outOfRange "second must be in 0..59")
      pure (.moment { date, hour := hh, minute := mm, second := ss, microsecond := micro, offset })

end Citations.Yaml
