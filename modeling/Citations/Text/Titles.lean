import Citations.Unicode.Properties
import Citations.Text.Basic
import Citations.Text.Case

/-! # Titles, quoting, markup and month names

* `titleCase`: every word gets a capital first letter, except the small connecting words, which
  go to lower case; the first word, and the first word after a colon, always get a capital.
* `sentenceCase`: the first word of the title and of each subtitle gets a capital first letter;
  other plainly capitalised words (`Word`) go to lower case; acronyms and mixed case stay.
* In both, the words are the pieces between runs of blanks, joined again by single spaces; a
  word's first letter is its first alphabetic character.
* `quoteTitle`: a title in title case inside double quotes, quotes within it turned to single
  quotes, with a closing mark inside the closing quote.
-/

namespace Citations.Text

open Citations.Unicode

/-- Connecting words left in lower case inside a title. -/
def smallWords : List String := ["a", "an", "and", "but", "by", "for", "it", "of", "the", "to", "with"]

/-- A word with its first alphabetic character in upper case. -/
def upperFirstChars : List Char → List Char
  | [] => []
  | c :: rest => if isLetter c then upperFull c ++ rest else c :: upperFirstChars rest

/-- A word with its first alphabetic character in upper case. -/
def upperFirst (w : String) : String := String.ofList (upperFirstChars w.toList)

/-- A word is plainly capitalised: two letters or more, the first upper case, the others
lower case. -/
def isPlainCapitalized (w : String) : Bool :=
  match w.toList.filter isLetter with
  | first :: second :: rest => isUppercase first && (second :: rest).all isLowercase
  | _ => false

/-- The words of a title, each cased by `step` from whether it must get a capital; a word
ending with a colon makes the next one get a capital. -/
def caseWords (step : Bool → String → String) (title : String) : String :=
  let rec go : Bool → List String → List String
    | _, [] => []
    | capital, w :: ws => step capital w :: go (endsWith w ":") ws
  " ".intercalate (go true (words title))

/-- A title in title case. -/
def titleCase (title : String) : String :=
  caseWords (fun capital w =>
    if capital || !smallWords.contains (lower w) then upperFirst w else lower w) title

/-- A title in sentence case. -/
def sentenceCase (title : String) : String :=
  caseWords (fun capital w =>
    if capital then upperFirst w
    else if isPlainCapitalized w then lower w
    else w) title

/-- Drops one trailing period, keeping an ellipsis. -/
def stripSinglePeriod (s : String) : String :=
  if endsWith s "." && !endsWith s "..." then String.ofList s.toList.dropLast else s

/-- The quotation marks that become single quotes inside a quoted title. -/
def quoteMarks : List Char :=
  ['"', '‘', '’', '‚', '‛', '“', '”', '„', '‟', '«', '»', '‹', '›']

/-- A contained work's title in double quotes, with `closing` inside the closing quote. -/
def quoteTitle (title : String) (closing : String := "") : String :=
  let inner := (stripSinglePeriod (titleCase title)).toList.map
    (fun c => if quoteMarks.contains c then '\'' else c)
  "\"" ++ String.ofList inner ++ closing ++ "\""

/-- Text in italics; empty text stays empty. -/
def italicize (s : String) : String := if s.isEmpty then "" else "<em>" ++ s ++ "</em>"

/-- Text in small capitals; empty text stays empty. -/
def smallCaps (s : String) : String :=
  if s.isEmpty then "" else "<span style=\"font-variant: small-caps;\">" ++ s ++ "</span>"

/-- The English month names. -/
def monthNames : List String :=
  ["January", "February", "March", "April", "May", "June", "July", "August", "September",
    "October", "November", "December"]

/-- The name of month 1 to 12; any other number has none. -/
def monthName (month : Int) : String :=
  if 1 ≤ month ∧ month ≤ 12 then monthNames.getD (month.toNat - 1) "" else ""

/-- A month name cut to three letters and a period, when it is longer. -/
def shortMonthName (month : Int) : String :=
  let name := monthName month
  if name.length > 3 then takeChars name 3 ++ "." else name

end Citations.Text
