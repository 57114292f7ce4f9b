import Citations.Unicode.Properties
import Citations.Text.Basic
import Citations.Text.Case
import Citations.Text.Cleaning

/-! # Personal names

Catalogs write personal names surname first: `Surname, Given, Suffix`. Citations need them in
reading order (`Given Surname, Suffix`) or with the given names cut to initials
(`Surname, G.`). A heading with a parenthesis names a body or carries a qualifier, and is left
as it is.

A name is cut at its commas into parts, trimmed, and empty parts are dropped. A name made only
of commas and blanks has no parts, and neither form exists for it: `readingOrder` and
`abbreviate` answer `none` exactly then.

* `splitName`: the last word is the surname, together with the lower-case particles before it
  (`Jean de la Croix` is `Jean` and `de la Croix`); at least one word stays given.
* `readingOrder`: suffixes (`Jr.`, `III`, …) are peeled from the end, never from the surname;
  the surname goes after the given names.
* `abbreviate`: a final part of life dates (`1900-1950`) is dropped; every word of the given
  names becomes its initial, except particles, suffixes, Roman numerals and words with a period.
-/

namespace Citations.Text

open Citations.Unicode

/-- Suffixes that follow a personal name. -/
def nameSuffixes : List String :=
  ["Jr", "Jr.", "Sr", "Sr.", "II", "III", "IV", "V", "Esq", "Esq.", "Ph.D.", "PhD", "M.D.", "MD"]

/-- Particles of surnames and connecting words, kept whole in abbreviated names. -/
def nameParticles : List String :=
  ["van", "von", "der", "den", "de", "del", "della", "di", "da", "du", "la", "le", "of", "the",
    "and", "y"]

/-- A heading that names a body or carries a qualifier: it has a parenthesis. -/
def isCorporate (name : String) : Bool :=
  name.toList.contains '(' || name.toList.contains ')'

/-- Given names and surname of a name in reading order: the last word and the lower-case words
before it form the surname, but the first word is always given. -/
def splitName (name : String) : String × String :=
  let tokens := words name
  match tokens with
  | [] => ("", "")
  | _ =>
    -- the cut moves left over lower-case words while at least one word stays before it
    let rec cutAt : Nat → Nat
      | 0 => 0
      | cut + 1 =>
        if cut + 1 > 1 && isLowerWord (tokens.getD cut "") then cutAt cut else cut + 1
    let cut := cutAt (tokens.length - 1)
    (" ".intercalate (tokens.take cut), " ".intercalate (tokens.drop cut))

/-- The comma-separated parts of a name, trimmed, without empty ones. -/
def nameParts (name : String) : List String :=
  ((splitOn "," name).map trim).filter (· ≠ "")

/-- The number of leading parts that are not suffixes peeled from the end; the first part is
never peeled. -/
def coreLength (parts : List String) : Nat :=
  let rec go : Nat → Nat
    | 0 => 0
    | n + 1 => if n + 1 > 1 && nameSuffixes.contains (parts.getD n "") then go n else n + 1
  go parts.length

/-- A name in reading order, `Given Surname, Suffix`; `none` for a name of commas only. -/
def readingOrder (name : String) : Option String :=
  let name := trim name
  if name.isEmpty || isCorporate name then some name
  else
    let parts := nameParts name
    let k := coreLength parts
    let core := parts.take k
    let suffixes := parts.drop k
    match core with
    | [] => none
    | [only] =>
      let (given, surname) := splitName only
      some (finish (given ++ " " ++ surname) suffixes)
    | surname :: given =>
      some (finish (", ".intercalate given ++ " " ++ surname) suffixes)
where
  /-- The joined name, trimmed, with the suffixes after commas. -/
  finish (joined : String) (suffixes : List String) : String :=
    let r := trim joined
    if suffixes.isEmpty then r else r ++ ", " ++ ", ".intercalate suffixes

/-- Four decimal digits at the start, and what follows them. -/
def fourDigits? (cs : List Char) : Option (List Char) :=
  if (cs.take 4).length = 4 && (cs.take 4).all isDecimal then some (cs.drop 4) else none

/-- What may end life dates: nothing, or one period. -/
def isDatesEnd (cs : List Char) : Bool := cs = [] || cs = ['.']

/-- Life dates: a year, optionally a dash with an optional second year, and an optional
period (`1900`, `1900-`, `1900 - 1950.`). -/
def isLifeDates (s : String) : Bool :=
  match fourDigits? s.toList with
  | none => false
  | some rest =>
    isDatesEnd rest ||
      match rest.dropWhile isBlank with
      | '-' :: more =>
        let c := more.dropWhile isBlank
        (match fourDigits? c with
          | some r => isDatesEnd r
          | none => false) || isDatesEnd c
      | _ => false

/-- A Roman numeral written with capitals. -/
def isRomanNumeral (s : String) : Bool :=
  !s.isEmpty && s.toList.all (fun c => "IVXLCDM".toList.contains c)

/-- The initial of a word of given names; particles, suffixes, Roman numerals and words with a
period stay whole. -/
def initialOf (token : String) : String :=
  if nameParticles.contains token || token.toList.contains '.' || isRomanNumeral token ||
      nameSuffixes.contains token then token
  else
    match token.toList with
    | c :: _ => upperOf c ++ "."
    | [] => token

/-- A name with given names cut to initials, `Surname, G. P.`; `none` for a name of commas
only. -/
def abbreviate (name : String) : Option String :=
  let name := trim name
  if name.isEmpty || isCorporate name then some name
  else
    let parts := nameParts name
    let parts :=
      if parts.length > 1 && isLifeDates (parts.getLastD "") then parts.dropLast else parts
    match parts with
    | [] => none
    | first :: rest =>
      let reduced := rest.map (fun part => " ".intercalate ((words part).map initialOf))
      some (capitalizeFirst (", ".intercalate (first :: reduced)))

end Citations.Text
