import Citations.Unicode.RangeSet
import Citations.Unicode.Letters
import Citations.Unicode.Digits
import Citations.Unicode.Blank
import Citations.Unicode.Cases
import Citations.Unicode.CaseMaps
import Citations.Unicode.Printable

/-! # Character properties

The questions that text rules ask about one character, answered from the Unicode tables:
is it a letter, a word character, a decimal digit (and which), lower case, upper case, cased,
ignorable for case, printable; what are its lower and upper case.

Two comparisons ignore case:

* `simpleLower`: the first character of the full lower case, the one-character mapping that a
  case-insensitive pattern applies to the text.
* `caselessMatch p t`: a character `t` of text matches a character `p` of a pattern when case
  is ignored. A character without case matches only itself; otherwise the two lower cases agree,
  or they are two lower-case letters with one upper case (`ı`, `i`; `ſ`, `s`).
-/

namespace Citations.Unicode

/-- A letter: general category Lu, Ll, Lt, Lm or Lo. -/
def isLetter (c : Char) : Bool := alphabetic.contains c

/-- A word character: a letter, a character with a numeric value, or the low line. -/
def isWordChar (c : Char) : Bool := wordChars.contains c

/-- A decimal digit of any script. -/
def isDecimal (c : Char) : Bool := decimalDigits.contains c

/-- The value of a decimal digit: its distance from the zero that opens its range. -/
def decimalValue (c : Char) : Nat :=
  let rs := decimalDigits.ranges
  match rs[0]? with
  | none => 0
  | some _ =>
    let r := rs.getD (RangeSet.lastStartAtOrBelow rs c.toNat 0 rs.size) (0, 0)
    (c.toNat - r.1) % 10

/-- A lower-case character (derived property Lowercase). -/
def isLowercase (c : Char) : Bool := lowercaseLetters.contains c

/-- An upper-case character (derived property Uppercase). -/
def isUppercase (c : Char) : Bool := uppercaseLetters.contains c

/-- A title-case digraph (general category Lt). -/
def isTitlecase (c : Char) : Bool := titlecaseLetters.contains c

/-- A cased character: lower case, upper case or title case. -/
def isCased (c : Char) : Bool := isLowercase c || isUppercase c || isTitlecase c

/-- A character that case rules look through (derived property Case_Ignorable). -/
def isCaseIgnorable (c : Char) : Bool := caseIgnorable.contains c

/-- A printable character. -/
def isPrintable (c : Char) : Bool := printableChars.contains c

/-- The full lower case of a character. -/
def lowerFull (c : Char) : List Char := lowerCaseMap.apply c

/-- The full upper case of a character. -/
def upperFull (c : Char) : List Char := upperCaseMap.apply c

/-- The one-character lower case: the first character of the full lower case. -/
def simpleLower (c : Char) : Char := (lowerFull c).headD c

/-- The one-character upper case: the first character of the full upper case. -/
def simpleUpper (c : Char) : Char := (upperFull c).headD c

/-- A character has case when one of its one-character case mappings changes it. -/
def hasCase (c : Char) : Bool := simpleLower c != c || simpleUpper c != c

/-- The lower-case letters that share their upper case with the lower-case letter `c`. -/
def sharingUpper (c : Char) : List Char :=
  match sharedUpperCase.find? c.toNat with
  | some vs => vs.map Char.ofNat
  | none => []

/-- A character of text matches a character of a pattern when case is ignored. -/
def caselessMatch (p t : Char) : Bool :=
  if hasCase p then
    let lp := simpleLower p
    let lt := simpleLower t
    lt == lp || (sharingUpper lp).contains lt
  else t == p

end Citations.Unicode
