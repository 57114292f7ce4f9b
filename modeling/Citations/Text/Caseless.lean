import Citations.Unicode.Properties

/-! # Matching text regardless of case

Small recognisers for the fixed words that field rules look for at the start of a value
(`vol.`, `no.`, `https://doi.org/`), compared character by character with `caselessMatch`: a
pattern character with case matches any character whose one-character lower case is its lower
case, or a letter that shares its upper case (`ı` for `i`, `ſ` for `s`).

A word ends where a word character is followed by something that is not one, or by nothing.
-/

namespace Citations.Text

open Citations.Unicode

/-- The rest of the text after a caseless match of `pat` at its start. -/
def caselessPrefix : List Char → List Char → Option (List Char)
  | [], cs => some cs
  | _ :: _, [] => none
  | p :: ps, c :: cs => if caselessMatch p c then caselessPrefix ps cs else none

/-- No word character follows: the end of the text, or a character that is no word character. -/
def wordEndsBefore : List Char → Bool
  | [] => true
  | c :: _ => !isWordChar c

/-- A caseless match of `pat` at the start that ends a word. -/
def startsWithWord (pat : List Char) (cs : List Char) : Bool :=
  match caselessPrefix pat cs with
  | some rest => wordEndsBefore rest
  | none => false

/-- A character belongs, regardless of case, to a class of characters that are their own lower
case: its lower case belongs, or a lower-case letter that shares its upper case does. -/
def caselessIn (member : Char → Bool) (c : Char) : Bool :=
  let l := simpleLower c
  member l || (sharingUpper l).any member

end Citations.Text
