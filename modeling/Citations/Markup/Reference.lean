import Citations.Markup.Entities

/-! # Character references

What a character reference stands for.

* A named reference (`&eacute`) stands for the characters of its name in the table of names,
  looked up by binary search; a name outside the table stands for itself.
* A numeric reference (`&#233`, `&#xE9`) stands for the character of its number. Numbers below
  256 are read as bytes of windows-1252, so that `&#147` is a left double quote; the five bytes
  that windows-1252 leaves undefined keep their code point. A number past the last code point,
  or of a surrogate, stands for the replacement character U+FFFD.
-/

namespace Citations.Markup

open Citations.Unicode

/-- The named references as (name, characters), sorted by name. -/
def namedReferences : Array (String × List Char) :=
  (((splitAt ',' namedReferenceText.toList).filter (· ≠ [])).map fun item =>
    match splitAt ':' item with
    | [name, codes] => (String.ofList name, (splitAt '.' codes).map (fun v => Char.ofNat (readHex v)))
    | _ => (String.ofList item, [])).toArray

/-- The index of the last entry whose name is at or below `name`, looked for in `[lo, hi)`. -/
def lastNameAtOrBelow (es : Array (String × List Char)) (name : String) (lo hi : Nat) : Nat :=
  if lo + 1 < hi then
    let mid := (lo + hi) / 2
    if name < (es.getD mid ("", [])).1 then lastNameAtOrBelow es name lo mid
    else lastNameAtOrBelow es name mid hi
  else lo
termination_by hi - lo

/-- The characters a named reference stands for, if its name is in the table. -/
def namedReference? (name : String) : Option (List Char) :=
  match namedReferences[lastNameAtOrBelow namedReferences name 0 namedReferences.size]? with
  | some (n, cs) => if n = name then some cs else none
  | none => none

/-- The value of a run of decimal digits. -/
def decimalValue (ds : List Char) : Nat :=
  ds.foldl (fun acc d => acc * 10 + (d.toNat - '0'.toNat)) 0

/-- The number of a numeric reference: decimal digits, or `x` and hexadecimal digits. -/
def referenceNumber : List Char → Nat
  | x :: hex => if x = 'x' || x = 'X' then readHex hex else decimalValue (x :: hex)
  | [] => 0

/-- The character that a number stands for in a numeric reference. -/
def referenceChar (n : Nat) : Char :=
  if 0x80 ≤ n && n < 0xA0 then
    match windows1252High.find? n with
    | some (v :: _) => Char.ofNat v
    | _ => Char.ofNat n
  else if (0xD800 ≤ n && n < 0xE000) || n > 0x10FFFF then '�'
  else Char.ofNat n

end Citations.Markup
