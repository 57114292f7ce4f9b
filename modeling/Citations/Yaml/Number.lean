import Citations.Yaml.Failure
import Citations.Unicode.Properties
import Citations.Unicode.Blank

/-! # Reading numbers from text

Integers and floating-point numbers are read from text as the data's language reads them.

Before reading, each non-ASCII blank stands for a space and each decimal digit of another
script for its ASCII digit. Blanks may surround the number, and a sign may start it.

* An integer in base 2, 8 or 16 may have the base's prefix (`0b`, `0o`, `0x`) after its sign;
  then come digits of the base, at least one. A decimal integer of more than 4300 digits is
  refused, before what follows its digits is looked at.
* A floating-point number is `inf`, `infinity` or `nan` in any case, or digits with an optional
  point and an optional exponent, with a digit before or after the point. Its value is the
  nearest binary64 to the decimal.
-/

namespace Citations.Yaml

open Citations.Unicode

/-- The most decimal digits an integer may be read from or written with. -/
def digitLimit : Nat := 4300

/-- A number's characters with non-ASCII blanks as spaces, non-ASCII decimal digits as ASCII
digits, and any other non-ASCII character as a character no number holds. -/
def numberChars (cs : List Char) : List Char :=
  cs.map fun c =>
    if c.toNat < 127 then c
    else if isBlank c then ' '
    else if isDecimal c then Char.ofNat ('0'.toNat + decimalValue c)
    else '?'

/-- An ASCII blank, as numbers may have around them. -/
def isAsciiSpace (c : Char) : Bool :=
  c = ' ' || c = '\t' || c = '\n' || c = '\r' || c = '\x0b' || c = '\x0c'

/-- The value of a digit in bases up to 36, or 36 for a character that is no digit. -/
def digitValue (c : Char) : Nat :=
  if '0' ≤ c && c ≤ '9' then c.toNat - '0'.toNat
  else if 'a' ≤ c && c ≤ 'z' then c.toNat - 'a'.toNat + 10
  else if 'A' ≤ c && c ≤ 'Z' then c.toNat - 'A'.toNat + 10
  else 36

/-- The number that digits write in a base. -/
def digitsValue (base : Nat) (ds : List Char) : Nat :=
  ds.foldl (fun n d => base * n + digitValue d) 0

/-- Drops a base's prefix, `0x`, `0o` or `0b` in either case. -/
def dropBasePrefix (base : Nat) : List Char → List Char
  | '0' :: c :: rest =>
    if (base = 16 && (c = 'x' || c = 'X')) || (base = 8 && (c = 'o' || c = 'O')) ||
        (base = 2 && (c = 'b' || c = 'B')) then rest
    else '0' :: c :: rest
  | cs => cs

/-- Reads an integer in base 2, 8, 10 or 16. -/
def readInt (s : String) (base : Nat) : Except Failure Int :=
  let bad : Except Failure Int := .error (.notAnInteger base s)
  let cs := (numberChars s.toList).dropWhile isAsciiSpace
  let (negative, cs) := match cs with
    | '-' :: rest => (true, rest)
    | '+' :: rest => (false, rest)
    | _ => (false, cs)
  let cs := dropBasePrefix base cs
  let ds := cs.takeWhile (digitValue · < base)
  let rest := cs.dropWhile (digitValue · < base)
  if ds.isEmpty then bad
  else if base = 10 && ds.length > digitLimit then .error (.tooManyDigits ds.length)
  else if !(rest.all isAsciiSpace) then bad
  else
    let n : Int := digitsValue base ds
    .ok (if negative then -n else n)

/-- The nearest binary64 to `m * 10 ^ e`. -/
def decimalToFloat (m : Nat) (e : Int) : Float :=
  let places : Int := (Nat.toDigits 10 m).length
  if m = 0 then 0
  else if e + places > 311 then Float.ofScientific 1 false 400
  else if e + places < -326 then 0
  else if e ≥ 0 then Float.ofScientific m false e.toNat
  else Float.ofScientific m true (-e).toNat

/-- Whether text is a spelling, in any case, of a word. -/
def spells (cs : List Char) (word : String) : Bool :=
  cs.length = word.length &&
    (cs.zip word.toList).all fun (c, w) => c.toLower = w

/-- Reads a floating-point number. -/
def readFloat (s : String) : Except Failure Float :=
  let bad : Except Failure Float := .error (.notAFloat s)
  let cs := ((numberChars s.toList).dropWhile isAsciiSpace).reverse.dropWhile isAsciiSpace |>.reverse
  let (negative, cs) := match cs with
    | '-' :: rest => (true, rest)
    | '+' :: rest => (false, rest)
    | _ => (false, cs)
  let signed := fun (x : Float) => Except.ok (if negative then -x else x)
  if spells cs "inf" || spells cs "infinity" then signed (Float.ofScientific 1 false 400)
  else if spells cs "nan" then .ok (0.0 / 0.0)
  else
    let isDigit := fun (c : Char) => '0' ≤ c && c ≤ '9'
    let whole := cs.takeWhile isDigit
    let cs := cs.dropWhile isDigit
    let (fraction, cs) := match cs with
      | '.' :: rest => (rest.takeWhile isDigit, rest.dropWhile isDigit)
      | _ => ([], cs)
    if whole.isEmpty && fraction.isEmpty then bad
    else
      let exponent : Option Int := match cs with
        | [] => some 0
        | c :: rest =>
          if c = 'e' || c = 'E' then
            let (neg, ds) := match rest with
              | '-' :: ds => (true, ds)
              | '+' :: ds => (false, ds)
              | ds => (false, ds)
            if !ds.isEmpty && ds.all isDigit then
              let n : Int := digitsValue 10 ds
              some (if neg then -n else n)
            else none
          else none
      match exponent with
      | none => bad
      | some e => signed (decimalToFloat (digitsValue 10 (whole ++ fraction)) (e - fraction.length))

end Citations.Yaml
