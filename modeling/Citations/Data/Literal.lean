import Citations.Unicode.Properties
import Citations.Data.Value
import Citations.Decimal.Shortest

/-! # Values written as literals

Messages about wrong data quote the data as literals of the record language: text in quotes,
numbers in their shortest form, `None`, `True` and `False`, lists in brackets and mappings in
braces.

* `quoteText`: text between single quotes, or between double quotes when it holds a single
  quote and no double quote; the chosen quote and the backslash are escaped, and so is every
  character that is not printable.
* `floatText`: the shortest decimal, written positionally when the leading digit's exponent is
  from -4 to 15, with `.0` after an integral value, and otherwise as `1e+16` or `1.5e-07`.
* `Value.literal` writes a value; `Value.text` writes text as it is and any other value as its
  literal.
-/

namespace Citations

open Citations.Unicode Citations.Decimal

/-- Lower-case hexadecimal digits of `n`, padded with zeros to `width`. -/
def hexPadded (width n : Nat) : String :=
  let ds := Nat.toDigits 16 n
  String.ofList (List.replicate (width - ds.length) '0' ++ ds)

/-- The escape of one character inside a quoted literal using quote `q`. -/
def escapeChar (q : Char) (c : Char) : String :=
  if c = q ∨ c = '\\' then String.ofList ['\\', c]
  else if c = '\t' then "\\t"
  else if c = '\n' then "\\n"
  else if c = '\r' then "\\r"
  else if c.toNat < 0x20 ∨ c.toNat = 0x7f then "\\x" ++ hexPadded 2 c.toNat
  else if c.toNat < 0x7f then c.toString
  else if isPrintable c then c.toString
  else if c.toNat ≤ 0xff then "\\x" ++ hexPadded 2 c.toNat
  else if c.toNat ≤ 0xffff then "\\u" ++ hexPadded 4 c.toNat
  else "\\U" ++ hexPadded 8 c.toNat

/-- Text as a quoted literal. -/
def quoteText (s : String) : String :=
  let q := if s.toList.contains '\'' && !s.toList.contains '"' then '"' else '\''
  q.toString ++ String.join (s.toList.map (escapeChar q)) ++ q.toString

/-- The digits of a decimal laid out with the point: positional when the leading digit's
exponent `e` is from -4 to 15, scientific otherwise. -/
def layoutDecimal (d : Dec) : String :=
  let ds := (Nat.toDigits 10 d.digits)
  let n : Int := ds.length
  let e : Int := n + d.exp - 1
  if e < -4 ∨ 16 ≤ e then
    let mant := match ds with
      | [] => "0"
      | [c] => c.toString
      | c :: rest => String.ofList (c :: '.' :: rest)
    let sign := if e < 0 then "-" else "+"
    let ed := Nat.toDigits 10 e.natAbs
    mant ++ "e" ++ sign ++ String.ofList (List.replicate (2 - ed.length) '0' ++ ed)
  else
    let point := e + 1
    if point ≤ 0 then
      "0." ++ String.ofList (List.replicate (-point).toNat '0' ++ ds)
    else if n ≤ point then
      String.ofList (ds ++ List.replicate (point - n).toNat '0') ++ ".0"
    else
      String.ofList (ds.take point.toNat) ++ "." ++ String.ofList (ds.drop point.toNat)

/-- A floating-point number as a literal: `nan`, `inf`, `-inf`, a signed zero `0.0` or `-0.0`,
or its shortest decimal. -/
def floatText (x : Float) : String :=
  let bits := x.toBits
  let negative := bits >>> 63 == 1
  let sign := if negative then "-" else ""
  if x.isNaN then "nan"
  else if x.isInf then sign ++ "inf"
  else
    let b := Binary.ofBits bits
    if b.m = 0 then sign ++ "0.0" else sign ++ layoutDecimal b.shortest

/-- An integer as a literal. -/
def intText (n : Int) : String :=
  if n < 0 then "-" ++ String.ofList (Nat.toDigits 10 n.natAbs) else String.ofList (Nat.toDigits 10 n.toNat)

namespace Value

mutual

/-- A value as a literal. -/
def literal : Value → String
  | .null => "None"
  | .bool b => if b then "True" else "False"
  | .int n => intText n
  | .float x => floatText x
  | .str s => quoteText s
  | .list xs => "[" ++ ", ".intercalate (literalList xs) ++ "]"
  | .dict es => "\x7b" ++ ", ".intercalate (literalEntries es) ++ "\x7d"

/-- The literals of the items of a list. -/
def literalList : List Value → List String
  | [] => []
  | v :: rest => literal v :: literalList rest

/-- The literals of the entries of a mapping, `key: value`. -/
def literalEntries : List (String × Value) → List String
  | [] => []
  | (k, v) :: rest => (quoteText k ++ ": " ++ literal v) :: literalEntries rest

end

/-- A value as text: text as it is, any other value as its literal. -/
def text : Value → String
  | .str s => s
  | v => v.literal

end Value

end Citations
