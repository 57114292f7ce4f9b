import Citations.Data.Value
import Citations.Data.Literal

/-! # JSON text

Reading and writing `Value`s as JSON.

Reading accepts the JSON grammar with three extra words for floating-point numbers that JSON
cannot spell (`NaN`, `Infinity`, `-Infinity`). A number with neither fraction nor exponent is an
integer of any size; any other number is the double nearest to it. A mapping keeps the order in
which keys first appear, and a repeated key takes the last value given (`Value.entriesOf`).
Control characters must be escaped inside strings. Nothing but blanks may follow the value.

Writing escapes the quote, the backslash and the control characters, and writes all other
characters as they are; with an indent, every item of a nonempty list or mapping goes on a line
of its own.
-/

namespace Citations.Json

/-- Skips JSON blanks: space, tab, line feed and carriage return. -/
def skipBlanks (cs : List Char) : List Char :=
  cs.dropWhile (fun c => c = ' ' ∨ c = '\t' ∨ c = '\n' ∨ c = '\r')

/-- Whether a character is an ASCII digit. -/
def isDigit (c : Char) : Bool := '0' ≤ c && c ≤ '9'

/-- The natural number written by ASCII digits. -/
def digitsValue (ds : List Char) : Nat :=
  ds.foldl (fun acc d => acc * 10 + (d.toNat - '0'.toNat)) 0

/-- The number written by four hexadecimal digits. -/
def hex4 (a b c d : Char) : Option Nat :=
  match Unicode.hexValue? a, Unicode.hexValue? b, Unicode.hexValue? c, Unicode.hexValue? d with
  | some w, some x, some y, some z => some (((w * 16 + x) * 16 + y) * 16 + z)
  | _, _, _, _ => none

/-- A code point from an escape; a surrogate that stands alone reads as U+FFFD. -/
def charOfCode (n : Nat) : Char :=
  if 0xD800 ≤ n ∧ n ≤ 0xDFFF then '\uFFFD' else Char.ofNat n

/-- The character of a surrogate pair. -/
def pairChar (hi lo : Nat) : Char :=
  Char.ofNat (0x10000 + (hi - 0xD800) * 0x400 + (lo - 0xDC00))

/-- The body of a string after its opening quote, up to and without the closing quote.
`acc` holds what was read, reversed. -/
def readStringBody (acc : List Char) : List Char → Except String (String × List Char)
  | [] => .error "unterminated string"
  | '"' :: rest => .ok (String.ofList acc.reverse, rest)
  | '\\' :: 'u' :: a :: b :: c :: d :: rest =>
    match hex4 a b c d with
    | none => .error "invalid escape"
    | some hi =>
      if 0xD800 ≤ hi ∧ hi ≤ 0xDBFF then
        match _h : rest with
        | '\\' :: 'u' :: a' :: b' :: c' :: d' :: more =>
          match hex4 a' b' c' d' with
          | some lo =>
            if 0xDC00 ≤ lo ∧ lo ≤ 0xDFFF then readStringBody (pairChar hi lo :: acc) more
            else readStringBody (charOfCode hi :: acc) rest
          | none => readStringBody (charOfCode hi :: acc) rest
        | _ => readStringBody (charOfCode hi :: acc) rest
      else readStringBody (charOfCode hi :: acc) rest
  | '\\' :: e :: rest =>
    match e with
    | '"' => readStringBody ('"' :: acc) rest
    | '\\' => readStringBody ('\\' :: acc) rest
    | '/' => readStringBody ('/' :: acc) rest
    | 'b' => readStringBody ('\x08' :: acc) rest
    | 'f' => readStringBody ('\x0c' :: acc) rest
    | 'n' => readStringBody ('\n' :: acc) rest
    | 'r' => readStringBody ('\r' :: acc) rest
    | 't' => readStringBody ('\t' :: acc) rest
    | _ => .error "invalid escape"
  | c :: rest =>
    if c.toNat < 0x20 then .error "invalid control character"
    else readStringBody (c :: acc) rest
termination_by cs => cs.length
decreasing_by all_goals (simp_all; try omega)

/-- A number, from its optional minus sign on. -/
def readNumber (cs : List Char) : Except String (Value × List Char) :=
  let (neg, cs1) := match cs with
    | '-' :: rest => (true, rest)
    | _ => (false, cs)
  let intDigits := cs1.takeWhile isDigit
  let afterInt := cs1.dropWhile isDigit
  match intDigits with
  | [] => .error "expecting value"
  | first :: more =>
    -- a leading zero ends the integer part
    let (intDigits, afterInt) :=
      if first = '0' then (['0'], more ++ afterInt) else (intDigits, afterInt)
    let (fracDigits, afterFrac) := match afterInt with
      | '.' :: rest =>
        let ds := rest.takeWhile isDigit
        if ds.isEmpty then ([], afterInt) else (ds, rest.dropWhile isDigit)
      | _ => ([], afterInt)
    let (expPart, afterExp) : Option (Bool × List Char) × List Char :=
      match afterFrac with
      | e :: rest =>
        if e = 'e' ∨ e = 'E' then
          let (eneg, rest') := match rest with
            | '-' :: r => (true, r)
            | '+' :: r => (false, r)
            | r => (false, r)
          let ds := rest'.takeWhile isDigit
          if ds.isEmpty then (none, afterFrac) else (some (eneg, ds), rest'.dropWhile isDigit)
        else (none, afterFrac)
      | [] => (none, afterFrac)
    if fracDigits.isEmpty && expPart.isNone then
      let n : Int := digitsValue intDigits
      .ok (.int (if neg then -n else n), afterExp)
    else
      let mant := digitsValue (intDigits ++ fracDigits)
      let e10 : Int := match expPart with
        | some (eneg, ds) => if eneg then -(digitsValue ds : Int) else digitsValue ds
        | none => 0
      let scale := e10 - fracDigits.length
      let x := if scale < 0 then Float.ofScientific mant true (-scale).toNat
        else Float.ofScientific mant false scale.toNat
      .ok (.float (if neg then -x else x), afterExp)

mutual

/-- A value, after blanks. `fuel` bounds the depth and length of what is read. -/
def readValue : Nat → List Char → Except String (Value × List Char)
  | 0, _ => .error "too deep"
  | fuel + 1, cs =>
    match skipBlanks cs with
    | '{' :: rest => readObject fuel rest
    | '[' :: rest => readArray fuel rest
    | '"' :: rest => do
      let (s, rest') ← readStringBody [] rest
      pure (.str s, rest')
    | 'n' :: 'u' :: 'l' :: 'l' :: rest => .ok (.null, rest)
    | 't' :: 'r' :: 'u' :: 'e' :: rest => .ok (.bool true, rest)
    | 'f' :: 'a' :: 'l' :: 's' :: 'e' :: rest => .ok (.bool false, rest)
    | 'N' :: 'a' :: 'N' :: rest => .ok (.float (0.0 / 0.0), rest)
    | 'I' :: 'n' :: 'f' :: 'i' :: 'n' :: 'i' :: 't' :: 'y' :: rest => .ok (.float (1.0 / 0.0), rest)
    | '-' :: 'I' :: 'n' :: 'f' :: 'i' :: 'n' :: 'i' :: 't' :: 'y' :: rest =>
      .ok (.float (-1.0 / 0.0), rest)
    | cs' => readNumber cs'

/-- The items of a list after its opening bracket. -/
def readArray : Nat → List Char → Except String (Value × List Char)
  | 0, _ => .error "too deep"
  | fuel + 1, cs =>
    match skipBlanks cs with
    | ']' :: rest => .ok (.list [], rest)
    | _ => do
      let (items, rest) ← readItems fuel [] cs
      pure (.list items, rest)

/-- Items separated by commas up to the closing bracket; `acc` holds them reversed. -/
def readItems : Nat → List Value → List Char → Except String (List Value × List Char)
  | 0, _, _ => .error "too deep"
  | fuel + 1, acc, cs => do
    let (v, rest) ← readValue fuel cs
    match skipBlanks rest with
    | ',' :: more => readItems fuel (v :: acc) more
    | ']' :: more => pure ((v :: acc).reverse, more)
    | _ => .error "expecting , or ]"

/-- The entries of a mapping after its opening brace. -/
def readObject : Nat → List Char → Except String (Value × List Char)
  | 0, _ => .error "too deep"
  | fuel + 1, cs =>
    match skipBlanks cs with
    | '}' :: rest => .ok (.dict [], rest)
    | _ => do
      let (pairs, rest) ← readEntries fuel [] cs
      pure (.dict (Value.entriesOf pairs), rest)

/-- Entries `"key": value` separated by commas up to the closing brace; `acc` holds them
reversed. -/
def readEntries : Nat → List (String × Value) → List Char → Except String (List (String × Value) × List Char)
  | 0, _, _ => .error "too deep"
  | fuel + 1, acc, cs =>
    match skipBlanks cs with
    | '"' :: rest => do
      let (k, rest1) ← readStringBody [] rest
      match skipBlanks rest1 with
      | ':' :: rest2 => do
        let (v, rest3) ← readValue fuel rest2
        match skipBlanks rest3 with
        | ',' :: more => readEntries fuel ((k, v) :: acc) more
        | '}' :: more => pure (((k, v) :: acc).reverse, more)
        | _ => .error "expecting , or \x7d"
      | _ => .error "expecting :"
    | _ => .error "expecting property name"

end

/-- Reads a whole JSON text: one value, with nothing but blanks after it. -/
def parse (s : String) : Except String Value := do
  let cs := s.toList
  let (v, rest) ← readValue (2 * cs.length + 2) cs
  if (skipBlanks rest).isEmpty then pure v else .error "extra data"

/-- The escape of one character inside a JSON string. -/
def escapeChar (c : Char) : String :=
  if c = '"' then "\\\""
  else if c = '\\' then "\\\\"
  else if c = '\n' then "\\n"
  else if c = '\r' then "\\r"
  else if c = '\t' then "\\t"
  else if c = '\x08' then "\\b"
  else if c = '\x0c' then "\\f"
  else if c.toNat < 0x20 then "\\u" ++ hexPadded 4 c.toNat
  else c.toString

/-- A string as a JSON string. -/
def quote (s : String) : String :=
  "\"" ++ String.join (s.toList.map escapeChar) ++ "\""

/-- A floating-point number in JSON: its shortest decimal, or one of the three words. -/
def floatJson (x : Float) : String :=
  if x.isNaN then "NaN"
  else if x.isInf then (if x < 0 then "-Infinity" else "Infinity")
  else floatText x

mutual

/-- A value as JSON. With `some n`, items go on lines of their own, indented by `n` spaces a
level, `depth` levels deep. -/
def write (indent : Option Nat) (depth : Nat) : Value → String
  | .null => "null"
  | .bool b => if b then "true" else "false"
  | .int n => intText n
  | .float x => floatJson x
  | .str s => quote s
  | .list [] => "[]"
  | .list xs => "[" ++ joinItems indent (depth + 1) (writeList indent (depth + 1) xs) ++
      closeAt indent depth ++ "]"
  | .dict [] => "\x7b\x7d"
  | .dict es => "\x7b" ++ joinItems indent (depth + 1) (writeEntries indent (depth + 1) es) ++
      closeAt indent depth ++ "\x7d"

/-- The items of a list as JSON. -/
def writeList (indent : Option Nat) (depth : Nat) : List Value → List String
  | [] => []
  | v :: rest => write indent depth v :: writeList indent depth rest

/-- The entries of a mapping as JSON. -/
def writeEntries (indent : Option Nat) (depth : Nat) : List (String × Value) → List String
  | [] => []
  | (k, v) :: rest => (quote k ++ ": " ++ write indent depth v) :: writeEntries indent depth rest

/-- Items joined for a container's body at `depth`. -/
def joinItems (indent : Option Nat) (depth : Nat) (items : List String) : String :=
  match indent with
  | none => ", ".intercalate items
  | some n =>
    let pad := "\n" ++ String.ofList (List.replicate (n * depth) ' ')
    pad ++ ("," ++ pad).intercalate items

/-- What goes before a closing bracket at `depth`. -/
def closeAt (indent : Option Nat) (depth : Nat) : String :=
  match indent with
  | none => ""
  | some n => "\n" ++ String.ofList (List.replicate (n * depth) ' ')

end

end Citations.Json
