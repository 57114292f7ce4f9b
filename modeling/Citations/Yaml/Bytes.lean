import Citations.Data.Literal

/-! # Binary data: base64 text and ASCII

Binary data is written in base64. Reading it keeps the characters of the alphabet
(`A-Z a-z 0-9 + /`) and skips every other character. Each four characters give three bytes.
Padding `=` ends the data once two or three characters of a group are read and the group is
full with it; a group left open at the end is a fault: one character alone cannot be data,
two or three need their padding.

Base64 text must be ASCII first; the first run of other characters is a fault.
-/

namespace Citations.Yaml

/-- The value of a base64 character, or none for a character outside the alphabet. -/
def base64Value (c : Char) : Option Nat :=
  if 'A' ≤ c && c ≤ 'Z' then some (c.toNat - 'A'.toNat)
  else if 'a' ≤ c && c ≤ 'z' then some (c.toNat - 'a'.toNat + 26)
  else if '0' ≤ c && c ≤ '9' then some (c.toNat - '0'.toNat + 52)
  else if c = '+' then some 62
  else if c = '/' then some 63
  else none

/-- The state of decoding base64: the bytes so far, how many characters of the current group
are read, the bits left over from them, and the padding seen after them. -/
structure Base64State where
  out : Array Nat := #[]
  place : Nat := 0
  left : Nat := 0
  pads : Nat := 0

/-- Takes one data character's value into the state. -/
def Base64State.take (s : Base64State) (v : Nat) : Base64State :=
  match s.place with
  | 0 => { s with place := 1, left := v, pads := 0 }
  | 1 => { s with place := 2, out := s.out.push ((s.left * 4 + v / 16) % 256), left := v % 16, pads := 0 }
  | 2 => { s with place := 3, out := s.out.push ((s.left * 16 + v / 4) % 256), left := v % 4, pads := 0 }
  | _ => { s with place := 0, out := s.out.push ((s.left * 64 + v) % 256), left := 0, pads := 0 }

/-- Decodes base64 characters; padding that fills a group ends the data. -/
def base64Run : List Char → Base64State → Base64State × Bool
  | [], s => (s, false)
  | c :: rest, s =>
    if c = '=' then
      let pads := s.pads + 1
      if s.place ≥ 2 && s.place + pads ≥ 4 then (s, true)
      else base64Run rest { s with pads }
    else
      match base64Value c with
      | some v => base64Run rest (s.take v)
      | none => base64Run rest s

/-- The bytes of base64 text, or the fault in it. -/
def decodeBase64 (cs : List Char) : Except String (List Nat) :=
  let (s, ended) := base64Run cs {}
  if ended || s.place = 0 then .ok s.out.toList
  else if s.place = 1 then
    .error ("Invalid base64-encoded string: number of data characters (" ++
      intText (s.out.size / 3 * 4 + 1) ++ ") cannot be 1 more than a multiple of 4")
  else .error "Incorrect padding"

/-- A character as encoding faults show it: `\xhh`, `\uhhhh` or `\Uhhhhhhhh`. -/
def codeEscape (c : Char) : String :=
  let n := c.toNat
  if n < 0x100 then "\\x" ++ hexPadded 2 n
  else if n < 0x10000 then "\\u" ++ hexPadded 4 n
  else "\\U" ++ hexPadded 8 n

/-- The fault of encoding text as ASCII, at its first run of other characters. -/
def asciiFault (s : String) : Option String :=
  let cs := s.toList
  let start := cs.takeWhile (·.toNat < 128) |>.length
  let run := (cs.drop start).takeWhile (·.toNat ≥ 128)
  match run with
  | [] => none
  | [c] =>
    some ("'ascii' codec can't encode character '" ++ codeEscape c ++ "' in position " ++
      intText start ++ ": ordinal not in range(128)")
  | _ =>
    some ("'ascii' codec can't encode characters in position " ++ intText start ++ "-" ++
      intText (start + run.length - 1) ++ ": ordinal not in range(128)")

/-- Bytes as a literal: `b'...'`, in double quotes when they hold a single quote and no double
quote; the quote, the backslash, tab, line feed and carriage return are escaped, and bytes
outside printable ASCII are written `\xhh`. -/
def bytesLiteral (bs : List Nat) : String :=
  let q := if bs.contains 39 && !bs.contains 34 then '"' else '\''
  let body := bs.foldl (fun acc b =>
    let piece :=
      if b = q.toNat || b = 92 then "\\" ++ (Char.ofNat b).toString
      else if b = 9 then "\\t"
      else if b = 10 then "\\n"
      else if b = 13 then "\\r"
      else if b < 32 || b ≥ 127 then "\\x" ++ hexPadded 2 b
      else (Char.ofNat b).toString
    acc ++ piece) ""
  "b" ++ q.toString ++ body ++ q.toString

end Citations.Yaml
