import Citations.Yaml.Failure

/-! # Reading a YAML stream character by character

A stream is read through a `Cursor`: the characters, the position of the next one, and the line
and column of that position. Past the last character the stream reads as `NUL`, which no stream
may hold, so it marks the end.

Lines are counted as YAML counts them: a line feed, `U+0085`, `U+2028` and `U+2029` end a line,
and so does a carriage return not followed by a line feed. The byte order mark takes no column.

A stream may hold tab, line feed, carriage return, the printable ASCII characters, `U+0085`, and
the characters from `U+00A0` up, except surrogates and `U+FFFE`, `U+FFFF`; `firstUnprintable`
finds the first other one.

A file read as text has its line ends as line feeds (`textOfFile`): a carriage return and line
feed, or a carriage return alone, become one line feed.
-/

namespace Citations.Yaml

/-- A character that a stream may hold. -/
def isStreamChar (c : Char) : Bool :=
  let n := c.toNat
  n = 0x09 || n = 0x0A || n = 0x0D || (0x20 ≤ n && n ≤ 0x7E) || n = 0x85 ||
    (0xA0 ≤ n && n ≤ 0xD7FF) || (0xE000 ≤ n && n ≤ 0xFFFD) || (0x10000 ≤ n && n ≤ 0x10FFFF)

/-- The first character that a stream may not hold, with its position. -/
def firstUnprintable (cs : List Char) : Option (Nat × Char) :=
  (cs.zipIdx.find? (fun (c, _) => !isStreamChar c)).map (fun (c, i) => (i, c))

/-- Text with each carriage return and line feed, and each carriage return alone, read as one
line feed. -/
def universalNewlines : List Char → List Char
  | '\r' :: '\n' :: rest => '\n' :: universalNewlines rest
  | '\r' :: rest => '\n' :: universalNewlines rest
  | c :: rest => c :: universalNewlines rest
  | [] => []

/-- The text of a file read as text. -/
def textOfFile (s : String) : String := String.ofList (universalNewlines s.toList)

/-- Characters that end a line. -/
def isBreakChar (c : Char) : Bool :=
  c = '\r' || c = '\n' || c = '\x85' || c = '\u2028' || c = '\u2029'

/-- The end of the stream or a character that ends a line. -/
def isBreakOrEnd (c : Char) : Bool := c = '\x00' || isBreakChar c

/-- The end of the stream, a blank, or a character that ends a line. -/
def isBlankOrEnd (c : Char) : Bool := c = ' ' || c = '\t' || isBreakOrEnd c

/-- An ASCII letter, digit, `-` or `_`: the characters of names. -/
def isNameChar (c : Char) : Bool :=
  ('0' ≤ c && c ≤ '9') || ('A' ≤ c && c ≤ 'Z') || ('a' ≤ c && c ≤ 'z') || c = '-' || c = '_'

/-- A hexadecimal digit. -/
def isHexChar (c : Char) : Bool :=
  ('0' ≤ c && c ≤ '9') || ('A' ≤ c && c ≤ 'F') || ('a' ≤ c && c ≤ 'f')

/-- A stream and the place of its next character. -/
structure Cursor where
  chars : Array Char
  pos : Nat := 0
  line : Nat := 0
  column : Nat := 0

namespace Cursor

/-- The character `k` places ahead; the end reads as `NUL`. -/
def peek (c : Cursor) (k : Nat := 0) : Char := c.chars.getD (c.pos + k) '\x00'

/-- The next `n` characters, fewer at the end. -/
def take (c : Cursor) (n : Nat) : String :=
  String.ofList ((c.chars.extract c.pos (c.pos + n)).toList)

/-- The next three characters are a document marker, `---` or `...`, standing alone. -/
def atDocumentMarker (c : Cursor) : Bool :=
  (c.take 3 == "---" || c.take 3 == "...") && isBlankOrEnd (c.peek 3)

/-- The mark of the next character. -/
def mark (c : Cursor) : Mark := { index := c.pos, line := c.line, column := c.column }

/-- Moves past one character, counting lines and columns. -/
def step (c : Cursor) : Cursor :=
  let ch := c.peek
  let next := { c with pos := c.pos + 1 }
  if ch = '\n' || ch = '\x85' || ch = '\u2028' || ch = '\u2029' ||
      (ch = '\r' && c.peek 1 != '\n') then
    { next with line := c.line + 1, column := 0 }
  else if ch = '\uFEFF' then next
  else { next with column := c.column + 1 }

/-- Moves past `n` characters. -/
def forward (c : Cursor) : Nat → Cursor
  | 0 => c
  | n + 1 => (c.step).forward n

/-- How many characters from `k` places ahead on satisfy `p`, one after another. -/
def runLength (p : Char → Bool) (c : Cursor) (k : Nat := 0) : Nat :=
  go (c.chars.size + 1) k 0
where
  /-- `n` characters counted so far; `fuel` bounds the characters left. -/
  go : Nat → Nat → Nat → Nat
    | 0, _, n => n
    | fuel + 1, k, n => if p (c.peek k) then go fuel (k + 1) (n + 1) else n

/-- Moves past the characters that satisfy `p`. -/
def skipWhile (p : Char → Bool) (c : Cursor) : Cursor := c.forward (c.runLength p)

/-- Reads a line break: a carriage return and line feed, a carriage return, a line feed or
`U+0085` read as a line feed; `U+2028` and `U+2029` read as themselves; anything else is no
break and is left. -/
def lineBreak (c : Cursor) : String × Cursor :=
  let ch := c.peek
  if ch = '\r' || ch = '\n' || ch = '\x85' then
    if ch = '\r' && c.peek 1 = '\n' then ("\n", c.forward 2) else ("\n", c.forward 1)
  else if ch = '\u2028' || ch = '\u2029' then (ch.toString, c.forward 1)
  else ("", c)

end Cursor

end Citations.Yaml
