import Citations.Yaml.Token

/-! # Reading scalars

The three ways of writing a scalar, each read from its first character to the place after it.

* Plain scalars run to `: `, ` #`, the end of a line, and in a flow collection to `,?[]{}`; a
  plain scalar goes on over line breaks while the next line is indented more than the
  collection around it. A single line break between two lines reads as a space, more breaks
  read as one line feed less than there are.
* Quoted scalars run to the closing quote. Inside single quotes `''` is a quote; inside double
  quotes a backslash starts an escape: one of the letters of `escapeReplacement`, `x`, `u` or
  `U` with two, four or eight hexadecimal digits, or a line break that is dropped with the
  blanks after it. Line breaks fold as in plain scalars, and blanks around them are dropped.
* Block scalars (`|` literal, `>` folded) take the lines indented at least as much as their
  first line, or as the indicator digit says. Folding joins two lines of text that start with
  no blank by a space; chomping keeps the final line break (the default), drops it (`-`), or
  keeps it with the empty lines after it (`+`).
-/

namespace Citations.Yaml

/-- A character as problems quote it. -/
def charRepr (c : Char) : String := quoteText c.toString

/-- The character of a code point; a surrogate, which text cannot hold, reads as the
replacement character. -/
def charOfCode (n : Nat) : Char :=
  if 0xD800 ≤ n && n ≤ 0xDFFF then '\uFFFD' else Char.ofNat n

/-- The value of a hexadecimal digit. -/
def hexDigitValue (c : Char) : Nat :=
  if '0' ≤ c && c ≤ '9' then c.toNat - '0'.toNat
  else if 'a' ≤ c && c ≤ 'f' then c.toNat - 'a'.toNat + 10
  else if 'A' ≤ c && c ≤ 'F' then c.toNat - 'A'.toNat + 10
  else 0

/-- The number written by hexadecimal digits. -/
def hexValue (s : String) : Nat := s.toList.foldl (fun n c => 16 * n + hexDigitValue c) 0

/-- The character an escape letter of a double-quoted scalar stands for. -/
def escapeReplacement : Char → Option Char
  | '0' => some '\x00'
  | 'a' => some '\x07'
  | 'b' => some '\x08'
  | 't' => some '\t'
  | '\t' => some '\t'
  | 'n' => some '\n'
  | 'v' => some '\x0b'
  | 'f' => some '\x0c'
  | 'r' => some '\r'
  | 'e' => some '\x1b'
  | ' ' => some ' '
  | '"' => some '"'
  | '\\' => some '\\'
  | '/' => some '/'
  | 'N' => some '\x85'
  | '_' => some '\xa0'
  | 'L' => some '\u2028'
  | 'P' => some '\u2029'
  | _ => none

/-- The number of hexadecimal digits after an escape letter that gives a code point. -/
def escapeLength : Char → Option Nat
  | 'x' => some 2
  | 'u' => some 4
  | 'U' => some 8
  | _ => none

/-- A blank: a space or a tab. -/
def isBlank (c : Char) : Bool := c = ' ' || c = '\t'

namespace Cursor

/-- A bound on the steps of a loop that reads at least one character a step. -/
def steps (c : Cursor) : Nat := c.chars.size + 2

/-! ## Quoted scalars -/

/-- A problem inside a quoted scalar that started at `start`. -/
def quotedProblem (double : Bool) (start : Mark) (problem : String) (m : Mark) : Failure :=
  scanProblem (some (if double then "while scanning a double-quoted scalar"
    else "while scanning a quoted scalar")) (some start) problem m

/-- Reads the line breaks inside a quoted scalar, with the blanks that start each line; a
document separator there is a problem. -/
def quotedBreaks (start : Mark) : Nat → Cursor → String → Except Failure (String × Cursor)
  | 0, c, acc => .ok (acc, c)
  | fuel + 1, c, acc =>
    if c.atDocumentMarker then
      .error (quotedProblem false start "found unexpected document separator" c.mark)
    else
      let c := c.skipWhile isBlank
      if isBreakChar c.peek then
        let (br, c) := c.lineBreak
        quotedBreaks start fuel c (acc ++ br)
      else .ok (acc, c)

/-- Reads the blanks inside a quoted scalar: blanks within a line stay, blanks around line
breaks go and the breaks fold. -/
def quotedSpaces (start : Mark) (c : Cursor) : Except Failure (String × Cursor) :=
  let n := c.runLength isBlank
  let blanks := c.take n
  let c := c.forward n
  let ch := c.peek
  if ch = '\x00' then .error (quotedProblem false start "found unexpected end of stream" c.mark)
  else if isBreakChar ch then
    let (br, c) := c.lineBreak
    match quotedBreaks start c.steps c "" with
    | .error e => .error e
    | .ok (breaks, c) =>
      .ok ((if br != "\n" then br else if breaks.isEmpty then " " else "") ++ breaks, c)
  else .ok (blanks, c)

/-- An escape `\uXXXX` or `\UXXXXXXXX` of a low surrogate next, with the place after it: the
second half of a character written as a surrogate pair. -/
def lowSurrogateEscape (c : Cursor) : Option (Nat × Cursor) :=
  if c.peek = '\\' then
    match escapeLength (c.peek 1) with
    | some len =>
      let digits := (c.forward 2).take len
      if len ≥ 4 && digits.length = len && digits.toList.all isHexChar then
        let code := hexValue digits
        if 0xDC00 ≤ code && code ≤ 0xDFFF then some (code, c.forward (2 + len)) else none
      else none
    | none => none
  else none

/-- Reads one escape of a double-quoted scalar, the cursor after its backslash. A high
surrogate escaped right before a low one gives the character of the pair. -/
def escape (start : Mark) (c : Cursor) : Except Failure (String × Cursor) :=
  let ch := c.peek
  match escapeReplacement ch with
  | some r => .ok (r.toString, c.forward 1)
  | none =>
    match escapeLength ch with
    | some len =>
      let c := c.forward 1
      match (List.range len).find? (fun k => !isHexChar (c.peek k)) with
      | some k =>
        .error (quotedProblem true start ("expected escape sequence of " ++ intText len ++
          " hexadecimal numbers, but found " ++ charRepr (c.peek k)) c.mark)
      | none =>
        let code := hexValue (c.take len)
        let c := c.forward len
        if code > 0x7FFFFFFF then .error .codeTooLarge
        else if code > 0x10FFFF then .error .noSuchCharacter
        else match lowSurrogateEscape c with
          | some (low, after) =>
            if 0xD800 ≤ code && code ≤ 0xDBFF then
              .ok ((Char.ofNat (0x10000 + (code - 0xD800) * 0x400 + (low - 0xDC00))).toString, after)
            else .ok ((charOfCode code).toString, c)
          | none => .ok ((charOfCode code).toString, c)
    | none =>
      if isBreakChar ch then
        let (_, c) := c.lineBreak
        quotedBreaks start c.steps c ""
      else .error (quotedProblem true start ("found unknown escape character " ++ charRepr ch) c.mark)

/-- Reads the next piece of a quoted scalar that is no run of plain characters: a quote
written twice, a quote of the other kind, a backslash in single quotes, or an escape. None
when the scalar's text stops here. -/
def quotedPiece (double : Bool) (start : Mark) (c : Cursor) :
    Except Failure (Option (String × Cursor)) :=
  let ch := c.peek
  if !double && ch = '\'' && c.peek 1 = '\'' then .ok (some ("'", c.forward 2))
  else if (double && ch = '\'') || (!double && (ch = '"' || ch = '\\')) then
    .ok (some (ch.toString, c.forward 1))
  else if double && ch = '\\' then
    match escape start (c.forward 1) with
    | .ok r => .ok (some r)
    | .error e => .error e
  else .ok none

/-- Reads the text of a quoted scalar up to its next blank, line break or closing quote. -/
def quotedText (double : Bool) (start : Mark) : Nat → Cursor → String →
    Except Failure (String × Cursor)
  | 0, c, acc => .ok (acc, c)
  | fuel + 1, c, acc =>
    let n := c.runLength fun ch => !(ch = '\'' || ch = '"' || ch = '\\' || isBlankOrEnd ch)
    let acc := acc ++ c.take n
    let c := c.forward n
    match quotedPiece double start c with
    | .error e => .error e
    | .ok none => .ok (acc, c)
    | .ok (some (piece, c)) => quotedText double start fuel c (acc ++ piece)

/-- Reads the body of a quoted scalar up to its closing quote. -/
def quotedBody (double : Bool) (quote : Char) (start : Mark) : Nat → Cursor → String →
    Except Failure (String × Cursor)
  | 0, c, acc => .ok (acc, c)
  | fuel + 1, c, acc =>
    if c.peek = quote then .ok (acc, c)
    else
      match quotedSpaces start c with
      | .error e => .error e
      | .ok (blanks, c) =>
        match quotedText double start c.steps c "" with
        | .error e => .error e
        | .ok (text, c) => quotedBody double quote start fuel c (acc ++ blanks ++ text)

/-- Reads a quoted scalar, the cursor at its opening quote. -/
def quotedScalar (c : Cursor) : Except Failure (Token × Cursor) :=
  let start := c.mark
  let quote := c.peek
  let double := quote = '"'
  let c := c.forward 1
  match quotedText double start c.steps c "" with
  | .error e => .error e
  | .ok (first, c) =>
    match quotedBody double quote start c.steps c first with
    | .error e => .error e
    | .ok (text, c) =>
      let c := c.forward 1
      .ok ({ kind := .scalar text false (some quote), start, stop := c.mark }, c)

/-! ## Plain scalars -/

/-- The length of the next run of a plain scalar's text. -/
def plainLength (flow : Bool) (c : Cursor) : Nat :=
  go (c.chars.size + 1) 0
where
  /-- The run is `k` characters long so far. -/
  go : Nat → Nat → Nat
    | 0, k => k
    | fuel + 1, k =>
      let ch := c.peek k
      let after := c.peek (k + 1)
      if isBlankOrEnd ch || (ch = ':' && (isBlankOrEnd after || (flow && ",[]\x7b\x7d".contains after))) ||
          (flow && ",?[]\x7b\x7d".contains ch) then k
      else go fuel (k + 1)

/-- Reads the blank lines after a line break in a plain scalar; none at a document
separator. -/
def plainBreaks : Nat → Cursor → String → Option String × Cursor
  | 0, c, acc => (some acc, c)
  | fuel + 1, c, acc =>
    if c.peek = ' ' then plainBreaks fuel (c.forward 1) acc
    else if isBreakChar c.peek then
      let (br, c) := c.lineBreak
      if c.atDocumentMarker then (none, c) else plainBreaks fuel c (acc ++ br)
    else (some acc, c)

/-- Reads what follows a run of plain text: the spaces before more of it, or line breaks,
folded. None at a document separator. Says also whether a line was broken. -/
def plainSpaces (c : Cursor) : Option String × Cursor × Bool :=
  let n := c.runLength (· = ' ')
  let spaces := c.take n
  let c := c.forward n
  if isBreakChar c.peek then
    let (br, c) := c.lineBreak
    if c.atDocumentMarker then (none, c, true)
    else
      match plainBreaks c.steps c "" with
      | (none, c) => (none, c, true)
      | (some breaks, c) =>
        (some ((if br != "\n" then br else if breaks.isEmpty then " " else "") ++ breaks), c, true)
  else (some spaces, c, false)

/-- The state of reading a plain scalar: its text so far, the spaces that join the next run
to it, the mark after its last run, and whether a simple key may start next. -/
structure PlainState where
  text : String := ""
  spaces : String := ""
  stop : Mark
  allowKey : Bool := false

/-- Reads the runs of a plain scalar whose lines are indented at least `indent`. -/
def plainRuns (indent : Int) (flow : Bool) : Nat → Cursor → PlainState → Cursor × PlainState
  | 0, c, st => (c, st)
  | fuel + 1, c, st =>
    let n := plainLength flow c
    if c.peek = '#' || n = 0 then (c, st)
    else
      let text := st.text ++ st.spaces ++ c.take n
      let c := c.forward n
      let stop := c.mark
      let (spaces, c, broke) := plainSpaces c
      let st := { text, spaces := "", stop, allowKey := broke }
      match spaces with
      | none => (c, st)
      | some spaces =>
        if spaces.isEmpty || c.peek = '#' || (!flow && (c.column : Int) < indent) then (c, st)
        else plainRuns indent flow fuel c { st with spaces }

/-- Reads a plain scalar inside a block collection indented `indent` (or -1 outside any);
says also whether a simple key may start after it. -/
def plainScalar (indent : Int) (flow : Bool) (c : Cursor) : Token × Cursor × Bool :=
  let start := c.mark
  let (c, st) := plainRuns (indent + 1) flow c.steps c { stop := start }
  ({ kind := .scalar st.text true none, start, stop := st.stop }, c, st.allowKey)

/-! ## Block scalars -/

/-- A problem inside a block scalar. -/
def blockProblem (start : Mark) (problem : String) (m : Mark) : Failure :=
  scanProblem (some "while scanning a block scalar") (some start) problem m

/-- Reads an indentation indicator digit, which may not be `0`. -/
def indentIndicator (start : Mark) (c : Cursor) : Except Failure (Option Nat × Cursor) :=
  let ch := c.peek
  if '0' ≤ ch && ch ≤ '9' then
    if ch = '0' then
      .error (blockProblem start "expected indentation indicator in the range 1-9, but found 0" c.mark)
    else .ok (some (ch.toNat - '0'.toNat), c.forward 1)
  else .ok (none, c)

/-- Reads a chomping indicator: `+` keeps the final breaks, `-` drops them. -/
def chompIndicator (c : Cursor) : Option Bool × Cursor :=
  match c.peek with
  | '+' => (some true, c.forward 1)
  | '-' => (some false, c.forward 1)
  | _ => (none, c)

/-- Reads the indicators of a block scalar, chomping and indentation in either order. -/
def blockIndicators (start : Mark) (c : Cursor) :
    Except Failure ((Option Bool × Option Nat) × Cursor) := do
  let ((chomp, inc), c) ← if c.peek = '+' || c.peek = '-' then do
      let (chomp, c) := chompIndicator c
      let (inc, c) ← indentIndicator start c
      pure ((chomp, inc), c)
    else do
      let (inc, c) ← indentIndicator start c
      let (chomp, c) := if inc.isSome then chompIndicator c else (none, c)
      pure ((chomp, inc), c)
  let ch := c.peek
  if ch = ' ' || isBreakOrEnd ch then pure ((chomp, inc), c)
  else throw (blockProblem start
    ("expected chomping or indentation indicators, but found " ++ charRepr ch) c.mark)

/-- Reads the rest of the header line of a block scalar: spaces and a comment. -/
def blockHeaderEnd (start : Mark) (c : Cursor) : Except Failure Cursor :=
  let c := c.skipWhile (· = ' ')
  let c := if c.peek = '#' then c.skipWhile (fun ch => !isBreakOrEnd ch) else c
  if isBreakOrEnd c.peek then .ok c.lineBreak.2
  else .error (blockProblem start
    ("expected a comment or a line break, but found " ++ charRepr c.peek) c.mark)

/-- Reads the empty lines before the first line of a block scalar, finding the deepest
indentation among them. -/
def blockIndentation : Nat → Cursor → String × Nat × Mark → String × Nat × Mark × Cursor
  | 0, c, (breaks, most, stop) => (breaks, most, stop, c)
  | fuel + 1, c, (breaks, most, stop) =>
    let ch := c.peek
    if ch = ' ' then
      let c := c.forward 1
      blockIndentation fuel c (breaks, max most c.column, stop)
    else if isBreakChar ch then
      let (br, c) := c.lineBreak
      blockIndentation fuel c (breaks ++ br, most, c.mark)
    else (breaks, most, stop, c)

/-- Moves over the spaces of a line up to column `indent`. -/
def indentTo (indent : Nat) : Nat → Cursor → Cursor
  | 0, c => c
  | fuel + 1, c => if c.column < indent && c.peek = ' ' then indentTo indent fuel (c.forward 1) else c

/-- Reads the line breaks between lines of a block scalar, and the indentation of each next
line up to `indent`. -/
def blockBreaks (indent : Nat) : Nat → Cursor → String × Mark → String × Mark × Cursor
  | 0, c, (breaks, stop) => (breaks, stop, c)
  | fuel + 1, c, (breaks, stop) =>
    if isBreakChar c.peek then
      let (br, c) := c.lineBreak
      let stop := c.mark
      blockBreaks indent fuel (indentTo indent c.steps c) (breaks ++ br, stop)
    else (breaks, stop, c)

/-- The state of reading the lines of a block scalar: its text, the last line break and the
breaks after it, and the mark after its last line. -/
structure BlockState where
  text : String := ""
  lineBreak : String := ""
  breaks : String
  stop : Mark

/-- Reads the lines of a block scalar indented `indent`. -/
def blockLines (indent : Nat) (folded : Bool) : Nat → Cursor → BlockState → Cursor × BlockState
  | 0, c, st => (c, st)
  | fuel + 1, c, st =>
    if !(c.column = indent && c.peek != '\x00') then (c, st)
    else
      let leadingText := !isBlank c.peek
      let n := c.runLength (fun ch => !isBreakOrEnd ch)
      let text := st.text ++ st.breaks ++ c.take n
      let c := c.forward n
      let (lineBreak, c) := c.lineBreak
      let (breaks, stop, c) := blockBreaks indent c.steps (indentTo indent c.steps c) ("", c.mark)
      let st := { text, lineBreak, breaks, stop }
      if c.column = indent && c.peek != '\x00' then
        let join := if folded && lineBreak = "\n" && leadingText && !isBlank c.peek then
            (if breaks.isEmpty then " " else "")
          else lineBreak
        blockLines indent folded fuel c { st with text := st.text ++ join }
      else (c, st)

/-- Reads a block scalar, the cursor at its indicator `|` or `>`, inside a block collection
indented `indent` (or -1 outside any). -/
def blockScalar (indent : Int) (c : Cursor) : Except Failure (Token × Cursor) := do
  let start := c.mark
  let style := c.peek
  let c := c.forward 1
  let ((chomp, inc), c) ← blockIndicators start c
  let c ← blockHeaderEnd start c
  let least := max (indent + 1) 1
  let (indent, breaks, stop, c) : Nat × String × Mark × Cursor := match inc with
    | none =>
      let (breaks, most, stop, c) := blockIndentation c.steps c ("", 0, c.mark)
      ((max least (most : Int)).toNat, breaks, stop, c)
    | some inc =>
      let indent := (least + inc - 1).toNat
      let (breaks, stop, c) := blockBreaks indent c.steps (indentTo indent c.steps c) ("", c.mark)
      (indent, breaks, stop, c)
  let (c, st) := blockLines indent (style = '>') c.steps c { breaks, stop }
  let text := st.text ++ (if chomp != some false then st.lineBreak else "") ++
    (if chomp = some true then st.breaks else "")
  pure ({ kind := .scalar text false (some style), start, stop := st.stop }, c)

end Cursor

end Citations.Yaml
