import Citations.Yaml.Token.Scalar
import Citations.Text.Utf8

/-! # Reading names: anchors, aliases, tags and directives

* An anchor `&name` or alias `*name` is a run of ASCII letters, digits, `-` and `_`, followed by
  a blank, the end of a line, or one of `?:,]}%@` and the backquote.
* A tag is verbatim (`!<uri>`), a lone `!`, a handle and a suffix (`!!str`, `!e!tag`), or `!`
  and a suffix. A suffix is a URI: ASCII letters, digits and `-;/?:@&=+$,_.!~*'()[]`, with
  `%` and two hexadecimal digits for each byte of a character in UTF-8.
* A directive is `%YAML major.minor`, `%TAG handle prefix`, or another name whose line is not
  read; a comment may end its line.
-/

namespace Citations.Yaml

open Citations.Text

/-- A character of a URI in a tag. -/
def isUriChar (c : Char) : Bool :=
  ('0' ≤ c && c ≤ '9') || ('A' ≤ c && c ≤ 'Z') || ('a' ≤ c && c ≤ 'z') ||
    "-;/?:@&=+$,_.!~*'()[]%".contains c

/-- A space, a line break or the end: what may follow a tag or a directive's part. -/
def isSpaceOrBreak (c : Char) : Bool := c = ' ' || isBreakOrEnd c

namespace Cursor

/-- Reads an anchor or an alias, the cursor at its indicator. -/
def anchorToken (c : Cursor) : Except Failure (Token × Cursor) :=
  let start := c.mark
  let isAlias := c.peek = '*'
  let c := c.forward 1
  let problem := fun (c : Cursor) => scanProblem
    (some ("while scanning an " ++ if isAlias then "alias" else "anchor")) (some start)
    ("expected alphabetic or numeric character, but found " ++ charRepr c.peek) c.mark
  let n := c.runLength isNameChar
  if n = 0 then .error (problem c)
  else
    let name := c.take n
    let c := c.forward n
    if isBlankOrEnd c.peek || "?:,]\x7d%@`".contains c.peek then
      .ok ({ kind := if isAlias then .alias name else .anchor name, start, stop := c.mark }, c)
    else .error (problem c)

/-- Reads a tag handle: `!`, `!!`, or `!name!`. -/
def tagHandle (what : String) (start : Mark) (c : Cursor) : Except Failure (String × Cursor) :=
  let problem := fun (c : Cursor) => scanProblem (some ("while scanning a " ++ what)) (some start)
    ("expected '!', but found " ++ charRepr c.peek) c.mark
  if c.peek != '!' then .error (problem c)
  else if c.peek 1 = ' ' then .ok ("!", c.forward 1)
  else
    let n := 1 + c.runLength isNameChar 1
    if c.peek n != '!' then .error (problem (c.forward n))
    else .ok (c.take (n + 1), c.forward (n + 1))

/-- Reads `%` escapes of a URI: each a byte, the bytes a text in UTF-8. -/
def uriEscapes (what : String) (start : Mark) (c : Cursor) : Except Failure (String × Cursor) :=
  let mark := c.mark
  let rec bytes : Nat → Cursor → List Nat → Except Failure (List Nat × Cursor)
    | 0, c, acc => .ok (acc.reverse, c)
    | fuel + 1, c, acc =>
      if c.peek != '%' then .ok (acc.reverse, c)
      else
        let c := c.forward 1
        match [0, 1].find? (fun k => !isHexChar (c.peek k)) with
        | some k => .error (scanProblem (some ("while scanning a " ++ what)) (some start)
            ("expected URI escape sequence of 2 hexadecimal numbers, but found " ++
              charRepr (c.peek k)) c.mark)
        | none => bytes fuel (c.forward 2) (hexValue (c.take 2) :: acc)
  match bytes c.steps c [] with
  | .error e => .error e
  | .ok (bs, c) =>
    match decodeUtf8 bs with
    | .ok s => .ok (s, c)
    | .error f => .error (scanProblem (some ("while scanning a " ++ what)) (some start) f.message mark)

/-- Reads a URI of a tag; at least one character or escape. -/
def tagUri (what : String) (start : Mark) (c : Cursor) : Except Failure (String × Cursor) :=
  let rec go : Nat → Cursor → String → Bool → Except Failure (String × Cursor)
    | 0, c, acc, _ => .ok (acc, c)
    | fuel + 1, c, acc, read =>
      let n := c.runLength fun ch => isUriChar ch && ch != '%'
      let acc := acc ++ c.take n
      let c := c.forward n
      if c.peek = '%' then
        match uriEscapes what start c with
        | .error e => .error e
        | .ok (s, c) => go fuel c (acc ++ s) true
      else if !read && n = 0 then
        .error (scanProblem (some ("while parsing a " ++ what)) (some start)
          ("expected URI, but found " ++ charRepr c.peek) c.mark)
      else .ok (acc, c)
  go c.steps c "" false

/-- Reads a tag, the cursor at its `!`. -/
def tagToken (c : Cursor) : Except Failure (Token × Cursor) := do
  let start := c.mark
  let next := c.peek 1
  let (handle, suffix, c) ← (if next = '<' then do
      let (suffix, c) ← tagUri "tag" start (c.forward 2)
      if c.peek != '>' then
        throw (scanProblem (some "while parsing a tag") (some start)
          ("expected '>', but found " ++ charRepr c.peek) c.mark)
      pure (none, suffix, c.forward 1)
    else if isBlankOrEnd next then pure (none, "!", c.forward 1)
    else do
      -- a handle when a second `!` comes before the next space or line break
      let n := c.runLength (fun ch => ch != '!' && !isSpaceOrBreak ch) 1
      let (handle, c) ← if c.peek (1 + n) = '!' then tagHandle "tag" start c
        else pure ("!", c.forward 1)
      let (suffix, c) ← tagUri "tag" start c
      pure (some handle, suffix, c) : Except Failure (Option String × String × Cursor))
  if isSpaceOrBreak c.peek then pure ({ kind := .tag handle suffix, start, stop := c.mark }, c)
  else throw (scanProblem (some "while scanning a tag") (some start)
    ("expected ' ', but found " ++ charRepr c.peek) c.mark)

/-- Reads the digits of a version number. -/
def versionNumber (problem : String → Cursor → Failure) (c : Cursor) :
    Except Failure (Nat × Cursor) :=
  let n := c.runLength fun ch => '0' ≤ ch && ch ≤ '9'
  if n = 0 then .error (problem ("expected a digit, but found " ++ charRepr c.peek) c)
  else .ok ((c.take n).toList.foldl (fun v d => 10 * v + (d.toNat - '0'.toNat)) 0, c.forward n)

/-- Reads a directive, the cursor at its `%`. -/
def directiveToken (c : Cursor) : Except Failure (Token × Cursor) := do
  let start := c.mark
  let problem := fun (msg : String) (c : Cursor) =>
    scanProblem (some "while scanning a directive") (some start) msg c.mark
  let c := c.forward 1
  let n := c.runLength isNameChar
  let nameProblem := fun (c : Cursor) =>
    problem ("expected alphabetic or numeric character, but found " ++ charRepr c.peek) c
  if n = 0 then throw (nameProblem c)
  let name := c.take n
  let c := c.forward n
  if !isSpaceOrBreak c.peek then throw (nameProblem c)
  let (value, c) ← (if name = "YAML" then do
      let c := c.skipWhile (· = ' ')
      let (major, c) ← versionNumber problem c
      if c.peek != '.' then throw (problem ("expected a digit or '.', but found " ++ charRepr c.peek) c)
      let (minor, c) ← versionNumber problem (c.forward 1)
      if !isSpaceOrBreak c.peek then
        throw (problem ("expected a digit or ' ', but found " ++ charRepr c.peek) c)
      pure (DirectiveValue.version major minor, c)
    else if name = "TAG" then do
      let c := c.skipWhile (· = ' ')
      let (handle, c) ← tagHandle "directive" start c
      if c.peek != ' ' then throw (problem ("expected ' ', but found " ++ charRepr c.peek) c)
      let c := c.skipWhile (· = ' ')
      let (tagPrefix, c) ← tagUri "directive" start c
      if !isSpaceOrBreak c.peek then throw (problem ("expected ' ', but found " ++ charRepr c.peek) c)
      pure (DirectiveValue.tag handle tagPrefix, c)
    else pure (DirectiveValue.other, c) : Except Failure (DirectiveValue × Cursor))
  let stop := c.mark
  let c := match value with
    | .other => c.skipWhile (fun ch => !isBreakOrEnd ch)
    | _ => c
  let c := c.skipWhile (· = ' ')
  let c := if c.peek = '#' then c.skipWhile (fun ch => !isBreakOrEnd ch) else c
  if !isBreakOrEnd c.peek then
    throw (problem ("expected a comment or a line break, but found " ++ charRepr c.peek) c)
  pure ({ kind := .directive name value, start, stop }, c.lineBreak.2)

end Cursor

end Citations.Yaml
