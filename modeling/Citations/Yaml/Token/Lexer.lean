import Citations.Yaml.Token.Name

/-! # Cutting a stream into tokens, as they are asked for

A `Lexer` reads tokens ahead only as far as the reader of tokens needs them, so a problem
further on in the stream is found only when the tokens before it have been taken.

Block structure comes from indentation. The lexer keeps the column of each open block
collection; a token left of the current one closes collections (`blockEnd`), and the first
entry of a collection at a deeper column opens one. Inside flow collections (`[...]`,
`{...}`) indentation does not count.

A key needs no `?`: a scalar, a flow collection, or an alias, anchor or tag that starts a node,
may be a *simple key*. The lexer remembers where each possible key starts, one for each level
of flow nesting; when a `:` follows, a `key` token (and, in a block, the start of a mapping) is
put in before the key's first token. A possible key lapses at the end of its line or after 1024
characters. In a block, a possible key that starts at the column of its collection is
required, and a required key that lapses is a problem: `could not find expected ':'`.

Before each token the lexer passes over spaces, comments and line breaks; a line break in a
block allows a simple key again.

* `Lexer.ofText`: a lexer at the start of a stream.
* `Lexer.peek`, `Lexer.next`: the next token, without or with taking it.
-/

namespace Citations.Yaml

/-- Where a simple key could start: the number its first token will have, whether it must be
a key, and its mark. -/
structure SimpleKey where
  tokenNumber : Nat
  required : Bool
  mark : Mark

/-- Inserts `x` before the element at place `i`, or at the end when there are fewer. -/
def insertAt {α : Type} (i : Nat) (x : α) : List α → List α
  | [] => [x]
  | y :: ys => if i = 0 then x :: y :: ys else y :: insertAt (i - 1) x ys

/-- The state of cutting a stream into tokens. -/
structure Lexer where
  cursor : Cursor
  /-- tokens read and not yet taken -/
  queue : List Token := []
  /-- how many tokens have been taken -/
  taken : Nat := 0
  /-- whether the end of the stream has been read -/
  done : Bool := false
  /-- the depth of flow nesting; a stray closing bracket makes it negative -/
  flowLevel : Int := 0
  /-- the column of the innermost block collection, -1 outside all -/
  indent : Int := -1
  /-- the columns of the block collections around it -/
  indents : List Int := []
  /-- whether a simple key may start at the next token -/
  allowKey : Bool := true
  /-- the possible simple keys by flow level, in the order they were found -/
  keys : List (Int × SimpleKey) := []

namespace Lexer

/-- A lexer at the start of a stream. -/
def ofText (s : String) : Lexer :=
  { cursor := { chars := s.toList.toArray }, queue := [Token.at .streamStart {}] }

/-- Whether the lexer is inside a flow collection. -/
def inFlow (s : Lexer) : Bool := s.flowLevel != 0

/-- The mark of the next character. -/
def mark (s : Lexer) : Mark := s.cursor.mark

/-- Adds a token at the end of the queue. -/
def push (s : Lexer) (t : Token) : Lexer := { s with queue := s.queue ++ [t] }

/-- A token of one character, read and added. -/
def pushChar (s : Lexer) (kind : TokenKind) : Lexer :=
  let start := s.mark
  let c := s.cursor.forward 1
  { s with cursor := c, queue := s.queue ++ [{ kind, start, stop := c.mark }] }

/-- The problem of a required simple key that lapsed. -/
def keyProblem (key : SimpleKey) (m : Mark) : Failure :=
  scanProblem (some "while scanning a simple key") (some key.mark) "could not find expected ':'" m

/-- Drops the possible keys that lapsed: those on an earlier line or over 1024 characters
back. -/
def staleKeys (s : Lexer) : Except Failure Lexer :=
  let c := s.cursor
  let stale := fun (k : SimpleKey) => k.mark.line != c.line || c.pos - k.mark.index > 1024
  match s.keys.find? (fun (_, k) => stale k && k.required) with
  | some (_, k) => .error (keyProblem k c.mark)
  | none => .ok { s with keys := s.keys.filter (fun (_, k) => !stale k) }

/-- Drops the possible key of the current flow level; a required one is a problem. -/
def removeKey (s : Lexer) : Except Failure Lexer :=
  match s.keys.find? (·.1 == s.flowLevel) with
  | some (_, k) =>
    if k.required then .error (keyProblem k s.mark)
    else .ok { s with keys := s.keys.filter (·.1 != s.flowLevel) }
  | none => .ok s

/-- Notes that a simple key may start at the next token, if one may. -/
def saveKey (s : Lexer) : Except Failure Lexer :=
  let required := s.flowLevel == 0 && s.indent == s.cursor.column
  if s.allowKey then
    match s.removeKey with
    | .error e => .error e
    | .ok s =>
      let key := { tokenNumber := s.taken + s.queue.length, required, mark := s.mark }
      .ok { s with keys := s.keys ++ [(s.flowLevel, key)] }
  else .ok s

/-- Closes the block collections indented deeper than `column`. -/
def unwindFrom (column : Int) (m : Mark) : Int → List Int → List Token → Int × List Int × List Token
  | indent, [], out => (indent, [], out)
  | indent, i :: rest, out =>
    if indent > column then unwindFrom column m i rest (out ++ [Token.at .blockEnd m])
    else (indent, i :: rest, out)

/-- Closes the block collections indented deeper than `column`; nothing inside a flow
collection. -/
def unwind (column : Int) (s : Lexer) : Lexer :=
  if s.inFlow then s
  else
    let (indent, indents, ends) := unwindFrom column s.mark s.indent s.indents []
    { s with indent, indents, queue := s.queue ++ ends }

/-- Opens a block collection at `column` if it is deeper than the current one. -/
def addIndent (column : Int) (s : Lexer) : Bool × Lexer :=
  if s.indent < column then (true, { s with indents := s.indent :: s.indents, indent := column })
  else (false, s)

/-- Moves over spaces, comments and line breaks to the next token. -/
def skipToToken (s : Lexer) : Lexer :=
  let c := s.cursor
  let c := if c.pos = 0 && c.peek = '\uFEFF' then c.forward 1 else c
  let rec go : Nat → Cursor → Bool → Cursor × Bool
    | 0, c, allow => (c, allow)
    | fuel + 1, c, allow =>
      let c := c.skipWhile (· = ' ')
      let c := if c.peek = '#' then c.skipWhile (fun ch => !isBreakOrEnd ch) else c
      if isBreakChar c.peek then go fuel c.lineBreak.2 (if s.flowLevel == 0 then true else allow)
      else (c, allow)
  let (cursor, allowKey) := go c.steps c s.allowKey
  { s with cursor, allowKey }

/-! ## Fetching one token -/

/-- The end of the stream: every block collection closes. -/
def fetchStreamEnd (s : Lexer) : Except Failure Lexer := do
  let s ← (s.unwind (-1)).removeKey
  pure { s.push (Token.at .streamEnd s.mark) with allowKey := false, keys := [], done := true }

/-- A directive. -/
def fetchDirective (s : Lexer) : Except Failure Lexer := do
  let s ← (s.unwind (-1)).removeKey
  let (t, cursor) ← s.cursor.directiveToken
  pure { s.push t with cursor, allowKey := false }

/-- A document marker, `---` or `...`. -/
def fetchDocumentMarker (kind : TokenKind) (s : Lexer) : Except Failure Lexer := do
  let s ← (s.unwind (-1)).removeKey
  let start := s.mark
  let cursor := s.cursor.forward 3
  pure { s.push { kind, start, stop := cursor.mark } with cursor, allowKey := false }

/-- The start of a flow collection. -/
def fetchFlowStart (kind : TokenKind) (s : Lexer) : Except Failure Lexer := do
  let s ← s.saveKey
  pure ({ s with flowLevel := s.flowLevel + 1, allowKey := true }.pushChar kind)

/-- The end of a flow collection. -/
def fetchFlowEnd (kind : TokenKind) (s : Lexer) : Except Failure Lexer := do
  let s ← s.removeKey
  pure ({ s with flowLevel := s.flowLevel - 1, allowKey := false }.pushChar kind)

/-- A `,` between entries of a flow collection. -/
def fetchFlowEntry (s : Lexer) : Except Failure Lexer := do
  let s ← { s with allowKey := true }.removeKey
  pure (s.pushChar .flowEntry)

/-- The start of a block collection of a kind at the current column, when an entry or key
starts a deeper one. -/
def openBlock (kind : TokenKind) (s : Lexer) : Lexer :=
  match s.addIndent s.cursor.column with
  | (true, s) => s.push (Token.at kind s.mark)
  | (false, s) => s

/-- A `-` before an entry of a block sequence. -/
def fetchBlockEntry (s : Lexer) : Except Failure Lexer := do
  let s ← if s.inFlow then pure s
    else if !s.allowKey then
      throw (scanProblem none none "sequence entries are not allowed here" s.mark)
    else pure (s.openBlock .blockSequenceStart)
  let s ← { s with allowKey := true }.removeKey
  pure (s.pushChar .blockEntry)

/-- A `?` before an explicit key. -/
def fetchKey (s : Lexer) : Except Failure Lexer := do
  let s ← if s.inFlow then pure s
    else if !s.allowKey then
      throw (scanProblem none none "mapping keys are not allowed here" s.mark)
    else pure (s.openBlock .blockMappingStart)
  let s ← { s with allowKey := !s.inFlow }.removeKey
  pure (s.pushChar .key)

/-- A `:` before a value; a possible simple key before it becomes a key. -/
def fetchValue (s : Lexer) : Except Failure Lexer := do
  let s ← match s.keys.find? (·.1 == s.flowLevel) with
    | some (_, key) =>
      let s := { s with keys := s.keys.filter (·.1 != s.flowLevel) }
      let place := key.tokenNumber - s.taken
      let s := { s with queue := insertAt place (Token.at .key key.mark) s.queue }
      let s := if s.inFlow then s
        else match s.addIndent key.mark.column with
          | (true, s) => { s with queue := insertAt place (Token.at .blockMappingStart key.mark) s.queue }
          | (false, s) => s
      pure { s with allowKey := false }
    | none =>
      if !s.inFlow && !s.allowKey then
        throw (scanProblem none none "mapping values are not allowed here" s.mark)
      else
        let s := if s.inFlow then s else s.openBlock .blockMappingStart
        { s with allowKey := !s.inFlow }.removeKey
  pure (s.pushChar .value)

/-- A token read by `read`, where a simple key may start. -/
def fetchKeyToken (read : Cursor → Except Failure (Token × Cursor)) (s : Lexer) :
    Except Failure Lexer := do
  let s ← s.saveKey
  let (t, cursor) ← read s.cursor
  pure { s.push t with cursor, allowKey := false }

/-- A block scalar. -/
def fetchBlockScalar (s : Lexer) : Except Failure Lexer := do
  let s ← { s with allowKey := true }.removeKey
  let (t, cursor) ← s.cursor.blockScalar s.indent
  pure { s.push t with cursor }

/-- A plain scalar. -/
def fetchPlain (s : Lexer) : Except Failure Lexer := do
  let s ← s.saveKey
  let (t, cursor, allowKey) := s.cursor.plainScalar s.indent s.inFlow
  pure { s.push t with cursor, allowKey }

/-- Whether a plain scalar may start here. -/
def plainStarts (s : Lexer) : Bool :=
  let ch := s.cursor.peek
  let next := s.cursor.peek 1
  !(isBlankOrEnd ch || "-?:,[]\x7b\x7d#&*!|>'\"%@`".contains ch) ||
    (!isBlankOrEnd next && (ch = '-' || (!s.inFlow && (ch = '?' || ch = ':'))))

/-- Whether the next characters are `marker` at the start of a line, standing alone. -/
def atMarker (s : Lexer) (marker : String) : Bool :=
  s.cursor.column = 0 && s.cursor.take 3 == marker && isBlankOrEnd (s.cursor.peek 3)

/-- Reads the next token, or more than one when block collections close before it. -/
def fetchMore (s : Lexer) : Except Failure Lexer := do
  let s ← s.skipToToken.staleKeys
  let s := s.unwind s.cursor.column
  let ch := s.cursor.peek
  let next := s.cursor.peek 1
  if ch = '\x00' then s.fetchStreamEnd
  else if ch = '%' && s.cursor.column = 0 then s.fetchDirective
  else if ch = '-' && s.atMarker "---" then s.fetchDocumentMarker .documentStart
  else if ch = '.' && s.atMarker "..." then s.fetchDocumentMarker .documentEnd
  else if ch = '[' then s.fetchFlowStart .flowSequenceStart
  else if ch = '{' then s.fetchFlowStart .flowMappingStart
  else if ch = ']' then s.fetchFlowEnd .flowSequenceEnd
  else if ch = '}' then s.fetchFlowEnd .flowMappingEnd
  else if ch = ',' then s.fetchFlowEntry
  else if ch = '-' && isBlankOrEnd next then s.fetchBlockEntry
  else if ch = '?' && (s.inFlow || isBlankOrEnd next) then s.fetchKey
  else if ch = ':' && (s.inFlow || isBlankOrEnd next) then s.fetchValue
  else if ch = '*' || ch = '&' then s.fetchKeyToken Cursor.anchorToken
  else if ch = '!' then s.fetchKeyToken Cursor.tagToken
  else if (ch = '|' || ch = '>') && !s.inFlow then s.fetchBlockScalar
  else if ch = '\'' || ch = '"' then s.fetchKeyToken Cursor.quotedScalar
  else if s.plainStarts then s.fetchPlain
  else throw (scanProblem (some "while scanning for the next token") none
    ("found character " ++ charRepr ch ++ " that cannot start any token") s.mark)

/-! ## Taking tokens -/

/-- Whether more tokens must be read before the next one may be taken: none is read, or the
next one may yet turn out to follow a key. -/
def needMore (s : Lexer) : Except Failure (Bool × Lexer) :=
  if s.done then .ok (false, s)
  else if s.queue.isEmpty then .ok (true, s)
  else
    match s.staleKeys with
    | .error e => .error e
    | .ok s => .ok ((s.keys.map (·.2.tokenNumber)).min? == some s.taken, s)

/-- Reads tokens until the next one may be taken. -/
def ensure (s : Lexer) : Except Failure Lexer :=
  go (s.cursor.chars.size + 2) s
where
  /-- At most `fuel` more tokens are read; each reads a character, or the end. -/
  go : Nat → Lexer → Except Failure Lexer
    | 0, s => .ok s
    | fuel + 1, s =>
      match s.needMore with
      | .error e => .error e
      | .ok (false, s) => .ok s
      | .ok (true, s) =>
        match s.fetchMore with
        | .error e => .error e
        | .ok s => go fuel s

/-- The next token, not taken. -/
def peek (s : Lexer) : Except Failure (Token × Lexer) := do
  let s ← s.ensure
  match s.queue with
  | t :: _ => pure (t, s)
  | [] => pure (Token.at .streamEnd s.mark, s)

/-- The next token, taken. -/
def next (s : Lexer) : Except Failure (Token × Lexer) := do
  let s ← s.ensure
  match s.queue with
  | t :: rest => pure (t, { s with queue := rest, taken := s.taken + 1 })
  | [] => pure (Token.at .streamEnd s.mark, s)

end Lexer

end Citations.Yaml
