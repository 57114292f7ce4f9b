import Citations.Yaml.Token.Lexer

/-! # Events: the tokens of a stream read as a sequence of nodes

Tokens are read by a pushdown machine, one event at a time: the start and end of the stream,
of each document and of each collection, each scalar and each alias. The machine keeps the
steps to come back to (a stack of `Step`s) and the marks where the open collections started.

A node may have an anchor and a tag, in either order. A tag's handle is replaced by the prefix
that the document's `%TAG` directives, or the defaults (`!` and `!!`, the latter for
`tag:yaml.org,2002:`), give it. A node with properties and no content is an empty scalar; so is
a missing key or value.

A scalar says whether its tag may be resolved from its text: a plain scalar without a tag, or
any scalar tagged `!`, is resolved from its text (the first flag); a quoted one without a tag is
text (the second flag).

* `Parser.ofText`: a machine at the start of a stream.
* `Parser.peek`, `Parser.next`: the next event, without or with taking it.
-/

namespace Citations.Yaml

/-- The kinds of event. -/
inductive EventKind where
  | streamStart
  | streamEnd
  | documentStart
  | documentEnd
  | alias (anchor : String)
  /-- a scalar: its anchor, its tag, whether its tag may be resolved from the text as a plain
  scalar's or as a quoted scalar's, and its text -/
  | scalar (anchor tag : Option String) (plainImplicit quotedImplicit : Bool) (text : String)
  | sequenceStart (anchor tag : Option String)
  | sequenceEnd
  | mappingStart (anchor tag : Option String)
  | mappingEnd

/-- An event and the marks around it. -/
structure Event where
  kind : EventKind
  start : Mark
  stop : Mark

/-- The steps of the machine: what it reads next. -/
inductive Step where
  | streamStart
  | implicitDocumentStart
  | documentStart
  | documentEnd
  | documentContent
  | blockNode
  | blockSequenceFirstEntry
  | blockSequenceEntry
  | indentlessSequenceEntry
  | blockMappingFirstKey
  | blockMappingKey
  | blockMappingValue
  | flowSequenceFirstEntry
  | flowSequenceEntry
  | flowSequenceEntryMappingKey
  | flowSequenceEntryMappingValue
  | flowSequenceEntryMappingEnd
  | flowMappingFirstKey
  | flowMappingKey
  | flowMappingValue
  | flowMappingEmptyValue
  | finished

/-- The tag handles every document knows. -/
def defaultHandles : List (String × String) := [("!", "!"), ("!!", "tag:yaml.org,2002:")]

/-- The state of reading events. -/
structure Parser where
  lexer : Lexer
  /-- an event read and not yet taken -/
  current : Option Event := none
  step : Step := .streamStart
  /-- the steps to come back to -/
  returns : List Step := []
  /-- the marks where the open collections started, innermost first -/
  marks : List Mark := []
  /-- the tag handles of the current document -/
  handles : List (String × String) := []

/-- A problem found while parsing. -/
def parseProblem (context : Option String) (contextMark : Option Mark) (problem : String)
    (mark : Mark) : Failure :=
  .marked .parsing { context, contextMark, problem, mark }

namespace Parser

/-- A machine at the start of a stream. -/
def ofText (s : String) : Parser := { lexer := Lexer.ofText s }

/-- The next token, not taken. -/
def peekToken (p : Parser) : Except Failure (Token × Parser) := do
  let (t, lexer) ← p.lexer.peek
  pure (t, { p with lexer })

/-- The next token, taken. -/
def nextToken (p : Parser) : Except Failure (Token × Parser) := do
  let (t, lexer) ← p.lexer.next
  pure (t, { p with lexer })

/-- Whether the next token is of one of the sorts. -/
def nextIs (p : Parser) (sorts : List TokenSort) : Except Failure (Bool × Parser) := do
  let (t, p) ← p.peekToken
  pure (sorts.contains t.kind.sort, p)

/-- Goes back to the step on top of the stack. -/
def back (p : Parser) : Parser :=
  match p.returns with
  | s :: rest => { p with step := s, returns := rest }
  | [] => { p with step := .finished }

/-- Continues with a step, to come back to `ret` afterwards. -/
def call (p : Parser) (ret : Step) : Parser := { p with returns := ret :: p.returns }

/-- The innermost open collection's mark. -/
def openMark (p : Parser) : Mark := p.marks.headD {}

/-- An empty scalar at a mark. -/
def emptyScalar (m : Mark) : Event := { kind := .scalar none none true false "", start := m, stop := m }

/-- Reads the directives before a document, and sets its tag handles. -/
def directives (p : Parser) : Except Failure Parser := do
  let rec go : Nat → Parser → Option (Nat × Nat) → List (String × String) →
      Except Failure (Parser × List (String × String))
    | 0, p, _, handles => pure (p, handles)
    | fuel + 1, p, version, handles => do
      let (t, p) ← p.peekToken
      match t.kind with
      | .directive name value =>
        let (_, p) ← p.nextToken
        match name, value with
        | "YAML", .version major minor =>
          if version.isSome then
            throw (parseProblem none none "found duplicate YAML directive" t.start)
          if major != 1 then
            throw (parseProblem none none
              "found incompatible YAML document (version 1.* is required)" t.start)
          go fuel p (some (major, minor)) handles
        | "TAG", .tag handle tagPrefix =>
          if handles.any (·.1 == handle) then
            throw (parseProblem none none ("duplicate tag handle " ++ quoteText handle) t.start)
          go fuel p version (handles ++ [(handle, tagPrefix)])
        | _, _ => go fuel p version handles
      | _ => pure (p, handles)
  let (p, handles) ← go p.lexer.cursor.steps p none []
  let missing := defaultHandles.filter fun (h, _) => !handles.any (·.1 == h)
  pure { p with handles := handles ++ missing }

/-- Reads a node: an alias, or properties and a scalar or the start of a collection. In a
block, a block collection may start; as a mapping's value, a sequence may start without
indentation. -/
def node (p : Parser) (block indentless : Bool) : Except Failure (Event × Parser) := do
  let (t, p) ← p.peekToken
  if let .alias name := t.kind then
    let (_, p) ← p.nextToken
    return ({ kind := .alias name, start := t.start, stop := t.stop }, p.back)
  -- the properties: an anchor and a tag, in either order
  let (anchor, tag, marks, p) ← (match t.kind with
    | .anchor name => do
      let (_, p) ← p.nextToken
      let (t2, p) ← p.peekToken
      if let .tag handle suffix := t2.kind then
        let (_, p) ← p.nextToken
        pure (some name, some (handle, suffix), some (t.start, t2.stop, t2.start), p)
      else pure (some name, none, some (t.start, t.stop, t.start), p)
    | .tag handle suffix => do
      let (_, p) ← p.nextToken
      let (t2, p) ← p.peekToken
      if let .anchor name := t2.kind then
        let (_, p) ← p.nextToken
        pure (some name, some (handle, suffix), some (t.start, t2.stop, t.start), p)
      else pure (none, some (handle, suffix), some (t.start, t.stop, t.start), p)
    | _ => pure (none, none, none, p) :
      Except Failure (Option String × Option (Option String × String) × Option (Mark × Mark × Mark) × Parser))
  let tag ← match tag, marks with
    | some (some handle, suffix), some (start, _, tagMark) =>
      match p.handles.find? (·.1 == handle) with
      | some (_, tagPrefix) => pure (some (tagPrefix ++ suffix))
      | none => throw (parseProblem (some "while parsing a node") (some start)
          ("found undefined tag handle " ++ quoteText handle) tagMark)
    | some (none, suffix), _ => pure (some suffix)
    | _, _ => pure none
  let (t, p) ← p.peekToken
  let (start, stop) := match marks with
    | some (start, stop, _) => (start, stop)
    | none => (t.start, t.start)
  let nonSpecific := tag.isNone || tag == some "!"
  match t.kind with
  | .blockEntry =>
    if indentless then
      return ({ kind := .sequenceStart anchor tag, start, stop := t.stop },
        { p with step := .indentlessSequenceEntry })
  | .scalar text plain _ =>
    let (_, p) ← p.nextToken
    let (plainImplicit, quotedImplicit) :=
      if (plain && tag.isNone) || tag == some "!" then (true, false)
      else if tag.isNone then (false, true) else (false, false)
    return ({ kind := .scalar anchor tag plainImplicit quotedImplicit text, start, stop := t.stop },
      p.back)
  | .flowSequenceStart =>
    return ({ kind := .sequenceStart anchor tag, start, stop := t.stop },
      { p with step := .flowSequenceFirstEntry })
  | .flowMappingStart =>
    return ({ kind := .mappingStart anchor tag, start, stop := t.stop },
      { p with step := .flowMappingFirstKey })
  | .blockSequenceStart =>
    if block then
      return ({ kind := .sequenceStart anchor tag, start, stop := t.start },
        { p with step := .blockSequenceFirstEntry })
  | .blockMappingStart =>
    if block then
      return ({ kind := .mappingStart anchor tag, start, stop := t.start },
        { p with step := .blockMappingFirstKey })
  | _ => pure ()
  if anchor.isSome || tag.isSome then
    return ({ kind := .scalar anchor tag nonSpecific false "", start, stop }, p.back)
  throw (parseProblem (some ("while parsing a " ++ (if block then "block" else "flow") ++ " node"))
    (some start) ("expected the node content, but found " ++ quoteText t.id) t.start)

/-- After a `?`, `:` or `-` token `t`: an empty scalar when one of `ends` comes next, else the
node that comes, returning to `ret`. -/
def entryNode (p : Parser) (t : Token) (ends : List TokenSort) (ret : Step) (block indentless : Bool) :
    Except Failure (Event × Parser) := do
  let (stops, p) ← p.nextIs ends
  if stops then pure (emptyScalar t.stop, { p with step := ret })
  else (p.call ret).node block indentless

/-- The start of a document, or the end of the stream. -/
def documentStart (p : Parser) : Except Failure (Event × Parser) := do
  let rec skipEnds : Nat → Parser → Except Failure Parser
    | 0, p => pure p
    | fuel + 1, p => do
      let (t, p) ← p.peekToken
      if t.kind.sort == .documentEnd then skipEnds fuel (← p.nextToken).2 else pure p
  let p ← skipEnds p.lexer.cursor.steps p
  let (t, p) ← p.peekToken
  if t.kind.sort != .streamEnd then
    let p ← p.directives
    let (t2, p) ← p.peekToken
    if t2.kind.sort != .documentStart then
      throw (parseProblem none none
        ("expected '<document start>', but found " ++ quoteText t2.id) t2.start)
    let (t2, p) ← p.nextToken
    pure ({ kind := .documentStart, start := t.start, stop := t2.stop },
      { p.call .documentEnd with step := .documentContent })
  else
    let (t, p) ← p.nextToken
    pure ({ kind := .streamEnd, start := t.start, stop := t.stop }, { p with step := .finished })

/-- The next entry of a block sequence, or its end. -/
def blockSequenceEntry (p : Parser) : Except Failure (Event × Parser) := do
  let (t, p) ← p.peekToken
  match t.kind with
  | .blockEntry =>
    let (t, p) ← p.nextToken
    p.entryNode t [.blockEntry, .blockEnd] .blockSequenceEntry true false
  | .blockEnd =>
    let (t, p) ← p.nextToken
    pure ({ kind := .sequenceEnd, start := t.start, stop := t.stop },
      { p.back with marks := p.marks.tail })
  | _ => throw (parseProblem (some "while parsing a block collection") (some p.openMark)
      ("expected <block end>, but found " ++ quoteText t.id) t.start)

/-- The next key of a block mapping, or its end. -/
def blockMappingKey (p : Parser) : Except Failure (Event × Parser) := do
  let (t, p) ← p.peekToken
  match t.kind with
  | .key =>
    let (t, p) ← p.nextToken
    p.entryNode t [.key, .value, .blockEnd] .blockMappingValue true true
  | .blockEnd =>
    let (t, p) ← p.nextToken
    pure ({ kind := .mappingEnd, start := t.start, stop := t.stop },
      { p.back with marks := p.marks.tail })
  | _ => throw (parseProblem (some "while parsing a block mapping") (some p.openMark)
      ("expected <block end>, but found " ++ quoteText t.id) t.start)

/-- The next entry of a flow sequence, or its end; after the first entry a `,` comes first. -/
def flowSequenceEntry (p0 : Parser) (first : Bool) : Except Failure (Event × Parser) := do
  let (t, p1) ← p0.peekToken
  let mut p := p1
  if t.kind.sort != .flowSequenceEnd then
    if !first then
      if t.kind.sort == .flowEntry then
        p := (← p.nextToken).2
      else throw (parseProblem (some "while parsing a flow sequence") (some p.openMark)
        ("expected ',' or ']', but got " ++ quoteText t.id) t.start)
    let (t2, p2) ← p.peekToken
    p := p2
    if t2.kind.sort == .key then
      return ({ kind := .mappingStart none none, start := t2.start, stop := t2.stop },
        { p with step := .flowSequenceEntryMappingKey })
    if t2.kind.sort != .flowSequenceEnd then
      return ← (p.call .flowSequenceEntry).node false false
  let (t3, p3) ← p.nextToken
  pure ({ kind := .sequenceEnd, start := t3.start, stop := t3.stop },
    { p3.back with marks := p3.marks.tail })

/-- The next key of a flow mapping, or its end; after the first entry a `,` comes first. -/
def flowMappingKey (p0 : Parser) (first : Bool) : Except Failure (Event × Parser) := do
  let (t, p1) ← p0.peekToken
  let mut p := p1
  if t.kind.sort != .flowMappingEnd then
    if !first then
      if t.kind.sort == .flowEntry then
        p := (← p.nextToken).2
      else throw (parseProblem (some "while parsing a flow mapping") (some p.openMark)
        ("expected ',' or '\x7d', but got " ++ quoteText t.id) t.start)
    let (t2, p2) ← p.peekToken
    p := p2
    if t2.kind.sort == .key then
      let (t4, p4) ← p.nextToken
      return ← p4.entryNode t4 [.value, .flowEntry, .flowMappingEnd] .flowMappingValue false false
    if t2.kind.sort != .flowMappingEnd then
      return ← (p.call .flowMappingEmptyValue).node false false
  let (t3, p3) ← p.nextToken
  pure ({ kind := .mappingEnd, start := t3.start, stop := t3.stop },
    { p3.back with marks := p3.marks.tail })

/-- Reads the next event. -/
def produce (p : Parser) : Except Failure (Event × Parser) := do
  match p.step with
  | .finished =>
    let m := p.lexer.mark
    pure ({ kind := .streamEnd, start := m, stop := m }, p)
  | .streamStart =>
    let (t, p) ← p.nextToken
    pure ({ kind := .streamStart, start := t.start, stop := t.stop },
      { p with step := .implicitDocumentStart })
  | .implicitDocumentStart =>
    let (t, p) ← p.peekToken
    if [TokenSort.directive, .documentStart, .streamEnd].contains t.kind.sort then p.documentStart
    else
      pure ({ kind := .documentStart, start := t.start, stop := t.start },
        { p.call .documentEnd with handles := defaultHandles, step := .blockNode })
  | .documentStart => p.documentStart
  | .documentEnd =>
    let (t, p) ← p.peekToken
    let (stop, p) ← if t.kind.sort == .documentEnd then do
        let (t2, p) ← p.nextToken
        pure (t2.stop, p)
      else pure (t.start, p)
    pure ({ kind := .documentEnd, start := t.start, stop }, { p with step := .documentStart })
  | .documentContent =>
    let (t, p) ← p.peekToken
    if [TokenSort.directive, .documentStart, .documentEnd, .streamEnd].contains t.kind.sort then
      pure (emptyScalar t.start, p.back)
    else p.node true false
  | .blockNode => p.node true false
  | .blockSequenceFirstEntry =>
    let (t, p) ← p.nextToken
    ({ p with marks := t.start :: p.marks, step := .blockSequenceEntry }).blockSequenceEntry
  | .blockSequenceEntry => p.blockSequenceEntry
  | .indentlessSequenceEntry =>
    let (t, p) ← p.peekToken
    if t.kind.sort == .blockEntry then
      let (t, p) ← p.nextToken
      p.entryNode t [.blockEntry, .key, .value, .blockEnd] .indentlessSequenceEntry true false
    else pure ({ kind := .sequenceEnd, start := t.start, stop := t.start }, p.back)
  | .blockMappingFirstKey =>
    let (t, p) ← p.nextToken
    ({ p with marks := t.start :: p.marks, step := .blockMappingKey }).blockMappingKey
  | .blockMappingKey => p.blockMappingKey
  | .blockMappingValue =>
    let (t, p) ← p.peekToken
    if t.kind.sort == .value then
      let (t, p) ← p.nextToken
      p.entryNode t [.key, .value, .blockEnd] .blockMappingKey true true
    else pure (emptyScalar t.start, { p with step := .blockMappingKey })
  | .flowSequenceFirstEntry =>
    let (t, p) ← p.nextToken
    ({ p with marks := t.start :: p.marks }).flowSequenceEntry true
  | .flowSequenceEntry => p.flowSequenceEntry false
  | .flowSequenceEntryMappingKey =>
    let (t, p) ← p.nextToken
    p.entryNode t [.value, .flowEntry, .flowSequenceEnd] .flowSequenceEntryMappingValue false false
  | .flowSequenceEntryMappingValue =>
    let (t, p) ← p.peekToken
    if t.kind.sort == .value then
      let (t, p) ← p.nextToken
      p.entryNode t [.flowEntry, .flowSequenceEnd] .flowSequenceEntryMappingEnd false false
    else pure (emptyScalar t.start, { p with step := .flowSequenceEntryMappingEnd })
  | .flowSequenceEntryMappingEnd =>
    let (t, p) ← p.peekToken
    pure ({ kind := .mappingEnd, start := t.start, stop := t.start },
      { p with step := .flowSequenceEntry })
  | .flowMappingFirstKey =>
    let (t, p) ← p.nextToken
    ({ p with marks := t.start :: p.marks }).flowMappingKey true
  | .flowMappingKey => p.flowMappingKey false
  | .flowMappingValue =>
    let (t, p) ← p.peekToken
    if t.kind.sort == .value then
      let (t, p) ← p.nextToken
      p.entryNode t [.flowEntry, .flowMappingEnd] .flowMappingKey false false
    else pure (emptyScalar t.start, { p with step := .flowMappingKey })
  | .flowMappingEmptyValue =>
    let (t, p) ← p.peekToken
    pure (emptyScalar t.start, { p with step := .flowMappingKey })

/-- The next event, not taken. -/
def peek (p : Parser) : Except Failure (Event × Parser) :=
  match p.current with
  | some e => .ok (e, p)
  | none =>
    match p.produce with
    | .ok (e, p) => .ok (e, { p with current := some e })
    | .error f => .error f

/-- The next event, taken. -/
def next (p : Parser) : Except Failure (Event × Parser) := do
  let (e, p) ← p.peek
  pure (e, { p with current := none })

end Parser

end Citations.Yaml
