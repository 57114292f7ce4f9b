import Citations.Unicode.Properties
import Citations.Text.Basic
import Citations.Text.Case
import Citations.Data.Literal

/-! # Tokens of markup

The markup reader that text values go through before export cuts a text into tokens: character
data, start and end tags, comments, declarations, processing instructions, marked sections, and
character references by number or by name.

The text is read in two passes, as a reader does that is given all of it and then told that
it has ended. The first pass stops before the first construct that could still be completed by
more input (an unclosed tag, a reference without its terminator); the second reads on from
there knowing that nothing follows, and turns what it cannot read into character data. Inside
`script` and `style` everything up to the element's end tag is character data, and with no end
tag the rest is dropped.

A marked section with an unknown keyword, or without a keyword, makes the reader give up:
`Token.scan` then gives the tokens read before it, and the reason.

* `Token.scan`: the tokens of a text, and the reason the reader gave up, if it did.
-/

namespace Citations.Markup

open Citations.Unicode Citations.Text

/-- A token of markup. -/
inductive Token where
  /-- character data -/
  | text (s : List Char)
  /-- a start tag, its name in lower case -/
  | start (name : String)
  /-- a start tag closed by `/>` -/
  | empty (name : String)
  /-- an end tag, its name in lower case -/
  | close (name : String)
  /-- a comment, a declaration or a processing instruction: nothing of the text -/
  | aside
  /-- a marked section, with what stands between its brackets -/
  | section (s : List Char)
  /-- a character reference by number: `65`, `x41` -/
  | charRef (name : List Char)
  /-- a character reference by name -/
  | entityRef (name : List Char)

/-- An ASCII letter. -/
def isAsciiLetter (c : Char) : Bool := ('a' ≤ c && c ≤ 'z') || ('A' ≤ c && c ≤ 'Z')

/-- An ASCII digit. -/
def isAsciiDigit (c : Char) : Bool := '0' ≤ c && c ≤ '9'

/-- An ASCII hexadecimal digit. -/
def isHexDigit (c : Char) : Bool := isAsciiDigit c || ('a' ≤ c && c ≤ 'f') || ('A' ≤ c && c ≤ 'F')

/-- The index of the first character satisfying `p`, if any. -/
def findIndex? (p : Char → Bool) (cs : List Char) : Option Nat := cs.findIdx? p

/-- A character of a tag name after its first letter. -/
def isTagNameChar (c : Char) : Bool :=
  !(c = '\t' || c = '\n' || c = '\r' || c = '\x0c' || c = ' ' || c = '/' || c = '>' || c = '\x00')

/-- The length of blanks and of slashes not followed by `>`, at the start. -/
def separatorLength : List Char → Nat
  | c :: rest =>
    if isBlank c then separatorLength rest + 1
    else if c = '/' && rest.head? != some '>' then separatorLength rest + 1
    else 0
  | [] => 0

/-- The length of a value after `=` in a tag: a quoted value up to its closing quote, or a bare
value up to `>` or a blank; none for a quote that is never closed. -/
def valueLength? : List Char → Option Nat
  | '\'' :: rest => (findIndex? (· = '\'') rest).map (· + 2)
  | '"' :: rest => (findIndex? (· = '"') rest).map (· + 2)
  | cs => some (cs.takeWhile (fun c => c != '>' && !isBlank c)).length

/-- The length of an attribute's value part at the start: blanks, a run of `=`, blanks and a
value. The matcher prefers the longest run of `=` and of blanks before the value, and gives
them back one at a time when the value cannot be read. -/
def assignmentLength? (cs : List Char) : Option Nat :=
  let w1 := (cs.takeWhile isBlank).length
  let afterWs := cs.drop w1
  let eqs := (afterWs.takeWhile (· = '=')).length
  if eqs = 0 then none
  else
    (List.range eqs).reverse.findSome? fun e0 =>
      let e := e0 + 1
      let afterEq := afterWs.drop e
      let w2 := (afterEq.takeWhile isBlank).length
      (List.range (w2 + 1)).reverse.findSome? fun w =>
        (valueLength? (afterEq.drop w)).map (fun v => w1 + e + w + v)

/-- The length of one attribute at the start of `cs`, with the separators after it; `prev` is
the character before. An attribute follows a quote, a blank or a slash. -/
def attributeLength? (prev : Option Char) (cs : List Char) : Option Nat :=
  if !(prev.any (fun c => c = '\'' || c = '"' || c = '/' || isBlank c)) then none
  else
    match cs with
    | c :: rest =>
      if isBlank c || c = '/' || c = '>' then none
      else
        let name := 1 + (rest.takeWhile (fun c => !isBlank c && c != '/' && c != '=' && c != '>')).length
        let withValue := name + ((assignmentLength? (cs.drop name)).getD 0)
        some (withValue + separatorLength (cs.drop withValue))
    | [] => none

/-- The length of the attributes from the start of `cs` on, attribute after attribute. -/
def attributesLength (prev : Option Char) (cs : List Char) : Nat → Nat
  | 0 => 0
  | fuel + 1 =>
    match attributeLength? prev cs with
    | some n =>
      if n = 0 then 0
      else n + attributesLength ((cs.take n).getLast?) (cs.drop n) fuel
    | none => 0

/-- The length of a tag's name at the start of `cs` after `<`: a letter and name characters. -/
def tagNameLength (cs : List Char) : Nat :=
  match cs with
  | c :: rest => if isAsciiLetter c then 1 + (rest.takeWhile isTagNameChar).length else 0
  | [] => 0

/-- Where a start tag's scan ends, from `<` on: its name, blanks and slashes, attributes, and
blanks. -/
def startTagScanLength (cs : List Char) : Nat :=
  let n := 1 + tagNameLength (cs.drop 1)
  let s := ((cs.drop n).takeWhile (fun c => isBlank c || c = '/')).length
  let p := n + s
  let a := attributesLength ((cs.take p).getLast?) (cs.drop p) (cs.length + 1)
  let q := p + a
  q + ((cs.drop q).takeWhile isBlank).length

/-- The end of a start tag from `<` on, or none when more input could still complete it. -/
def startTagEnd? (cs : List Char) : Option Nat :=
  let j := startTagScanLength cs
  match cs.drop j with
  | '>' :: _ => some (j + 1)
  | '/' :: '>' :: _ => some (j + 2)
  | '/' :: _ => none
  | [] => none
  | c :: _ => if isAsciiLetter c || c = '=' then none else some j

/-- The characters of a name in lower case. -/
def lowerName (cs : List Char) : String := Text.lower (String.ofList cs)

/-- The elements whose content is character data up to their end tag. -/
def rawTextElements : List String := ["script", "style"]

/-- What a step of the reader found: tokens, how far it got, the element whose content is now
being read as character data, and whether the pass stops after the step. -/
structure Step where
  tokens : List Token
  used : Nat
  rawIn : Option String := none
  halt : Bool := false

/-- A start tag at the start of `cs`, or none when it is not complete. -/
def readStartTag (cs : List Char) : Option Step := do
  let endpos ← startTagEnd? cs
  let nameLen := tagNameLength (cs.drop 1)
  let name := lowerName ((cs.drop 1).take nameLen)
  let k := 1 + nameLen + separatorLength (cs.drop (1 + nameLen))
  let k := k + attributesLength ((cs.take k).getLast?) (cs.drop k) (cs.length + 1)
  let rest := String.ofList (trimChars ((cs.take endpos).drop k))
  if rest = ">" then
    some ⟨[.start name], endpos, if rawTextElements.contains name then some name else none, false⟩
  else if rest = "/>" then some ⟨[.empty name], endpos, none, false⟩
  else some ⟨[.text (cs.take endpos)], endpos, none, false⟩

/-- An end tag `</ name >` at the start: its name. -/
def endTagName? (cs : List Char) : Option (List Char) :=
  match cs with
  | '<' :: '/' :: rest =>
    match rest.dropWhile isBlank with
    | c :: more =>
      if isAsciiLetter c then
        let name := c :: more.takeWhile (fun d => isAsciiLetter d || isAsciiDigit d ||
          d = '-' || d = '.' || d = ':' || d = '_')
        match (more.drop (name.length - 1)).dropWhile isBlank with
        | '>' :: _ => some name
        | _ => none
      else none
    | [] => none
  | _ => none

/-- The position after the first `>` at or after position `start`. -/
def closingAngle? (cs : List Char) (start : Nat) : Option Nat :=
  (findIndex? (· = '>') (cs.drop start)).map (· + start + 1)

/-- A comment or declaration that reaches to its first `>` after position 2. -/
def readBogusComment (cs : List Char) : Option Step :=
  (closingAngle? cs 2).map fun e => ⟨[.aside], e, none, false⟩

/-- An end tag at the start, inside the content of `rawIn` if given. Inside such content only
the element's own end tag counts; anything else that looks like an end tag is character data. -/
def readEndTag (cs : List Char) (rawIn : Option String) : Option Step := do
  let gtpos ← closingAngle? cs 1
  match endTagName? cs with
  | some name =>
    let elem := lowerName name
    match rawIn with
    | some r =>
      if elem != r then some ⟨[.text (cs.take gtpos)], gtpos, rawIn, false⟩
      else some ⟨[.close elem], gtpos, none, false⟩
    | none => some ⟨[.close elem], gtpos, none, false⟩
  | none =>
    if rawIn.isSome then some ⟨[.text (cs.take gtpos)], gtpos, rawIn, false⟩
    else
      let nameLen := tagNameLength (cs.drop 2)
      if nameLen = 0 then
        if cs.take 3 = ['<', '/', '>'] then some ⟨[], 3, none, false⟩ else readBogusComment cs
      else
        -- what stands between the name and the next `>` is ignored
        let name := lowerName ((cs.drop 2).take nameLen)
        let afterName := 2 + nameLen + separatorLength (cs.drop (2 + nameLen))
        some ⟨[.close name], (closingAngle? cs afterName).getD cs.length, none, false⟩

/-- The length of a comment's body and closing `--`, blanks and `>`, from after `<!--`. -/
def commentLength? : List Char → Option Nat
  | '-' :: '-' :: rest =>
    match rest.dropWhile isBlank with
    | '>' :: _ => some (2 + (rest.takeWhile isBlank).length + 1)
    | _ => (commentLength? ('-' :: rest)).map (· + 1)
  | _ :: rest => (commentLength? rest).map (· + 1)
  | [] => none

/-- A comment `<!-- … -->`, closed by `--`, blanks and `>`. -/
def readComment (cs : List Char) : Option Step :=
  (commentLength? (cs.drop 4)).map fun n => ⟨[.aside], 4 + n, none, false⟩

/-- The length of a closing bracket sequence at the start: `]`, blanks, (`]` and blanks, when
`twice`) and `>`. -/
def sectionCloseLength? (twice : Bool) : List Char → Option Nat
  | ']' :: rest =>
    let w1 := (rest.takeWhile isBlank).length
    if twice then
      match rest.drop w1 with
      | ']' :: r2 =>
        match r2.dropWhile isBlank with
        | '>' :: _ => some (1 + w1 + 1 + (r2.takeWhile isBlank).length + 1)
        | _ => none
      | _ => none
    else
      match rest.drop w1 with
      | '>' :: _ => some (1 + w1 + 1)
      | _ => none
  | _ => none

/-- The first closing bracket sequence: where it starts and how long it is. -/
def sectionClose? (twice : Bool) : List Char → Option (Nat × Nat)
  | [] => none
  | c :: rest =>
    match sectionCloseLength? twice (c :: rest) with
    | some n => some (0, n)
    | none => (sectionClose? twice rest).map fun (i, n) => (i + 1, n)

/-- A marked section `<![keyword[ … ]]>`: a step, none when more input could complete it, or
the reason the reader gives up (a missing or unknown keyword). -/
def readMarkedSection (cs : List Char) : Except String (Option Step) :=
  let body := cs.drop 3
  match body with
  | [] => .ok none
  | c :: rest =>
    if !isAsciiLetter c then
      .error ("expected name token at " ++ quoteText (String.ofList (cs.take 20)))
    else
      let nameRun := c :: rest.takeWhile (fun d => isAsciiLetter d || isAsciiDigit d ||
        d = '-' || d = '_' || d = '.')
      let j := nameRun.length + ((body.drop nameRun.length).takeWhile isBlank).length
      if j = body.length then .ok none
      else
        let keyword := lowerName nameRun
        let twice? : Option Bool :=
          if ["temp", "cdata", "ignore", "include", "rcdata"].contains keyword then some true
          else if ["if", "else", "endif"].contains keyword then some false
          else none
        match twice? with
        | none =>
          .error ("unknown status keyword " ++ quoteText (String.ofList (body.take j)) ++
            " in marked section")
        | some twice =>
          .ok ((sectionClose? twice body).map fun (start, len) =>
            ⟨[.section (body.take start)], 3 + start + len, none, false⟩)

/-- A declaration `<!…>`: a marked section, a document type, or a bogus comment. -/
def readDeclaration (cs : List Char) : Except String (Option Step) :=
  if cs.take 3 = ['<', '!', '['] then readMarkedSection cs
  else if lowerChars (cs.take 9) = "<!doctype".toList then
    .ok ((closingAngle? cs 9).map fun e => ⟨[.aside], e, none, false⟩)
  else .ok (readBogusComment cs)

/-- A numeric character reference `&#…` and the character after it, which is read too only
when it is `;`: the digits and how far the reference reaches. -/
def charRef? (cs : List Char) : Option (List Char × Nat) :=
  match cs with
  | '&' :: '#' :: rest =>
    let decimal := rest.takeWhile isAsciiDigit
    if !decimal.isEmpty then
      match rest.drop decimal.length with
      | t :: _ =>
        if isHexDigit t then none
        else some (decimal, 2 + decimal.length + (if t = ';' then 1 else 0))
      | [] => none
    else
      match rest with
      | x :: more =>
        if x = 'x' || x = 'X' then
          let hex := more.takeWhile isHexDigit
          if hex.isEmpty then none
          else
            match more.drop hex.length with
            | t :: _ => some (x :: hex, 3 + hex.length + (if t = ';' then 1 else 0))
            | [] => none
        else none
      | [] => none
  | _ => none

/-- A character of a reference's name after its first letter. -/
def isRefNameChar (c : Char) : Bool := isAsciiLetter c || isAsciiDigit c || c = '-' || c = '.'

/-- A named character reference `&name` and the character after it, which is read too only when
it is `;`: the name and how far the reference reaches. The name is the longest one followed by
a character other than a letter or digit; at the end of the text it gives back characters up
to a `-` or `.`. -/
def entityRef? (cs : List Char) : Option (List Char × Nat) :=
  match cs with
  | '&' :: c :: rest =>
    if !isAsciiLetter c then none
    else
      let run := c :: rest.takeWhile isRefNameChar
      let reach (name : List Char) (t : Char) : List Char × Nat :=
        (name, 1 + name.length + (if t = ';' then 1 else 0))
      match (c :: rest).drop run.length with
      | t :: _ => some (reach run t)
      | [] =>
        match (List.range run.length).reverse.find? (fun k =>
            k ≥ 1 && (run.getD k 'a' = '-' || run.getD k 'a' = '.')) with
        | some k => some (reach (run.take k) (run.getD k '-'))
        | none => none
  | _ => none

/-- The rest of `cs` after a caseless match of `pat` at its start. -/
def caselessPrefix? : List Char → List Char → Option (List Char)
  | [], cs => some cs
  | _ :: _, [] => none
  | p :: ps, c :: cs => if caselessMatch p c then caselessPrefix? ps cs else none

/-- An end tag of the element at the start: `</`, blanks, the name in any case, blanks, `>`. -/
def isRawTextEnd (name : List Char) : List Char → Bool
  | '<' :: '/' :: more =>
    match caselessPrefix? name (more.dropWhile isBlank) with
    | some after =>
      match after.dropWhile isBlank with
      | '>' :: _ => true
      | _ => false
    | none => false
  | _ => false

/-- Where the content of a raw text element ends: at the first end tag of the element. -/
def rawTextEnd? (name : List Char) : List Char → Option Nat
  | [] => none
  | c :: rest =>
    if isRawTextEnd name (c :: rest) then some 0 else (rawTextEnd? name rest).map (· + 1)

/-- What the reader does at markup (`<` or `&`) at the start of `cs`: a step, none when the
pass must stop here, or the reason it gives up. At the end of the input a construct that is
not complete is character data up to the next `>`, or else up to the next `<`. -/
def readMarkup (cs : List Char) (rawIn : Option String) (atEnd : Bool) :
    Except String (Option Step) :=
  match cs with
  | '<' :: rest =>
    let attempt : Except String (Option Step) :=
      match rest with
      | c :: more =>
        if isAsciiLetter c then .ok (readStartTag cs)
        else if c = '/' then .ok (readEndTag cs rawIn)
        else if more.take 2 = ['-', '-'] && c = '!' then .ok (readComment cs)
        else if c = '?' then .ok ((closingAngle? cs 2).map fun e => ⟨[.aside], e, none, false⟩)
        else if c = '!' then readDeclaration cs
        else .ok (some ⟨[.text ['<']], 1, rawIn, false⟩)
      | [] => .ok none
    match attempt with
    | .ok none =>
      if rest.isEmpty || !atEnd then .ok none
      else
        let k := match closingAngle? cs 1 with
          | some e => e
          | none => ((findIndex? (· = '<') rest).map (· + 1)).getD 1
        .ok (some ⟨[.text (cs.take k)], k, rawIn, false⟩)
    | other => other
  | '&' :: '#' :: more =>
    match charRef? cs with
    | some (name, n) => .ok (some ⟨[.charRef name], n, rawIn, false⟩)
    | none =>
      -- with a `;` somewhere ahead the reader gives up on `&#` and stops
      if more.contains ';' then .ok (some ⟨[.text ['&', '#']], 2, rawIn, true⟩) else .ok none
  | '&' :: more =>
    match entityRef? cs with
    | some (name, n) => .ok (some ⟨[.entityRef name], n, rawIn, false⟩)
    | none =>
      match more with
      | [] => .ok none
      | c :: after =>
        if !isAsciiLetter c then .ok (some ⟨[.text ['&']], 1, rawIn, false⟩)
        -- a single letter after `&` at the end of the input: the `&` is dropped
        else if after.isEmpty && atEnd then .ok (some ⟨[], 1, rawIn, true⟩)
        else .ok none
  | _ => .ok none

/-- Where the character data at the start of `cs` ends: at the first `<` or `&`, or inside raw
text at the element's end tag; none inside raw text without one. -/
def dataEnd? (rawIn : Option String) (cs : List Char) : Option Nat :=
  match rawIn with
  | some elem => rawTextEnd? elem.toList cs
  | none => some ((findIndex? (fun c => c = '<' || c = '&') cs).getD cs.length)

/-- What a pass has read: its tokens, last first; the text it stopped at; the raw text element
it is inside; and the reason it gave up, if it did. -/
structure Pass where
  tokens : List Token
  rest : List Char
  rawIn : Option String
  failure : Option String := none

/-- A pass over the text, token after token, until it reaches the end, must stop, or gives up. -/
def Pass.run (atEnd : Bool) : Nat → Pass → Pass
  | 0, p => p
  | fuel + 1, p =>
    match dataEnd? p.rawIn p.rest with
    | none => p
    | some j =>
      let p : Pass :=
        if j = 0 then p else { p with tokens := .text (p.rest.take j) :: p.tokens, rest := p.rest.drop j }
      if p.rest.isEmpty then p
      else
        match readMarkup p.rest p.rawIn atEnd with
        | .error e => { p with failure := some e }
        | .ok none => p
        | .ok (some st) =>
          let p : Pass := ⟨st.tokens.reverse ++ p.tokens, p.rest.drop st.used, st.rawIn, none⟩
          if st.halt || st.used = 0 then p else Pass.run atEnd fuel p

/-- The tokens of a text in order, with the reason the reader gave up after them, if it did.
The first pass reads what it can; the second reads the rest knowing that the input has ended,
and what it leaves is character data, unless it is the content of a raw text element without
its end tag. -/
def Token.scan (s : List Char) : List Token × Option String :=
  let first := Pass.run false (s.length + 1) ⟨[], s, none, none⟩
  if first.failure.isSome then (first.tokens.reverse, first.failure)
  else
    let second := Pass.run true (first.rest.length + 1) first
    if second.failure.isSome then (second.tokens.reverse, second.failure)
    else
      let tail := if second.rest.isEmpty || second.rawIn.isSome then [] else [Token.text second.rest]
      (second.tokens.reverse ++ tail, none)

end Citations.Markup
