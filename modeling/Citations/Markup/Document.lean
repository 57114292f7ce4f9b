import Citations.Markup.Token
import Citations.Markup.Reference
import Citations.Fault

/-! # The text of a marked-up document

The tokens of a text build a tree of elements whose leaves are strings; the text of the
document is its visible strings in order. It is the markup reader that the executable hands to
the RIS export (`Style.Ris.sanitize`), which trims what it reads.

* Character data gathers until the next tag, comment or declaration, and becomes one string.
  A string of ASCII blanks only becomes one line feed if it holds one, else one space, unless
  it lies inside `pre` or `textarea`.
* Strings inside `rt`, `rp`, `script`, `style` or `template` are not visible. Comments,
  declarations and processing instructions are not either; a `CDATA` section is, wherever it
  stands.
* An end tag closes the most recent open element of its name and all opened after it; with no
  open element of that name it is ignored. Void elements such as `br` close at once, and the
  first later end tag of the same name is ignored.

* `Document.ofTokens`: the tree's strings, built token by token.
* `plainText`: the text of a document, or the failure of its markup.
-/

namespace Citations.Markup

open Citations.Text

/-- Elements whose strings are not visible text. -/
def hiddenElements : List String := ["rt", "rp", "style", "script", "template"]

/-- Elements that keep their blanks as they are. -/
def preformattedElements : List String := ["pre", "textarea"]

/-- Elements that have no content and close where they open. -/
def voidElements : List String :=
  ["area", "base", "br", "col", "embed", "hr", "img", "input", "keygen", "link", "menuitem",
   "meta", "param", "source", "track", "wbr", "basefont", "bgsound", "command", "frame", "image",
   "isindex", "nextid", "spacer"]

/-- A blank of ASCII: space, line feed, tab, form feed or carriage return. -/
def isAsciiBlank (c : Char) : Bool :=
  c = ' ' || c = '\n' || c = '\t' || c = '\x0c' || c = '\r'

/-- A string as the tree keeps it: when `keep` is false a string of ASCII blanks only becomes a
line feed if it holds one, and a space otherwise. -/
def settle (keep : Bool) (cs : List Char) : List Char :=
  if !keep && cs.all isAsciiBlank then (if cs.contains '\n' then ['\n'] else [' ']) else cs

/-- A document being built: the open elements, innermost first; the void elements whose next
end tag is ignored; the character data not yet made a string; and the visible strings so far,
last first. -/
structure Document where
  openElements : List String := []
  closedVoid : List String := []
  pending : List Char := []
  strings : List (List Char) := []

namespace Document

/-- Strings at this point lie inside preformatted text. -/
def preformatted (d : Document) : Bool :=
  d.openElements.any (preformattedElements.contains ·)

/-- Strings at this point are visible. -/
def visible (d : Document) : Bool :=
  !d.openElements.any (hiddenElements.contains ·)

/-- Makes the gathered character data a string. -/
def flush (d : Document) : Document :=
  if d.pending.isEmpty then d
  else
    let s := settle d.preformatted d.pending
    { d with pending := [], strings := if d.visible then s :: d.strings else d.strings }

/-- Closes the most recent open element of a name, with all opened after it. -/
def closeElement (name : String) (open_ : List String) : List String :=
  if open_.contains name then (open_.dropWhile (· != name)).drop 1 else open_

/-- An end tag: ignored once after a void element of its name, else it closes the element. -/
def endTag (d : Document) (name : String) : Document :=
  if d.closedVoid.contains name then { d with closedVoid := d.closedVoid.erase name }
  else
    let d := d.flush
    { d with openElements := closeElement name d.openElements }

/-- A marked section: a `CDATA` section is a visible string, any other is not text. -/
def markedSection (d : Document) (body : List Char) : Document :=
  let d := d.flush
  if (upperChars body).take 6 = "CDATA[".toList then
    { d with strings := settle d.preformatted (body.drop 6) :: d.strings }
  else d

/-- The document after one token. -/
def push (d : Document) : Token → Document
  | .text s => { d with pending := d.pending ++ s }
  | .charRef digits => { d with pending := d.pending ++ [referenceChar (referenceNumber digits)] }
  | .entityRef name =>
    { d with pending := d.pending ++ ((namedReference? (String.ofList name)).getD ('&' :: name)) }
  | .start name =>
    let d := d.flush
    if voidElements.contains name then { d with closedVoid := d.closedVoid ++ [name] }
    else { d with openElements := name :: d.openElements }
  | .empty name =>
    let d := d.flush
    endTag { d with openElements := name :: d.openElements } name
  | .close name => d.endTag name
  | .aside => d.flush
  | .section body => d.markedSection body

/-- The longest decimal number that a numeric reference may have. -/
def digitLimit : Nat := 4300

/-- The tree's strings, built token by token; a numeric reference with more decimal digits
than the limit stops the building. -/
def ofTokens : List Token → Document → Except Fault Document
  | [], d => .ok d.flush
  | t :: ts, d =>
    match t with
    | .charRef digits =>
      if digits.head? != some 'x' && digits.head? != some 'X' && digits.length > digitLimit then
        .error (.digitLimit digits.length)
      else ofTokens ts (d.push t)
    | _ => ofTokens ts (d.push t)

/-- The visible text of a document, in order. -/
def text (d : Document) : String := String.ofList (d.strings.reverse.flatten)

end Document

/-- The text of a marked-up document, or the failure of its markup: the first of a number too
long to read and a construct the reader gives up on. -/
def plainText (s : String) : Except Fault String :=
  let (tokens, failure) := Token.scan s.toList
  match Document.ofTokens tokens {} with
  | .error f => .error f
  | .ok d =>
    match failure with
    | some reason => .error (.rejectedMarkup reason)
    | none => .ok d.text

end Citations.Markup
