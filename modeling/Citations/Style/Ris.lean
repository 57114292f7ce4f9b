import Citations.Config
import Citations.Notice
import Citations.Citation.Fields
import Citations.Text.Cleaning
import Citations.Data.Literal

/-! # RIS records

A RIS record is a list of tagged lines, `TY  - JOUR`, each ended by a carriage return and a line
feed. It opens with the item's type, lists every other tag in sorted order, and closes with
`ER`. The record is built from the catalog fields, not from a citation: the configuration says
which fields go to which tags, in order, and which catalog format has which type.

* `tagValues`: the values of each tag, in the order the tags were first given, with a warning
  for each tag that is not two capital letters or digits.
* `mergeValues`: repeatable tags keep one line per value; links are joined with ` ; `, only the
  first library is kept, and other values are joined with commas.
* `cleanValue`: each line of a value (a literal backslash and `n` also breaks lines) is
  sanitized; empty lines are dropped, titles and similar fields have `*` written `#`, and names
  and keywords are cut to 255 characters.
* `sanitize`: typographic characters are replaced by plain ones, and markup is reduced to its
  text.
* `record`: the text of a record.

Markup is read by a `MarkupReader`, a parameter of `sanitize`, `cleanValue` and `record` and of
the service above them: what the record's text is follows from what the reader gives back for
each line that holds markup. The executable runs with `Markup.plainText`.
-/

namespace Citations

/-- A reader of markup: the text content of a document written in HTML, with its character
references decoded and nothing trimmed, or the fault that made it give up. -/
abbrev MarkupReader := String → Except Fault String

namespace Style.Ris

open Citations.Text

variable (read : MarkupReader)

/-- Typographic characters and their plain replacements, applied in this order. -/
def plainCharacters : List (String × String) :=
  [("►", ">"), ("▶", ">"), ("•", "*"), ("·", "*"), ("–", "-"), ("—", "--"), ("→", "->"),
   ("←", "<-"), ("↔", "<->"), ("⇒", "=>"), ("⇐", "<="), ("⇔", "<=>"), ("≤", "<="), ("≦", "<="),
   ("≥", ">="), ("≧", ">="), ("©", "(c)"), ("®", "(R)"), ("’", "'"), ("‘", "'"), ("‹", "'"),
   ("›", "'"), ("«", "\""), ("»", "\""), ("“", "\""), ("”", "\"")]

/-- Text with typographic characters replaced and markup reduced to its text, without blanks at
either end. Only text with `<` or `&` is read as markup. -/
def sanitize (text : String) : Except Fault String :=
  let plain := plainCharacters.foldl (fun t (c, r) => replace c r t) text
  if plain.toList.any (fun c => c = '<' || c = '&') then trim <$> read plain
  else .ok (trim plain)

/-- Tags whose values are names and keywords. -/
def authorTags : List String := ["AU", "A1"]

/-- Tags that take one line per value. -/
def repeatableTags : List String := ["AU", "A1", "A2", "A3", "A4", "ED", "KW", "N1"]

/-- Tags of titles, places and numbers, in which `*` is written `#`. -/
def noAsteriskTags : List String :=
  ["TI", "T1", "T2", "T3", "BT", "JO", "JF", "JA", "ST", "PB", "CY", "ET", "SE", "VL", "IS"]

/-- Tags whose lines are cut to the longest value. -/
def truncatedTags : List String := ["AU", "A1", "A2", "A3", "A4", "ED", "KW"]

/-- The longest value of a name or keyword. -/
def maxValueLength : Nat := 255

/-- The end of a line of a record. -/
def lineEnding : String := "\r\n"

/-- A value as its tag's lines: each line sanitized, empty lines dropped, `*` written `#` in
titles and similar fields, and names and keywords cut to the longest value. -/
def cleanValue (tag value : String) : Except Fault String := do
  let lines ← (splitOn "\n" (replace "\\n" "\n" value)).filterMapM fun line => do
    let line ← sanitize read line
    if line.isEmpty then return none
    let line := if noAsteriskTags.contains tag then replace "*" "#" line else line
    let line := if truncatedTags.contains tag then takeChars line maxValueLength else line
    return some line
  return lineEnding.intercalate lines

/-- The values of a tag as its lines: one per value for repeatable tags, links joined with
` ; ` (a comma would read as part of a link), only the first library, and other values joined
with commas. -/
def mergeValues (tag : String) (values : List String) : List String :=
  if repeatableTags.contains tag then values
  else if tag = "UR" then [" ; ".intercalate values]
  else if tag = "DP" then values.take 1
  else [", ".intercalate values]

/-- A tag of a record: two capital ASCII letters or digits; a final line feed after them is
also accepted. -/
def isTag (tag : String) : Bool :=
  let ok := fun c => ('A' ≤ c && c ≤ 'Z') || ('0' ≤ c && c ≤ '9')
  match tag.toList with
  | [a, b] => ok a && ok b
  | [a, b, '\n'] => ok a && ok b
  | _ => false

/-- Tags with their values, in the order the tags were first given, and the tags skipped. -/
structure TagValues where
  tags : List (String × List String) := []
  notices : List Notice := []

namespace TagValues

/-- Adds a value to a tag, in upper case; a tag that is no RIS tag is skipped with a warning. -/
def add (tv : TagValues) (tag value : String) : TagValues :=
  let tag := upper tag
  if !isTag tag then { tv with notices := tv.notices ++ [.skippedTag tag] }
  else if tv.tags.any (·.1 == tag) then
    { tv with tags := tv.tags.map fun (t, vs) => if t == tag then (t, vs ++ [value]) else (t, vs) }
  else { tv with tags := tv.tags ++ [(tag, [value])] }

end TagValues

/-- The values of each tag: the type of the item's format first, then the configured fields in
order, each nonblank value trimmed and, for author tags, marked with its field's role, then the
record's address as a note. -/
def tagValues (ris : RisConfig) (fields : Fields) (recordUrl : Option String) : TagValues :=
  let format := firstValue (fields.get "format")
  let itemType := ((ris.typeCodes.find? (·.1 == format)).map (·.2)).getD ris.defaultType
  let tv := TagValues.add {} "TY" itemType
  let tv := ris.fieldTags.foldl (fun tv (field, tags) =>
    tags.foldl (fun tv tag =>
      let suffix :=
        if authorTags.contains tag then
          ((ris.roleSuffixes.find? (·.1 == field)).map (·.2)).getD ""
        else ""
      (fields.get field).foldl (fun tv value =>
        if (trim value).isEmpty then tv else tv.add tag (trim value ++ suffix)) tv) tv) tv
  match recordUrl with
  | some url => if url.isEmpty then tv else tv.add "N1" url
  | none => tv

/-- One line of a record. -/
def line (tag value : String) : String := tag ++ "  - " ++ value ++ lineEnding

/-- Sorts tags by code point. -/
def sortTags (tags : List String) : List String := tags.mergeSort (fun a b => decide (a ≤ b))

/-- The text of a record: the type line, the other tags in sorted order with their merged and
cleaned values, and the closing line. -/
def record (tags : List (String × List String)) : Except Fault String := do
  let itemType := (((tags.find? (·.1 == "TY")).map (·.2)).getD ["GEN"]).headD ""
  let others := sortTags ((tags.map (·.1)).filter (fun t => t != "TY" && t != "ER"))
  let body ← others.flatMapM fun tag => do
    let values := ((tags.find? (·.1 == tag)).map (·.2)).getD []
    (mergeValues tag values).mapM fun v => do return line tag (← cleanValue read tag v)
  return line "TY" itemType ++ String.join body ++ line "ER" ""

end Style.Ris

end Citations
