import Citations.Citation.Basic
import Citations.Style.Names
import Citations.Style.Mla
import Citations.Text.Cleaning
import Citations.Text.Punctuation
import Citations.Text.Titles
import Citations.Unicode.Properties

/-! # Chicago citations

`Smith, John, and Jane Doe. "An Article." Edited by Ann Roe. Journal, vol. 3, 2014: 45 - 67.`

The leading creators are the authors other than the publisher, compilers and translators; when
there are none, the first of the editors, compilers and translators that has names, marked with
its role (`, ed`, `, comps`, …). A role credited there gets no sentence of its own; every other
role with names gets one after the title: `Edited by …`, `Compiled by …`, `Translated by …`.

* `joinedNames`: names in reading order, `A`, `A and B` or `A, B, and C`.
* `placeFirstPublisher`: `Place: Name` when both are known and neither contains the other.
* Pages follow a colon, after a comma when the text before them ends with a digit.
-/

namespace Citations.Style.Chicago

open Citations.Text Citations.Unicode

/-- The roles that contributors other than authors may have. -/
inductive Role where
  | editor
  | compiler
  | translator
  deriving DecidableEq

/-- The roles in the order in which they are considered and credited. -/
def roles : List Role := [.editor, .compiler, .translator]

/-- The suffix that marks leading creators of a role, for one name and for several. -/
def Role.suffix : Role → String × String
  | .editor => (", ed", ", eds")
  | .compiler => (", comp", ", comps")
  | .translator => (", trans", ", trans")

/-- The verb of a role's sentence. -/
def Role.action : Role → String
  | .editor => "Edited"
  | .compiler => "Compiled"
  | .translator => "Translated"

/-- The names of a role in a citation. -/
def Role.names (c : Citation) : Role → List String
  | .editor => c.editors
  | .compiler => c.compilers
  | .translator => c.translators

/-- Chicago's build options: the link text without its scheme, `vol.`, `no.` and page markers
put in, and the publisher's place beside its name. -/
def options : BuildOptions :=
  { stripProtocol := true, volumePrefix := true, issuePrefix := true, pagesPrefix := true,
    publisherPlace := true }

/-- Names in reading order: `A`, `A and B`, or `A, B, and C`. -/
def joinedNames (names : List String) : Except Fault String := do
  let ordered ← names.mapM orderName
  if ordered.length < 3 then return " and ".intercalate ordered
  else return ", ".intercalate ordered.dropLast ++ ", and " ++ ordered.getLastD ""

/-- The publisher as `Place: Name` when both are known and neither contains the other;
otherwise the publisher of the citation. -/
def placeFirstPublisher (c : Citation) : String :=
  let name := c.publisherName
  let place := c.publisherPlace
  if !name.isEmpty && !place.isEmpty && !containsText place name && !containsText name place then
    place ++ ": " ++ name
  else c.publisher

/-- The leading creators and the role they are credited in, if any. -/
def leadingCreators (c : Citation) : List String × Option Role :=
  let creators := withoutNames c.authors (c.publisher :: c.compilers ++ c.translators)
  if !creators.isEmpty then
    (creators, roles.find? (fun r => !(r.names c).isEmpty && (withoutNames creators (r.names c)).isEmpty))
  else
    match roles.find? (fun r => !(r.names c).isEmpty) with
    | some r => (r.names c, some r)
    | none => ([], none)

/-- The text ends with a decimal digit, possibly followed by one final line feed. -/
def endsWithDigit (s : String) : Bool :=
  match s.toList.reverse with
  | '\n' :: d :: _ => isDecimal d
  | d :: _ => isDecimal d
  | [] => false

/-- Pages joined to the citation: after a comma when it ends with a digit, after a colon
unless it ends with a space, period, comma or colon, and after a space. -/
def appendPages (result pages : String) : String :=
  if pages.isEmpty then result
  else if result.isEmpty then pages
  else
    let r := if endsWithDigit result then result ++ "," else result
    let r := if [" ", ".", ",", ":"].any (endsWith r) then r else r ++ ":"
    ensureSpace r ++ pages

/-- The Chicago citation of an item. -/
def format (c : Citation) : Except Fault String := do
  let (creators, role) := leadingCreators c
  let mut result := ""
  if !creators.isEmpty then
    let mut lead ← leadingNameList creators
    if let some r := role then
      lead := lead ++ (if creators.length > 1 then r.suffix.2 else r.suffix.1)
    result := ensurePeriod (cleanEndPunctuation lead)
  if !c.title.isEmpty then
    result := ensureSpace result ++ Mla.citationTitle c
  for r in roles do
    let people := r.names c
    if role != some r && !people.isEmpty then
      result := ensureSpace result ++ r.action ++ " by " ++ (← joinedNames people) ++ "."
  if !c.journal.isEmpty then
    result := ensureSpace result ++ italicize (titleCase c.journal)
  result := appendFragment result c.edition
  result := appendFragment result c.volume
  result := appendFragment result c.issue
  result := appendFragment result (placeFirstPublisher c) "."
  result := appendFragment result (Mla.citationDate c)
  result := appendPages result c.pages
  result := appendFragment result c.link
  return ensurePeriod result

end Citations.Style.Chicago
