import Citations.Citation.Basic
import Citations.Style.Names
import Citations.Text.Cleaning
import Citations.Text.Punctuation
import Citations.Text.Titles
import Citations.Data.Literal

/-! # MLA citations

Creators, title, container and the facts of publication, joined by commas:
`Smith, John, and Jane Doe. "An Article." Journal, vol. 3, no. 2, 2014, pp. 45 - 67.`

* the first creator as given, the others in reading order, joined with `, and `; editors
  standing in for authors are marked `editor` or `editors`;
* the title quoted for a contained work, in italics otherwise, closed by a period;
* the journal in italics; then edition, the editors as `edited by`, publisher, volume, issue,
  date, pages and link.
-/

namespace Citations.Style.Mla

open Citations.Text

/-- The conjunction before the last creator. -/
def conjunction : String := ", and "

/-- MLA's build options: the link text without its scheme, and `vol.`, `no.` and page markers
put in. -/
def options : BuildOptions :=
  { stripProtocol := true, volumePrefix := true, issuePrefix := true, pagesPrefix := true }

/-- The title quoted for a contained work and in italics otherwise, ending with a period; the
quoted form keeps the period inside its quotes. -/
def citationTitle (c : Citation) : String :=
  if c.isArticle then quoteTitle c.title "."
  else italicize (stripSinglePeriod (titleCase c.title)) ++ "."

/-- The year; for an article with a month, the short month and year, after the day if known. -/
def citationDate (c : Citation) : String :=
  if c.year = 0 then ""
  else if c.isArticle && c.month != 0 then
    let month := shortMonthName c.month
    if c.day != 0 then intText c.day ++ " " ++ month ++ " " ++ intText c.year
    else month ++ " " ++ intText c.year
  else intText c.year

/-- The MLA citation of an item. -/
def format (c : Citation) : Except Fault String := do
  let (creators, asEditors) := leadingCreators c.authors c.editors c.publisher
  let mut result := ""
  match creators with
  | [] => pure ()
  | first :: others =>
    let names := capitalizeFirst first :: (← others.mapM orderName)
    result := cleanEndPunctuation (truncatedNameList names conjunction)
    if asEditors then
      result := result ++ (if creators.length > 1 then ", editors" else ", editor")
    result := ensurePeriod result
  if !c.title.isEmpty then
    result := ensureSpace result ++ citationTitle c
  if !c.journal.isEmpty then
    result := ensureSpace result ++ italicize (titleCase c.journal)
  result := appendFragment result c.edition
  if !c.editors.isEmpty && !asEditors then
    let names ← c.editors.mapM orderName
    result := appendFragment result ("edited by " ++ truncatedNameList names conjunction)
  result := appendFragment result c.publisher
  result := appendFragment result c.volume
  result := appendFragment result c.issue
  result := appendFragment result (citationDate c)
  result := appendFragment result c.pages
  result := appendFragment result c.link
  return ensurePeriod result

end Citations.Style.Mla
