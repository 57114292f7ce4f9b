import Citations.Citation.Basic
import Citations.Citation.Fields
import Citations.Style.Names
import Citations.Text.Cleaning
import Citations.Text.Punctuation
import Citations.Text.Titles
import Citations.Data.Literal

/-! # APA citations

Author and date first: `Smith, J. P., & Doe, J. (2014). Title in sentence case. Publisher.`

* creators abbreviated and joined with `, &amp; `; editors standing in for authors are marked
  `(Ed.)` or `(Eds.)`;
* the year in parentheses, with month and day for an article;
* the title in sentence case, in italics unless it is an article;
* an article's editors after the title; the journal in title case and italics; the edition in
  parentheses; volume, issue in parentheses, pages and publisher; and the link after
  `Retrieved from`.
-/

namespace Citations.Style.Apa

open Citations.Text

/-- The conjunction before the last creator. -/
def ampersand : String := ", &amp; "

/-- APA's build options: the publisher's place beside its name, and page markers for
newspaper articles. -/
def options (fields : Fields) : BuildOptions :=
  { publisherPlace := true, pagesPrefix := firstValue (fields.get "format") == "news" }

/-- The date in parentheses: the year, and for an article the month and day. -/
def dateText (c : Citation) : String :=
  let date := intText c.year
  if c.isArticle && c.month != 0 then
    let date := date ++ ", " ++ monthName c.month
    if c.day != 0 then date ++ " " ++ intText c.day else date
  else date

/-- The APA citation of an item. -/
def format (c : Citation) : Except Fault String := do
  let (creators, asEditors) := leadingCreators c.authors c.editors c.publisher
  let mut result := ""
  if !creators.isEmpty then
    result := truncatedNameList (← creators.mapM initialsOf) ampersand
    if asEditors then
      result := result ++ (if creators.length > 1 then " (Eds.)." else " (Ed.).")
  if c.year != 0 then
    result := ensureSpace result ++ "(" ++ dateText c ++ ")."
  else
    result := ensurePeriod result
  if !c.title.isEmpty then
    let title := sentenceCase (cleanEndPunctuation c.title)
    result := ensureSpace result ++ (if c.isArticle then title else italicize title)
  if c.isArticle && !c.editors.isEmpty && !asEditors then
    let names := truncatedNameList (← c.editors.mapM initialsOf) ampersand
    let suffix := if c.editors.length > 1 then " (Eds.)" else " (Ed.)"
    result := ensureSpace (ensurePeriod result) ++ names ++ suffix
  if !c.journal.isEmpty then
    result := appendFragment result (italicize (titleCase c.journal)) "."
  if !c.edition.isEmpty then
    result := ensureSpace result ++ "(" ++ c.edition ++ ")."
  else if c.journal.isEmpty then
    result := ensurePeriod result
  result := appendFragment result c.volume
  if !c.issue.isEmpty then
    if c.volume.isEmpty then
      result := ensureSpace result
    result := result ++ "(" ++ c.issue ++ ")"
  result := appendFragment result c.pages
  result := ensurePeriod (appendFragment result c.publisher)
  if !c.link.isEmpty then
    result := ensureSpace result ++ "Retrieved from " ++ c.link
  return result

end Citations.Style.Apa
