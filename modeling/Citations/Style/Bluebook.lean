import Citations.Citation.Basic
import Citations.Style.Names
import Citations.Legal.Abbreviation
import Citations.Text.Titles
import Citations.Data.Literal

/-! # Bluebook citations

Legal citations take their shape from the item:

* a thesis (its source is one of the configured thesis sources, or its format is `thesis`):
  `Author, Title (Mon. d, yyyy) (Publisher).`;
* a book or government document, and any item of unknown format:
  `AUTHOR, TITLE (editors, translators, edition year).` in small capitals;
* a sound or video recording: `AUTHOR, TITLE (Publisher year).`, authors only for sound;
* an article in a law review (an academic journal or review whose title has a law keyword):
  `Author, Title, volume JOURNAL page (year).`; other articles:
  `Author, Title, volume JOURNAL, date, at page.`

Names are put in reading order and abbreviated with Tables 6 and 10; journal titles with
Tables 13, 6 and 10; months with Table 12.
-/

namespace Citations.Style.Bluebook

open Citations.Text Citations.Legal

/-- Bluebook's build options: the link text without its scheme. -/
def options : BuildOptions := { stripProtocol := true }

/-- A name in reading order, abbreviated. -/
def buildName (name : String) : Except Fault String := do
  return abbreviateName (← orderName name)

/-- Names as `A`, `A & B`, or `A et al.`. -/
def buildNames (names : List String) : Except Fault String :=
  match names with
  | [] => .ok ""
  | [a] => buildName a
  | [a, b] => do return (← buildName a) ++ " & " ++ (← buildName b)
  | a :: _ => do return (← buildName a) ++ " et al."

/-- Editors, marked `ed.` or `eds.`. -/
def buildEditors (names : List String) : Except Fault String := do
  if names.isEmpty then return ""
  return (← buildNames names) ++ (if names.length = 1 then " ed." else " eds.")

/-- Translators, marked `trans.`. -/
def buildTranslators (names : List String) : Except Fault String := do
  if names.isEmpty then return ""
  return (← buildNames names) ++ " trans."

/-- A law review is cited by its year alone. -/
def lawReviewDate (c : Citation) : String :=
  if c.year != 0 then intText c.year else ""

/-- The abbreviated name of a month, empty for none. -/
def monthAbbrev (c : Citation) : String := abbreviateMonth (monthName c.month)

/-- A newspaper's date: `Mon. d, yyyy`, or `Mon. yyyy`, or `yyyy`. -/
def newspaperDate (c : Citation) : String :=
  if c.year = 0 then ""
  else
    let month := monthAbbrev c
    if !month.isEmpty && c.day != 0 then month ++ " " ++ intText c.day ++ ", " ++ intText c.year
    else if !month.isEmpty then month ++ " " ++ intText c.year
    else intText c.year

/-- A magazine's date: `Mon. yyyy`, or `yyyy`. -/
def magazineDate (c : Citation) : String :=
  if c.year = 0 then ""
  else
    let month := monthAbbrev c
    if !month.isEmpty then month ++ " " ++ intText c.year else intText c.year

/-- The year as text, empty when unknown. -/
def yearText (c : Citation) : String := if c.year != 0 then intText c.year else ""

/-- A book, a government document, or an item of unknown format. -/
def bookCitation (c : Citation) : Except Fault String := do
  let authors ← buildNames c.authors
  let mut result := if authors.isEmpty then "" else smallCaps authors ++ ", "
  result := result ++ smallCaps c.title
  let yearPart := [c.edition, yearText c].filter (!·.isEmpty)
  let mut parenthetical := [← buildEditors c.editors, ← buildTranslators c.translators].filter
    (!·.isEmpty)
  if !yearPart.isEmpty then
    parenthetical := parenthetical ++ [" ".intercalate yearPart]
  if !parenthetical.isEmpty then
    result := result ++ " (" ++ ", ".intercalate parenthetical ++ ")"
  return result ++ "."

/-- Periodicals of these types are law reviews when their title has a law keyword. -/
def lawReviewTypes : List String := ["academic journal", "review"]

/-- An article. -/
def articleCitation (c : Citation) : Except Fault String := do
  let authors ← buildNames c.authors
  let mut parts : List String := []
  if !authors.isEmpty then parts := parts ++ [authors]
  if !c.title.isEmpty then parts := parts ++ [italicize (titleCase c.title)]
  if lawReviewTypes.contains c.publicationType && isLawJournal c.journal then
    let mut words := [c.volume]
    if !c.journal.isEmpty then words := words ++ [smallCaps (abbreviatePeriodicalTitle c.journal)]
    words := words ++ [c.pageFrom]
    let year := lawReviewDate c
    if !year.isEmpty then words := words ++ ["(" ++ year ++ ")"]
    parts := parts ++ [" ".intercalate (words.filter (!·.isEmpty))]
  else
    if !c.journal.isEmpty then
      let journal := abbreviatePeriodicalTitle c.journal
      let journal := if c.volume.isEmpty then journal else c.volume ++ " " ++ journal
      parts := parts ++ [smallCaps journal]
    let date := if c.publicationType == "news" then newspaperDate c else magazineDate c
    if !date.isEmpty then parts := parts ++ [date]
    if !c.pageFrom.isEmpty then parts := parts ++ ["at " ++ c.pageFrom]
  return ", ".intercalate (parts.filter (!·.isEmpty)) ++ "."

/-- A sound or video recording. -/
def mediaCitation (c : Citation) : Except Fault String := do
  let mut result := ""
  if c.format == "sound" then
    let authors ← buildNames c.authors
    if !authors.isEmpty then result := smallCaps authors ++ ", "
  result := result ++ smallCaps c.title
  let words := [c.publisher, yearText c].filter (!·.isEmpty)
  if !words.isEmpty then result := result ++ " (" ++ " ".intercalate words ++ ")"
  return result ++ "."

/-- A thesis. -/
def thesisCitation (c : Citation) : Except Fault String := do
  let mut result := ""
  if !c.authors.isEmpty then result := (← buildNames (c.authors.take 1)) ++ ", "
  result := result ++ c.title
  let date := newspaperDate c
  if !date.isEmpty then result := result ++ " (" ++ date ++ ")"
  if !c.publisher.isEmpty then result := result ++ " (" ++ c.publisher ++ ")"
  return result ++ "."

/-- The shapes of Bluebook citations. -/
inductive Shape where
  | thesis
  | book
  | media
  | article

/-- The shape of an item's citation; items of unknown format take the book shape. -/
def shapeOf (thesisSources : List String) (c : Citation) : Shape :=
  if thesisSources.contains c.dataSource || c.format == "thesis" then .thesis
  else if c.format == "book" || c.format == "government_document" then .book
  else if c.format == "sound" || c.format == "video" then .media
  else if c.format == "article" then .article
  else .book

/-- The Bluebook citation of an item. -/
def format (thesisSources : List String) (c : Citation) : Except Fault String :=
  match shapeOf thesisSources c with
  | .thesis => thesisCitation c
  | .book => bookCitation c
  | .media => mediaCitation c
  | .article => articleCitation c

end Citations.Style.Bluebook
