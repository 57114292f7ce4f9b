import Citations.Legal.Pattern
import Citations.Legal.Tables

/-! # Abbreviating legal names and titles

A table is applied by replacing every whole-word match of each entry's pattern with its
abbreviation, entry after entry in table order, each entry working on the text the entries
before it left.

* `abbreviateName`: Table 6, then Table 10.
* `abbreviatePeriodicalTitle`: Table 13, then Table 6, then Table 10.
* `abbreviateMonth`: Table 12.
* `isLawJournal`: a nonempty title in which one of the law keywords occurs as a whole word.
-/

namespace Citations.Legal

/-- A table with each pattern read into its spellings. -/
structure Table where
  entries : List (List (List Glyph) × List Char)

/-- Reads the patterns of a table. -/
def Table.ofPatterns (entries : List (String × String)) : Table :=
  ⟨entries.map (fun (p, a) => (spellings p, a.toList))⟩

/-- Table 6. -/
def caseNameTable : Table := .ofPatterns caseNameWords

/-- Table 10. -/
def geographicalTable : Table := .ofPatterns geographicalTerms

/-- Table 12. -/
def monthTable : Table := .ofPatterns monthWords

/-- Table 13. -/
def periodicalTable : Table := .ofPatterns periodicalWords

/-- The tables by their numbers. -/
def tableOf? : String → Option Table
  | "T6" => some caseNameTable
  | "T10" => some geographicalTable
  | "T12" => some monthTable
  | "T13" => some periodicalTable
  | _ => none

/-- Applies a table's entries in order. -/
def Table.apply (t : Table) (text : String) : String :=
  String.ofList (t.entries.foldl (fun cs (spells, rep) => replaceWords spells rep none cs) text.toList)

/-- A personal or institutional name abbreviated: Table 6, then Table 10. -/
def abbreviateName (text : String) : String :=
  geographicalTable.apply (caseNameTable.apply text)

/-- A periodical title abbreviated: Table 13, then Table 6, then Table 10. -/
def abbreviatePeriodicalTitle (text : String) : String :=
  geographicalTable.apply (caseNameTable.apply (periodicalTable.apply text))

/-- A full month name abbreviated. -/
def abbreviateMonth (month : String) : String := monthTable.apply month

/-- The spellings of all law keywords, keyword after keyword. -/
def lawKeywordSpellings : List (List Glyph) := lawKeywords.flatMap spellings

/-- A periodical title names a law journal: it is nonempty and has a law keyword as a word. -/
def isLawJournal (title : String) : Bool :=
  !title.isEmpty && containsWord lawKeywordSpellings none title.toList

end Citations.Legal
