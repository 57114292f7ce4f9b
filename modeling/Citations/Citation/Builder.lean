import Citations.Unicode.Properties
import Citations.Text.Basic
import Citations.Text.Case
import Citations.Text.Caseless
import Citations.Text.Cleaning
import Citations.Citation.Basic
import Citations.Citation.Fields
import Citations.Citation.Date

/-! # Building a citation from catalog fields

Each field of a `Citation` comes from the catalog fields by a rule of its own. No rule fails:
a value that cannot be read gives an empty field.

* title: title and subtitle cleaned and joined by `: `, trailing periods dropped;
* volume and issue: cleaned, with `vol.` or `no.` put before a value that does not already
  start with such a word, when the style asks;
* pages: page markers (`p.`, `pp.`) dropped, the text cut at dashes, and the first two pieces
  with a digit taken as first and last page;
* edition: in the form `… ed.` or `… eds.`; a first edition is not shown;
* publisher: name and place combined, the more specific one kept;
* link: a DOI as `https://doi.org/…`, else for an item born digital a resolver address or the
  catalog's own address, as an anchor.

An item with an explicit citation keeps only that and whether it is an article.
-/

namespace Citations

open Citations.Unicode Citations.Text

/-- Words that count as yes in a catalog flag. -/
def yesWords : List String := ["true", "1", "yes", "y", "t"]

/-- Title and subtitle cleaned and joined. -/
def buildTitle (title subtitle : String) : String :=
  let t := cleanEndPunctuation title
  let s := cleanEndPunctuation subtitle
  stripTrailingPeriods (if !t.isEmpty && !s.isEmpty then t ++ ": " ++ s
    else if t.isEmpty then s else t)

/-- The numbering words that may begin a volume or issue value. -/
inductive NumberWord where
  | volume
  | issue

/-- A value already begins with its numbering word: `vol`, `volume` or `v.` for a volume;
`no`, `num`, `number`, `iss` or `issue` as a whole word for an issue. -/
def NumberWord.begins : NumberWord → List Char → Bool
  | .volume, cs => (caselessPrefix "vol".toList cs).isSome || (caselessPrefix "v.".toList cs).isSome
  | .issue, cs => ["no", "number", "num", "issue", "iss"].any (fun w => startsWithWord w.toList cs)

/-- A volume or issue cleaned, with `prefix` put before it when enabled and the value does not
begin with its numbering word. -/
def prefixNumber (value pre : String) (word : NumberWord) (enabled : Bool) : String :=
  let v := cleanField value
  if !v.isEmpty && enabled && !word.begins v.toList then pre ++ " " ++ v else v

/-- The text after a page marker at the start of `cs`: `p.` or `pp.` in any case, starting a
word (the character before, `prev`, is no word character), with the blanks after it. -/
def pageMarker? (prev : Option Char) (cs : List Char) : Option (List Char) :=
  if prev.any isWordChar then none
  else
    match cs with
    | p :: '.' :: more => if caselessMatch 'p' p then some (more.dropWhile isBlank) else none
    | p :: q :: '.' :: more =>
      if caselessMatch 'p' p && caselessMatch 'p' q then some (more.dropWhile isBlank) else none
    | _ => none

theorem pageMarker?_shorter {prev : Option Char} {cs more : List Char}
    (h : pageMarker? prev cs = some more) : more.length < cs.length := by
  unfold pageMarker? at h
  split at h
  · simp at h
  · split at h
    · split at h
      · simp at h; subst h
        have := length_dropWhile_le isBlank ‹List Char›
        simp; omega
      · simp at h
    · split at h
      · simp at h; subst h
        have := length_dropWhile_le isBlank ‹List Char›
        simp; omega
      · simp at h
    · simp at h

/-- Every page marker replaced by a space, scanning from the left. After a marker the character
before the scan is a period or a blank, neither of them a word character. -/
def replacePageMarkers (prev : Option Char) : List Char → List Char
  | [] => []
  | c :: rest =>
    match _h : pageMarker? prev (c :: rest) with
    | some more => ' ' :: replacePageMarkers (some '.') more
    | none => c :: replacePageMarkers (some c) rest
termination_by cs => cs.length
decreasing_by
  · exact pageMarker?_shorter _h
  · simp

/-- A dash between pages. -/
def isPageDash (c : Char) : Bool := c = '-' || c = '–' || c = '—'

/-- The text after a separator of pages at the start of `cs`: blanks, at least one dash, and
blanks. -/
def pageSeparator? (cs : List Char) : Option (List Char) :=
  match cs.dropWhile isBlank with
  | d :: rest => if isPageDash d then some ((rest.dropWhile isPageDash).dropWhile isBlank) else none
  | [] => none

theorem pageSeparator?_shorter {cs more : List Char} (h : pageSeparator? cs = some more) :
    more.length < cs.length := by
  unfold pageSeparator? at h
  split at h
  · rename_i d rest hd
    split at h
    · simp at h; subst h
      have h1 := length_dropWhile_le isBlank cs
      have h2 := length_dropWhile_le isPageDash rest
      have h3 := length_dropWhile_le isBlank (rest.dropWhile isPageDash)
      rw [hd] at h1
      simp at h1; omega
    · simp at h
  · simp at h

/-- The pieces of a page text between separators, scanning from the left; `acc` holds the
current piece reversed. -/
def splitPages (acc : List Char) : List Char → List (List Char)
  | [] => [acc.reverse]
  | c :: rest =>
    match _h : pageSeparator? (c :: rest) with
    | some more => acc.reverse :: splitPages [] more
    | none => splitPages (c :: acc) rest
termination_by cs => cs.length
decreasing_by
  · exact pageSeparator?_shorter _h
  · simp

/-- Pages from a page text: the first two pieces with a digit as first and last page. With
`withPrefix`, a range gets `pp. ` and a single page `p. `. -/
def formatPages (value : String) (withPrefix : Bool := false) : String × String × String :=
  let text := trimChars (replacePageMarkers none value.toList)
  let parts := (splitPages [] text).map (fun p => cleanField (String.ofList p))
  let parts := parts.filter (fun p => p.toList.any isDecimal)
  match parts with
  | first :: second :: _ =>
    let pages := first ++ " - " ++ second
    (if withPrefix then "pp. " ++ pages else pages, first, second)
  | [only] => (if withPrefix then "p. " ++ only else only, only, "")
  | [] => ("", "", "")

/-- An edition statement already in form: a blank, then `ed.` or `eds.` at the end. -/
def isEditionForm (cs : List Char) : Bool :=
  match cs.reverse with
  | '.' :: 'd' :: 'e' :: b :: _ => isBlank b
  | '.' :: 's' :: 'd' :: 'e' :: b :: _ => isBlank b
  | _ => false

/-- A first edition: `1st` or `first` as a whole word at the start, in any case. -/
def isFirstEdition (cs : List Char) : Bool :=
  startsWithWord "1st".toList cs || startsWithWord "first".toList cs

/-- The words for edition that may end a statement. -/
def editionWords : List String := ["editions", "edition", "edn", "eds", "ed"]

/-- A statement that ends with a word for edition, optionally with a period, standing alone or
after a blank: the text before that blank, and the word as written. -/
def editionWordAtEnd? (cs : List Char) : Option (List Char × List Char) :=
  editionWords.findSome? fun w =>
    let n := w.length
    [n + 1, n].findSome? fun k =>
      let tail := cs.drop (cs.length - k)
      let word := tail.take n
      let dotOk := if k = n + 1 then tail.getLast? == some '.' else true
      if cs.length ≥ k && dotOk && (caselessPrefix w.toList word).isSome then
        let before := cs.take (cs.length - k)
        match before.reverse with
        | [] => some ([], word)
        | b :: rest => if isBlank b then some (rest.reverse, word) else none
      else none

/-- An edition statement in the form `… ed.` or `… eds.`; empty for a first edition. -/
def normalizeEdition (value : String) : String :=
  let raw := trim value
  let cleaned := cleanField raw
  if cleaned.isEmpty || isFirstEdition cleaned.toList then ""
  else if isEditionForm raw.toList then raw
  else
    match editionWordAtEnd? cleaned.toList with
    | some (before, word) =>
      let stem := trim (String.ofList before)
      if stem.isEmpty then ""
      else
        let plural := ["editions", "eds"].contains (lower (String.ofList word))
        stem ++ (if plural then " eds." else " ed.")
    | none => cleaned ++ " ed."

/-- Publisher name and place combined. With `withPlace`, two different values are joined as
`name: place`; otherwise the one that contains the other, or the name. -/
def combinePublisher (name place : String) (withPlace : Bool) : String :=
  if !name.isEmpty && !place.isEmpty then
    if withPlace && !containsText place name && !containsText name place then
      name ++ ": " ++ place
    else if containsText place name then place
    else name
  else if name.isEmpty then place else name

/-- A serial number shaped like an ISBN or ISSN: its first word, without hyphens, is 7, 9 or
12 decimal digits and then a digit or `X`. -/
def looksLikeSerial (value : String) : Bool :=
  match words value with
  | [] => false
  | first :: _ =>
    let cs := first.toList.filter (· != '-')
    (cs.length = 8 || cs.length = 10 || cs.length = 13) &&
      (cs.dropLast.all isDecimal) &&
      (cs.getLast?.any (fun c => isDecimal c || simpleLower c == 'x'))

/-- A flag field says yes. -/
def flagSet (fields : Fields) (name : String) : Bool :=
  yesWords.contains (lower (firstValue (fields.get name)))

/-- An item born digital: marked online only, with no serial number shaped like an ISBN or
ISSN. -/
def isBornDigital (fields : Fields) : Bool :=
  flagSet fields "is_online_only" && !(fields.get "serial_number").any looksLikeSerial

/-- The rest of a DOI after a `doi:` label (and blanks) or a resolver address at its start. -/
def doiResolverRest (cs : List Char) : Option (List Char) := do
  let r ← caselessPrefix "http".toList cs
  let r ← (caselessPrefix "s://".toList r).orElse (fun _ => caselessPrefix "://".toList r)
  (caselessPrefix "dx.doi.org/".toList r).orElse (fun _ => caselessPrefix "doi.org/".toList r)

/-- A DOI without its label or resolver address. -/
def stripDoiPrefix (cs : List Char) : List Char :=
  match caselessPrefix "doi:".toList cs with
  | some rest => rest.dropWhile isBlank
  | none => (doiResolverRest cs).getD cs

/-- A letter of an address scheme. -/
def isSchemeLetter (c : Char) : Bool := 'a' ≤ c && c ≤ 'z'

/-- A character of an address scheme after its first letter. -/
def isSchemeChar (c : Char) : Bool :=
  isSchemeLetter c || ('0' ≤ c && c ≤ '9') || c = '+' || c = '.' || c = '-'

/-- An address without its `scheme://` start, if it has one. -/
def stripScheme (cs : List Char) : List Char :=
  match cs with
  | c :: rest =>
    if caselessIn isSchemeLetter c then
      let after := rest.dropWhile (caselessIn isSchemeChar)
      match after with
      | ':' :: '/' :: '/' :: more => more
      | _ => cs
    else cs
  | [] => cs

/-- Text with the characters of markup escaped: `&`, `<`, `>` and both quotes. -/
def escapeMarkup (s : String) : String :=
  String.join (s.toList.map fun c =>
    match c with
    | '&' => "&amp;"
    | '<' => "&lt;"
    | '>' => "&gt;"
    | '"' => "&quot;"
    | '\'' => "&#x27;"
    | c => c.toString)

/-- The address an item links to: its DOI at the resolver; else, for an item born digital, the
first resolver address among its addresses, or its first address when that is the catalog's
own. -/
def linkAddress (fields : Fields) : String :=
  let doi := firstValue (fields.get "doi")
  if !doi.isEmpty then
    let d := trim (String.ofList (stripDoiPrefix doi.toList))
    if d.isEmpty then "" else "https://doi.org/" ++ d
  else if isBornDigital fields then
    let urls := ((fields.get "url").map trim).filter (!·.isEmpty)
    match urls.find? (fun u => (doiResolverRest u.toList).isSome) with
    | some u => u
    | none =>
      match urls with
      | u :: _ => if flagSet fields "is_virgo_url" then u else ""
      | [] => ""
  else ""

/-- The link of an item as an anchor, its text without the scheme when asked; empty when the
item has no address. -/
def buildLink (fields : Fields) (stripProtocol : Bool := false) : String :=
  let url := linkAddress fields
  if url.isEmpty then ""
  else
    let text := if stripProtocol then String.ofList (stripScheme url.toList) else url
    "<a href=\"" ++ escapeMarkup url ++ "\">" ++ escapeMarkup text ++ "</a>"

/-- The names of a creator field, trimmed, without empty ones. -/
def namesOf (fields : Fields) (key : String) : List String :=
  ((fields.get key).map trim).filter (!·.isEmpty)

namespace Citation

/-- The citation of an item from its catalog fields. -/
def build (fields : Fields) (opts : BuildOptions := {}) : Citation :=
  let first := fun key => firstValue (fields.get key)
  let explicit := fields.get "explicit"
  let isArticle := first "format" == "article"
  if !explicit.isEmpty then { explicitText := explicit, isArticle := isArticle }
  else
    let (pages, pageFrom, pageTo) := formatPages (first "pages") opts.pagesPrefix
    let publisherName := cleanField (first "publisher")
    let publisherPlace := cleanField (first "published_location")
    let d := DateParts.parse (first "published_date")
    { isArticle := isArticle
      authors := namesOf fields "author"
      editors := namesOf fields "editor"
      advisors := namesOf fields "advisor"
      compilers := namesOf fields "compiler"
      translators := namesOf fields "translator"
      title := buildTitle (first "title") (first "subtitle")
      journal := cleanField (first "journal")
      volume := prefixNumber (first "volume") "vol." .volume opts.volumePrefix
      issue := prefixNumber (first "issue") "no." .issue opts.issuePrefix
      pages := pages
      pageFrom := pageFrom
      pageTo := pageTo
      edition := normalizeEdition (first "edition")
      publisher := combinePublisher publisherName publisherPlace opts.publisherPlace
      publisherName := publisherName
      publisherPlace := publisherPlace
      format := first "format"
      publicationType := first "publication_type"
      dataSource := first "data_source"
      date := d.date
      year := d.year
      month := d.month
      day := d.day
      link := buildLink fields opts.stripProtocol }

/-- The citation of raw catalog data, or why the data is refused. -/
def ofValue (raw : Value) (opts : BuildOptions := {}) : Except BuildFault Citation :=
  (Fields.ofValue raw).map (build · opts)

end Citation

end Citations
