import Citations.Config
import Citations.Notice
import Citations.Address
import Citations.Citation.Builder
import Citations.Style.Apa
import Citations.Style.Mla
import Citations.Style.Chicago
import Citations.Style.Bluebook
import Citations.Style.Ris

/-! # The citation service

The service renders a catalog record in one of six styles, each known by a key: APA (`apa`),
MLA (`mla`), Chicago (`cms`), Bluebook (`lbb`), the item's own explicit citation (`citeas`), and
a RIS export (`ris`).

* A requested key is trimmed and put in lower case; a key of no style is refused with the key
  as requested.
* The prose styles build a citation from the fields with their own options; an explicit
  citation on the item wins over the formatted one, its lines joined by line feeds. `citeas`
  has nothing else to give.
* A RIS export is a record built from the fields, saved under the last segment of the record's
  address.

* `render`: one style's output for raw fields.
* `renderAll`: the prose styles in display order, passing over those that fail with a citation
  error, with a notice for each.

The service takes the markup reader of the RIS export (`MarkupReader`) as its first argument.
-/

namespace Citations

open Citations.Text Citations.Style

/-- The styles of the service. -/
inductive CitationStyle where
  | apa
  | mla
  | chicago
  | bluebook
  | citeAs
  | ris
  deriving DecidableEq

namespace CitationStyle

/-- The key of a style. -/
def key : CitationStyle → String
  | .apa => "apa"
  | .mla => "mla"
  | .chicago => "cms"
  | .bluebook => "lbb"
  | .citeAs => "citeas"
  | .ris => "ris"

/-- All styles. -/
def all : List CitationStyle := [.apa, .mla, .chicago, .bluebook, .citeAs, .ris]

/-- The keys of all styles, sorted. -/
def keys : List String := (all.map key).mergeSort (fun a b => decide (a ≤ b))

/-- The prose styles, in display order. -/
def prose : List CitationStyle := [.mla, .apa, .chicago, .bluebook]

/-- The style that a requested key names once trimmed and put in lower case. -/
def select (requested : Option String) : Except Fault CitationStyle :=
  match all.find? (·.key == lower (trim (requested.getD ""))) with
  | some s => .ok s
  | none => .error (.styleNotImplemented requested)

/-- The options with which a style builds the citation of an item. -/
def options (fields : Fields) : CitationStyle → BuildOptions
  | .apa => Apa.options fields
  | .mla => Mla.options
  | .chicago => Chicago.options
  | .bluebook => Bluebook.options
  | .citeAs | .ris => {}

/-- The citation text of an item in a prose style, for an item without an explicit citation;
none for the RIS export, which formats no citations. -/
def formatCitation (config : ServiceConfig) : CitationStyle → Option (Citation → Except Fault String)
  | .apa => some Apa.format
  | .mla => some Mla.format
  | .chicago => some Chicago.format
  | .bluebook => some (Bluebook.format config.legal.thesisSources)
  | .citeAs => some fun _ => .error .noExplicitCitation
  | .ris => none

/-- The output format of a style. -/
def format (config : ServiceConfig) (s : CitationStyle) : FormatConfig := config.formatFor s.key

/-- The body of a style's output for catalog fields, with the notices made. -/
def contents (read : MarkupReader) (config : ServiceConfig) (s : CitationStyle) (fields : Fields)
    (recordUrl : Option String) : Logged String :=
  match s.formatCitation config with
  | none =>
    let tv := Ris.tagValues config.ris fields recordUrl
    ⟨Ris.record read tv.tags, tv.notices⟩
  | some formatIt =>
    let c := Citation.build fields (s.options fields)
    if !c.explicitText.isEmpty then ⟨.ok ("\n".intercalate c.explicitText), []⟩
    else ⟨formatIt c, []⟩

/-- The file name of a style's output: for the RIS export, the last segment of the record's
address, or `citation`, with the format's extension, or `ris`; none for the other styles. -/
def filename (config : ServiceConfig) (s : CitationStyle) (recordUrl : Option String) :
    Except Fault (Option String) := do
  if s != .ris then return none
  let name ← match recordUrl with
    | some url => if url.isEmpty then pure "" else (·.lastSegment) <$> Address.parse url
    | none => pure ""
  let ext := (s.format config).extension
  return some ((if name.isEmpty then "citation" else name) ++ "." ++ (if ext.isEmpty then "ris" else ext))

end CitationStyle

/-- The output of a style for an item. -/
structure Rendered where
  style : CitationStyle
  label : String
  contentType : String
  filename : Option String
  body : String

/-- One style's output for raw fields: the raw fields are checked, the body made, and then the
file name found. -/
def renderWith (read : MarkupReader) (config : ServiceConfig) (s : CitationStyle) (raw : Value)
    (recordUrl : Option String) : Logged Rendered :=
  match Fields.ofValue raw with
  | .error e => ⟨.error (.build e), []⟩
  | .ok fields =>
    let body := s.contents read config fields recordUrl
    match body.result with
    | .error e => ⟨.error e, body.notices⟩
    | .ok text =>
      match s.filename config recordUrl with
      | .error e => ⟨.error e, body.notices⟩
      | .ok name =>
        let fmt := s.format config
        ⟨.ok ⟨s, fmt.label, fmt.contentType, name, text⟩, body.notices⟩

/-- The output of the requested style for raw fields. -/
def render (read : MarkupReader) (config : ServiceConfig) (requested : Option String) (raw : Value)
    (recordUrl : Option String) : Logged Rendered :=
  match CitationStyle.select requested with
  | .error e => ⟨.error e, []⟩
  | .ok s => renderWith read config s raw recordUrl

/-- One style of a batch, after the styles before it: a failure that ended the batch stays; the
style's output is added, or, when it fails with a citation error, the style is passed over with
a notice; any other failure ends the batch. -/
def renderAllStep (read : MarkupReader) (config : ServiceConfig) (raw : Value)
    (acc : Logged (List Rendered)) (s : CitationStyle) : Logged (List Rendered) :=
  match acc.result with
  | .error _ => acc
  | .ok done =>
    let r := renderWith read config s raw none
    let notices := acc.notices ++ r.notices
    match r.result with
    | .ok out => ⟨.ok (done ++ [out]), notices⟩
    | .error e =>
      if e.isCitationError then ⟨.ok done, notices ++ [.styleFailed (s.format config).label e]⟩
      else ⟨.error e, notices⟩

/-- The prose styles' outputs in display order. A style that fails with a citation error is
passed over with a notice; any other failure ends the batch. -/
def renderAll (read : MarkupReader) (config : ServiceConfig) (raw : Value) :
    Logged (List Rendered) :=
  CitationStyle.prose.foldl (renderAllStep read config raw) ⟨.ok [], []⟩

end Citations
