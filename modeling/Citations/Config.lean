import Citations.Data.Value
import Citations.Fault
import Citations.Text.Basic
import Citations.Text.Case

/-! # Service configuration

What the service is told about its styles and exports:

* `formats`: for each style key, the label, content type and file extension of its output;
* `ris`: which catalog fields go to which RIS tags (in order), the RIS type of each catalog
  format, the suffixes that mark a creator's role, and the type of an item of unknown format;
* `legal`: the catalog sources whose items are theses.

`ServiceConfig.ofValue` validates configuration data. It reports every issue it finds, in the
order of the fields, each at the path of keys and list positions where it lies; it ignores keys
it does not know. RIS tags, type codes and the default type are trimmed and put in upper case.
-/

namespace Citations

open Citations.Text

/-- The label, content type and file extension of a style's output. -/
structure FormatConfig where
  label : String
  contentType : String := "text/html"
  extension : String := ""

/-- The tables of the RIS export. -/
structure RisConfig where
  fieldTags : List (String × List String) := []
  typeCodes : List (String × String) := []
  roleSuffixes : List (String × String) := []
  defaultType : String := "GEN"

/-- The settings of legal citations. -/
structure LegalConfig where
  thesisSources : List String := ["libraetd"]

/-- The configuration of the service. -/
structure ServiceConfig where
  formats : List (String × FormatConfig)
  ris : RisConfig := {}
  legal : LegalConfig := {}

namespace ServiceConfig

/-- The output format of a style key: the configured one, or else one labelled with the key
itself, which is checked as any format is, so a blank key has none. -/
def formatOf (c : ServiceConfig) (style : String) : Except (List ConfigIssue) FormatConfig :=
  match c.formats.find? (·.1 == style) with
  | some (_, f) => .ok f
  | none => if (trim style).isEmpty then .error [⟨["label"], .blankLabel⟩] else .ok { label := style }

/-- The output format of a style of the service, whose key is never blank. -/
def formatFor (c : ServiceConfig) (style : String) : FormatConfig :=
  match c.formatOf style with
  | .ok f => f
  | .error _ => { label := style }

/-- The configuration that the service starts with. -/
def defaults : ServiceConfig where
  formats := [
    ("apa", { label := "APA" }),
    ("mla", { label := "MLA" }),
    ("cms", { label := "Chicago" }),
    ("lbb", { label := "Bluebook" }),
    ("citeas", { label := "Cite As", contentType := "text/plain" }),
    ("ris", { label := "RIS", contentType := "application/x-research-info-systems",
              extension := "ris" })]
  ris := {
    defaultType := "GEN"
    fieldTags := [
      ("author", ["AU"]), ("advisor", ["AU"]), ("editor", ["ED"]), ("translator", ["A4"]),
      ("compiler", ["A2"]), ("title", ["TI"]), ("journal", ["JO"]), ("volume", ["VL"]),
      ("issue", ["IS"]), ("pages", ["SP"]), ("edition", ["ET"]), ("publisher", ["PB"]),
      ("published_location", ["CY"]), ("published_date", ["PY"]), ("url", ["UR"]),
      ("doi", ["DO"]), ("serial_number", ["SN"]), ("data_source", ["DP"]),
      ("subject", ["KW"]), ("abstract", ["AB"]), ("language", ["LA"]),
      ("call_number", ["CN"])]
    roleSuffixes := [("advisor", ", advisor"), ("editor", ", editor")]
    typeCodes := [
      ("article", "JOUR"), ("book", "BOOK"), ("government_document", "GOVDOC"),
      ("journal", "JFULL"), ("manuscript", "MANSCPT"), ("map", "MAP"),
      ("musical_score", "MUSIC"), ("news", "NEWS"), ("sound", "SOUND"), ("thesis", "THES"),
      ("video", "VIDEO"), ("dataset", "DATA")] }
  legal := { thesisSources := ["libraetd"] }

end ServiceConfig

/-- A validation: a value, or the issues found, the value also given when there are none. -/
structure Checked (α : Type) where
  value : α
  issues : List ConfigIssue := []

namespace Checked

/-- An issue at a place, with a stand-in value. -/
def fail {α : Type} (loc : List String) (kind : IssueKind) (dummy : α) : Checked α :=
  ⟨dummy, [⟨loc, kind⟩]⟩

/-- Text at a place. -/
def text (loc : List String) : Value → Checked String
  | .str s => ⟨s, []⟩
  | _ => fail loc .notText ""

/-- A list of texts at a place. -/
def texts (loc : List String) : Value → Checked (List String)
  | .list items =>
    let checked := items.zipIdx.map (fun (v, i) => text (loc ++ [toString i]) v)
    ⟨checked.map (·.value), checked.flatMap (·.issues)⟩
  | _ => fail loc .notList []

/-- A mapping at a place, each value checked by `check` at its key. -/
def mapping {α : Type} (loc : List String) (check : List String → Value → Checked α) :
    Value → Checked (List (String × α))
  | .dict entries =>
    let checked := entries.map (fun (k, v) => (k, check (loc ++ [k]) v))
    ⟨checked.map (fun (k, c) => (k, c.value)), checked.flatMap (·.2.issues)⟩
  | _ => fail loc .notMapping []

/-- An optional field of a record: its default when absent. -/
def optional {α : Type} (entries : List (String × Value)) (key : String) (dflt : α)
    (check : Value → Checked α) : Checked α :=
  match Value.lookup entries key with
  | some v => check v
  | none => ⟨dflt, []⟩

end Checked

/-- A format's output, with a label that is not blank. -/
def FormatConfig.check (loc : List String) : Value → Checked FormatConfig
  | .dict es =>
    let label : Checked String := match Value.lookup es "label" with
      | none => .fail (loc ++ ["label"]) .missing ""
      | some v =>
        let c := Checked.text (loc ++ ["label"]) v
        if c.issues.isEmpty && (trim c.value).isEmpty then .fail (loc ++ ["label"]) .blankLabel ""
        else c
    let contentType := Checked.optional es "content_type" "text/html" (.text (loc ++ ["content_type"]))
    let extension := Checked.optional es "extension" "" (.text (loc ++ ["extension"]))
    ⟨{ label := label.value, contentType := contentType.value, extension := extension.value },
      label.issues ++ contentType.issues ++ extension.issues⟩
  | _ => .fail loc .notRecord { label := "" }

/-- A tag or code as the export writes it: trimmed and in upper case. -/
def tagForm (s : String) : String := upper (trim s)

/-- The RIS tables. -/
def RisConfig.check (loc : List String) : Value → Checked RisConfig
  | .dict es =>
    let fieldTags := Checked.optional es "field_tags" []
      (.mapping (loc ++ ["field_tags"]) Checked.texts)
    let typeCodes := Checked.optional es "type_codes" [] (.mapping (loc ++ ["type_codes"]) Checked.text)
    let roleSuffixes := Checked.optional es "role_suffixes" []
      (.mapping (loc ++ ["role_suffixes"]) Checked.text)
    let defaultType := Checked.optional es "default_type" "GEN" (.text (loc ++ ["default_type"]))
    ⟨{ fieldTags := fieldTags.value.map (fun (f, ts) => (f, ts.map tagForm))
       typeCodes := typeCodes.value.map (fun (f, t) => (f, tagForm t))
       roleSuffixes := roleSuffixes.value
       defaultType := tagForm defaultType.value },
      fieldTags.issues ++ typeCodes.issues ++ roleSuffixes.issues ++ defaultType.issues⟩
  | _ => .fail loc .notRecord {}

/-- The legal settings. -/
def LegalConfig.check (loc : List String) : Value → Checked LegalConfig
  | .dict es =>
    let sources := Checked.optional es "thesis_sources" ["libraetd"]
      (.texts (loc ++ ["thesis_sources"]))
    ⟨{ thesisSources := sources.value }, sources.issues⟩
  | _ => .fail loc .notRecord {}

namespace ServiceConfig

/-- A configuration from data, or every issue found in it. -/
def ofValue : Value → Except (List ConfigIssue) ServiceConfig
  | .dict es =>
    let formats : Checked (List (String × FormatConfig)) := match Value.lookup es "formats" with
      | none => .fail ["formats"] .missing []
      | some v => .mapping ["formats"] FormatConfig.check v
    let ris := Checked.optional es "ris" {} (RisConfig.check ["ris"])
    let legal := Checked.optional es "legal" {} (LegalConfig.check ["legal"])
    let issues := formats.issues ++ ris.issues ++ legal.issues
    if issues.isEmpty then .ok { formats := formats.value, ris := ris.value, legal := legal.value }
    else .error issues
  | _ => .error [⟨[], .notRecord⟩]

end ServiceConfig

end Citations
