import Citations.Data.Value
import Citations.Data.Literal
import Citations.Yaml.Failure

/-! # Why a request fails

Every way a request can fail, as data. Four kinds are citation errors, which a caller that
renders several styles, or the command line, reports and passes over: refused raw fields, an
unknown style, an item without the explicit citation its style needs, and an unreadable fields
file. The others stop the request: a name made only of commas, a record address with a bad
host, markup that the reader gives up on or a number in it too long to read, a YAML file that
cannot be read, and a configuration that fails validation.

* `Fault.message`: the text of a failure.
* `Fault.isCitationError` and `Fault.phrase`: which failures are citation errors, and the status
  phrase each is reported with.
-/

namespace Citations

/-- Why raw fields were refused. -/
inductive BuildFault where
  /-- the raw fields are not a mapping but a value of this kind -/
  | notMapping (kind : String)
  /-- a field's value is neither text nor a list -/
  | notList (field : String) (kind : String)
  /-- a field's list holds a value that is not text -/
  | notText (field : String) (value : Value)

/-- The text of a refusal. -/
def BuildFault.message : BuildFault → String
  | .notMapping kind => "raw fields must be a mapping, got " ++ kind
  | .notList field kind =>
    "field " ++ quoteText field ++ " must be a list of strings, got " ++ kind
  | .notText field value =>
    "field " ++ quoteText field ++ " contains a non-string value: " ++ value.literal

/-- What is wrong at one place of a configuration. -/
inductive IssueKind where
  | missing
  | notText
  | notList
  | notMapping
  | notRecord
  | blankLabel

/-- The code of an issue. -/
def IssueKind.code : IssueKind → String
  | .missing => "missing"
  | .notText => "string_type"
  | .notList => "list_type"
  | .notMapping => "dict_type"
  | .notRecord => "model_type"
  | .blankLabel => "value_error"

/-- The explanation that comes with an issue raised by the configuration's own rules. -/
def IssueKind.explanation? : IssueKind → Option String
  | .blankLabel => some "Value error, Format label must not be blank"
  | _ => none

/-- An issue at a place of a configuration, given as the path of keys and list positions. -/
structure ConfigIssue where
  loc : List String
  kind : IssueKind

/-- Why a request fails. -/
inductive Fault where
  | build (f : BuildFault)
  /-- the style key, or none when no style was given -/
  | styleNotImplemented (style : Option String)
  | noExplicitCitation
  /-- the fields file does not hold a mapping -/
  | fieldsNotMapping (file : String)
  /-- a name made only of commas has no parts to arrange -/
  | nameWithoutParts
  /-- the host of a record address is malformed -/
  | invalidAddress (reason : String)
  /-- markup that the reader gives up on -/
  | rejectedMarkup (reason : String)
  /-- a numeric character reference with more decimal digits than a number may have -/
  | digitLimit (digits : Nat)
  | invalidConfig (issues : List ConfigIssue)
  /-- a file that the command line names does not exist -/
  | missingFile (path : String)
  /-- a YAML file that cannot be read, by its name -/
  | yaml (file : String) (failure : Yaml.Failure)

namespace Fault

/-- The text of a failure. -/
def message : Fault → String
  | .build f => f.message
  | .styleNotImplemented s =>
    "citation style not implemented: " ++ (match s with
      | some s => quoteText s
      | none => "None")
  | .noExplicitCitation => "no explicit citation for this item"
  | .fieldsNotMapping file => file ++ ": expected a mapping of field -> values"
  | .nameWithoutParts => "list index out of range"
  | .invalidAddress reason => reason
  | .rejectedMarkup reason =>
    "The markup you provided was rejected by the parser. Trying a different parser or a " ++
    "different encoding may help.\n\nOriginal exception(s) from parser:\n AssertionError: " ++
    reason
  | .digitLimit digits =>
    "Exceeds the limit (4300 digits) for integer string conversion: value has " ++
    intText digits ++ " digits; use sys.set_int_max_str_digits() to increase the limit"
  | .invalidConfig _ => "validation failed"
  | .missingFile path => "[Errno 2] No such file or directory: " ++ quoteText path
  | .yaml file failure => failure.message file

/-- Citation errors are reported and passed over by callers that render several styles. -/
def isCitationError : Fault → Bool
  | .build _ | .styleNotImplemented _ | .noExplicitCitation | .fieldsNotMapping _ => true
  | _ => false

/-- The status phrase of a citation error. -/
def phrase : Fault → String
  | .build _ | .noExplicitCitation => "Bad Request"
  | .styleNotImplemented _ => "Not Implemented"
  | _ => "Internal Server Error"

end Fault

end Citations
