import Citations.Text.Regular

/-! # Tags of nodes without an explicit one

A plain scalar without a tag, or one tagged `!`, takes its tag from its text. The text is
matched against patterns chosen by its first character, in a fixed order, and the first that
matches whole decides: truth words (`yes`, `No`, `TRUE`, `off`, ...), floating-point numbers
(with a point, `.inf`, `.nan`, or base 60), integers (binary, octal, decimal, hexadecimal,
base 60), the merge key `<<`, null (`~`, `null`, nothing), timestamps, and the value key `=`. A
text may end in one line feed after what the pattern matches. Other scalars are text;
sequences and mappings take the tags of their kinds.

* `coreTag name`: the tag `tag:yaml.org,2002:name`.
* `resolveScalar`: the tag of a scalar from its text.
-/

namespace Citations.Yaml

open Citations.Text Matcher

/-- A tag of the core schema. -/
def coreTag (name : String) : String := "tag:yaml.org,2002:" ++ name

/-- An optional sign. -/
def signPattern : Matcher := opt (oneOf "-+")

/-- Digits and underscores. -/
def digitRun : Matcher := star (char fun c => ('0' ≤ c && c ≤ '9') || c = '_')

/-- Base-60 places after the first: `:` and one or two digits, below 60. -/
def sexagesimalPlaces : Matcher := plus (all [lit ":", opt (digit '0' '5'), digit])

/-- Truth words. -/
def boolPattern : Matcher :=
  any (["yes", "Yes", "YES", "no", "No", "NO", "true", "True", "TRUE", "false", "False", "FALSE",
    "on", "On", "ON", "off", "Off", "OFF"].map lit)

/-- Floating-point numbers. -/
def floatPattern : Matcher :=
  let exponent := all [oneOf "eE", oneOf "-+", plus digit]
  any [
    all [signPattern, digit, digitRun, lit ".", digitRun, opt exponent],
    all [lit ".", digit, digitRun, opt exponent],
    all [signPattern, digit, digitRun, sexagesimalPlaces, lit ".", digitRun],
    all [signPattern, lit ".", any [lit "inf", lit "Inf", lit "INF"]],
    all [lit ".", any [lit "nan", lit "NaN", lit "NAN"]]]

/-- Integers. -/
def intPattern : Matcher :=
  let hex := char fun c => ('0' ≤ c && c ≤ '9') || ('a' ≤ c && c ≤ 'f') || ('A' ≤ c && c ≤ 'F') || c = '_'
  any [
    all [signPattern, lit "0b", plus (oneOf "01_")],
    all [signPattern, lit "0", plus (oneOf "01234567_")],
    all [signPattern, any [lit "0", all [digit '1' '9', digitRun]]],
    all [signPattern, lit "0x", plus hex],
    all [signPattern, digit '1' '9', digitRun, sexagesimalPlaces]]

/-- Null. -/
def nullPattern : Matcher := any [lit "~", lit "null", lit "Null", lit "NULL", empty]

/-- Timestamps: a date, or a date and a time with an optional fraction and zone. -/
def timestampPattern : Matcher :=
  let d := digit
  let zone := all [star (oneOf " \t"),
    any [lit "Z", all [oneOf "-+", d, opt d, opt (all [lit ":", d, d])]]]
  any [
    all [d, d, d, d, lit "-", d, d, lit "-", d, d],
    all [d, d, d, d, lit "-", d, opt d, lit "-", d, opt d, any [oneOf "Tt", plus (oneOf " \t")],
      d, opt d, lit ":", d, d, lit ":", d, d, opt (all [lit ".", star d]), opt zone]]

/-- The tags tried for a text with this first character (none for the empty text), in
order. -/
def resolversFor (first : Option Char) : List (String × Matcher) :=
  match first with
  | none => [("null", nullPattern)]
  | some c =>
    (if "yYnNtTfFoO".contains c then [("bool", boolPattern)] else []) ++
    (if "-+0123456789.".contains c then [("float", floatPattern)] else []) ++
    (if "-+0123456789".contains c then [("int", intPattern)] else []) ++
    (if c = '<' then [("merge", lit "<<")] else []) ++
    (if "~nN".contains c then [("null", nullPattern)] else []) ++
    (if "0123456789".contains c then [("timestamp", timestampPattern)] else []) ++
    (if c = '=' then [("value", lit "=")] else []) ++
    (if "!&*".contains c then [("yaml", any [lit "!", lit "&", lit "*"])] else [])

/-- Whether a pattern matches a whole text, or the text without one final line feed. -/
def matchesLine (m : Matcher) (cs : List Char) : Bool :=
  m.accepts cs || (cs.getLast? == some '\n' && m.accepts cs.dropLast)

/-- The tag of a scalar: from its text when `implicit`, else text. -/
def resolveScalar (text : String) (implicit : Bool) : String :=
  let cs := text.toList
  if implicit then
    match (resolversFor cs.head?).find? (fun (_, m) => matchesLine m cs) with
    | some (name, _) => coreTag name
    | none => coreTag "str"
  else coreTag "str"

end Citations.Yaml
