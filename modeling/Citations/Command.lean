import Citations.Service
import Citations.Yaml.Datum.Text
import Citations.Data.Json

/-! # The command line

`PROG FIELDS [--style KEY | --all] [--config FILE] [--record-url URL] [-v]` renders the catalog
record in the file `FIELDS` (YAML, or JSON, which is YAML too) in one style, APA unless
`--style` names another, or with `--all` in the four prose styles as a JSON list of labels and
texts.

Arguments are read the way of common option parsers: a long option may be shortened to any
unique prefix and take its value after `=`, short flags may be grouped (`-vv`), and `-h` asks for
help. A malformed command line exits with status 2 and writes nothing; a citation error exits
with status 1 and is reported as a notice; other failures end the command.

The fields file holds a mapping from field names to values; a field given one value has a list
of one, null values are dropped, and values that are not text are written as the program's
literals (`3.5`, `True`). An empty file is an empty mapping.

The command is written for any YAML loader (`Yaml.Loader`) and any markup reader
(`MarkupReader`); the executable runs with `Yaml.Document.ofText` and `Markup.plainText`.

* `Command.parseArgs`: what a command line asks for.
* `Command.run`: the exit status, the standard output and the notices of a command.
* `Command.usage` and `Command.help`: the usage line and the help text.
-/

namespace Citations

open Citations.Text

/-- A configuration loaded by `load` from the YAML text of the file `file`. -/
def ServiceConfig.ofText (load : Yaml.Loader) (file text : String) : Except Fault ServiceConfig :=
  match load text with
  | .error failure => .error (.yaml file failure)
  | .ok doc =>
    match ServiceConfig.ofValue (doc.store.toValue doc.root) with
    | .ok c => .ok c
    | .error issues => .error (.invalidConfig issues)

namespace Command

/-- The options of the command line. -/
inductive Flag where
  | help
  | style
  | all
  | config
  | recordUrl
  | verbose
  deriving DecidableEq

/-- Options that take a value. -/
def Flag.takesValue : Flag → Bool
  | .style | .config | .recordUrl => true
  | _ => false

/-- An argument as the parser sees it. -/
inductive Word where
  /-- a value or a positional argument -/
  | plain (s : String)
  /-- a long option, in full or by a unique prefix, with a value given after `=` -/
  | long (flag : Flag) (value : Option String)
  /-- `-` and letters, the first of them a short flag -/
  | short (letters : List Char)
  /-- something that looks like an option but is none -/
  | unknown (s : String)
  /-- a prefix that more than one long option starts with -/
  | ambiguous
  /-- `--`: what follows is positional -/
  | stop

/-- Whether a text looks like a negative number: `-` then digits, or digits around a dot. -/
def isNegativeNumber (s : String) : Bool :=
  match s.toList with
  | '-' :: rest =>
    let isD := fun (c : Char) => '0' ≤ c && c ≤ '9'
    (!rest.isEmpty && rest.all isD) ||
      (match rest.dropWhile isD with
        | '.' :: frac => !frac.isEmpty && frac.all isD
        | _ => false)
  | _ => false

/-- The long spellings of the options. -/
def longSpellings : List (String × Flag) :=
  [("--help", .help), ("--style", .style), ("--all", .all), ("--config", .config),
   ("--record-url", .recordUrl), ("--verbose", .verbose)]

/-- The short flags, by their letter. -/
def shortFlag? : Char → Option Flag
  | 'h' => some .help
  | 'v' => some .verbose
  | _ => none

/-- What an argument is: a plain word, a long option (in full or by a unique prefix, with a value
after `=`), short flags, or an unknown option. -/
def classify (arg : String) : Word :=
  match arg.toList with
  | [] => .plain arg
  | ['-'] => .plain arg
  | '-' :: '-' :: rest =>
    let name := '-' :: '-' :: rest.takeWhile (· != '=')
    let value := match rest.dropWhile (· != '=') with
      | '=' :: v => some (String.ofList v)
      | _ => none
    match longSpellings.find? (·.1 == String.ofList name) with
    | some (_, f) => .long f value
    | none =>
      match longSpellings.filter (fun (sp, _) => name.isPrefixOf sp.toList) with
      | [(_, f)] => .long f value
      | [] => if isNegativeNumber arg || arg.toList.contains ' ' then .plain arg else .unknown arg
      | _ => .ambiguous
  | '-' :: c :: rest =>
    if (shortFlag? c).isSome then .short (c :: rest)
    else if isNegativeNumber arg || arg.toList.contains ' ' then .plain arg
    else .unknown arg
  | _ => .plain arg

/-- What the command line asks for. -/
structure Request where
  fields : Option String := none
  style : String := "apa"
  styleGiven : Bool := false
  all : Bool := false
  config : Option String := none
  recordUrl : Option String := none
  verbose : Bool := false

/-- What reading a command line comes to. -/
inductive Parsed where
  | request (r : Request)
  | help
  | malformed

/-- A request with one more option taken; none when the option conflicts or its value is not
allowed. -/
def Request.take (r : Request) (f : Flag) (value : String) : Option Request :=
  match f with
  | .style =>
    if !CitationStyle.keys.contains value || r.all then none
    else some { r with style := value, styleGiven := true }
  | .all => if r.styleGiven then none else some { r with all := true }
  | .config => some { r with config := some value }
  | .recordUrl => some { r with recordUrl := some value }
  | .verbose => some { r with verbose := true }
  | .help => some r

/-- The flags of a group of short flags (`-vh`): a letter that is no flag ends the group and
makes the line malformed at its end; a `-`, or a value after `=`, makes it malformed at once. -/
def shortFlags : List Char → Option (List Flag × Bool)
  | [] => some ([], false)
  | '-' :: _ => none
  | c :: rest =>
    match shortFlag? c with
    | none => some ([], true)
    | some f =>
      match rest with
      | '=' :: _ => none
      | _ => (shortFlags rest).map fun (fs, extra) => (f :: fs, extra)

/-- Reads the words of a command line from left to right. Help ends the reading at once; a
malformed option does too, and an unknown option or a second positional argument makes the
line malformed at its end. -/
def readWords (r : Request) (extra : Bool) : List Word → Parsed
  | [] => if extra || r.fields.isNone then .malformed else .request r
  | .plain s :: .stop :: rest =>
    -- `--` right after the file is dropped, and every word after it is positional
    if r.fields.isNone then readWords { r with fields := some s } (extra || !rest.isEmpty) []
    else .malformed
  | .stop :: rest =>
    if r.fields.isNone then
      match rest with
      | .plain p :: more => readWords { r with fields := some p } (extra || !more.isEmpty) []
      | [] => readWords r extra []
      | _ :: more => readWords { r with fields := some "" } (extra || !more.isEmpty) []
    else .malformed
  | .plain s :: rest =>
    if r.fields.isNone then readWords { r with fields := some s } extra rest
    else readWords r true rest
  | .unknown _ :: rest => readWords r true rest
  | .ambiguous :: _ => .malformed
  | .long f value :: rest =>
    if f = .help then (if value.isSome then .malformed else .help)
    else if f.takesValue then
      match value, rest with
      | some v, more =>
        match r.take f v with
        | some r' => readWords r' extra more
        | none => .malformed
      | none, .plain v :: more =>
        match r.take f v with
        | some r' => readWords r' extra more
        | none => .malformed
      | none, _ => .malformed
    else
      match value with
      | some _ => .malformed
      | none =>
        match r.take f "" with
        | some r' => readWords r' extra rest
        | none => .malformed
  | .short letters :: rest =>
    match shortFlags letters with
    | none => .malformed
    | some (flags, more) =>
      if flags.contains .help then .help
      else
        match flags.foldlM (fun acc g => acc.take g "") r with
        | some r' => readWords r' (extra || more) rest
        | none => .malformed
termination_by ws => ws.length

/-- What a command line asks for. -/
def parseArgs (args : List String) : Parsed :=
  -- every argument before `--` is classified first, and an ambiguous one is refused at once
  let words := args.map fun a => if a = "--" then Word.stop else classify a
  if (words.takeWhile (fun w => !(w matches .stop))).any (fun w => w matches .ambiguous) then .malformed
  else readWords {} false words

/-- The parts of the usage line after the program's name: the options, then the positional
argument. -/
def usageParts : List String × List String :=
  (["[-h]", "[--style {apa,citeas,cms,lbb,mla,ris} | --all]", "[--config CONFIG]",
    "[--record-url RECORD_URL]", "[-v]"], ["fields"])

/-- The width of lines of help. -/
def helpWidth : Nat := 78

/-- Parts laid out on lines no wider than the help width, each line after `indent`; the first
line's length starts from `start`. -/
def wrapParts (parts : List String) (indent : Nat) (start : Nat) : List String :=
  let pad := String.ofList (List.replicate indent ' ')
  let (lines, line, _) := parts.foldl (fun (acc : List String × List String × Nat) part =>
    let (lines, line, len) := acc
    if len + 1 + part.length > helpWidth && !line.isEmpty then
      (lines ++ [pad ++ " ".intercalate line], [part], indent - 1 + part.length + 1)
    else (lines, line ++ [part], len + part.length + 1)) ([], [], start)
  if line.isEmpty then lines else lines ++ [pad ++ " ".intercalate line]

/-- The usage line of the command, wrapped to the help width. -/
def usage (prog : String) : String :=
  let (opts, pos) := usageParts
  let prefix_ := "usage: "
  let whole := " ".intercalate (prog :: opts ++ pos)
  if prefix_.length + whole.length ≤ helpWidth then prefix_ ++ whole ++ "\n"
  else if 4 * (prefix_.length + prog.length) ≤ 3 * helpWidth then
    let indent := prefix_.length + prog.length + 1
    let first := wrapParts (prog :: opts) indent (prefix_.length - 1)
    let first := match first with
      | l :: ls => String.ofList (l.toList.drop indent) :: ls
      | [] => []
    prefix_ ++ "\n".intercalate (first ++ wrapParts pos indent (indent - 1)) ++ "\n"
  else
    let indent := prefix_.length
    let together := wrapParts (opts ++ pos) indent (indent - 1)
    let lines := if together.length > 1 then
        wrapParts opts indent (indent - 1) ++ wrapParts pos indent (indent - 1)
      else together
    prefix_ ++ "\n".intercalate (prog :: lines) ++ "\n"

/-- The help text of the command. -/
def help (prog : String) : String :=
  usage prog ++ "\nFormat a catalog record as a citation\n\npositional arguments:\n" ++
  "  fields                Path to a YAML/JSON file of catalog fields\n\noptions:\n" ++
  "  -h, --help            show this help message and exit\n" ++
  "  --style {apa,citeas,cms,lbb,mla,ris}\n" ++
  "                        Citation style (default: apa)\n" ++
  "  --all                 Render MLA, APA, Chicago and Bluebook as a JSON list\n" ++
  "  --config CONFIG       Path to a service config YAML\n" ++
  "  --record-url RECORD_URL\n" ++
  "                        Catalog URL of the record (RIS)\n" ++
  "  -v, --verbose         Debug logging\n"

/-- The raw fields of a fields document: a mapping, each field a list of texts; a document that
counts as false is an empty mapping. A field whose value is null is left out, a list gives its
items and any other value itself, null items are dropped, and the key and items are written as
text. Keys written alike are one field, in the place of the first and with the last's values. -/
def fieldsOf (file : String) (doc : Yaml.Document) : Except Fault Value :=
  let store := doc.store
  let entries := if store.isTruthy doc.root then store.entries? doc.root else some []
  match entries with
  | none => .error (.fieldsNotMapping file)
  | some entries =>
    let field := fun (acc : List (String × Value)) (entry : Yaml.Datum × Yaml.Datum) =>
      match entry.2 with
      | .none => Except.ok acc
      | value => do
        let items := ((store.listItems? value).getD [value]).filter fun (d : Yaml.Datum) => !(d matches .none)
        let texts ← items.mapM store.text
        let name ← store.text entry.1
        pure (Value.insertEntry name (.list (texts.map .str)) acc)
    match entries.foldlM field [] with
    | .ok fields => .ok (.dict fields)
    | .error failure => .error (.yaml file failure)

/-- What a command ends with: its exit status and standard output. -/
structure Outcome where
  exit : Nat
  stdout : String

/-- Runs a command line. `prog` is the command's name and `files` gives the text of each file
that exists; `read` reads markup in RIS values and `load` reads YAML files. -/
def run (read : MarkupReader) (load : Yaml.Loader) (prog : String) (args : List String)
    (files : String → Option String) : Logged Outcome :=
  match parseArgs args with
  | .malformed => ⟨.ok ⟨2, ""⟩, []⟩
  | .help => ⟨.ok ⟨0, help prog⟩, []⟩
  | .request r =>
    let readFile (path : String) : Except Fault String :=
      match files path with
      | some text => .ok text
      | none => .error (.missingFile path)
    let config : Except Fault ServiceConfig := match r.config with
      | some path => do ServiceConfig.ofText load path (← readFile path)
      | none => .ok ServiceConfig.defaults
    let path := r.fields.getD ""
    let fields : Except Fault Value := do
      let text ← readFile path
      match load text with
      | .error failure => .error (.yaml path failure)
      | .ok doc => fieldsOf path doc
    match config with
    | .error f => ⟨.error f, []⟩
    | .ok config =>
      let failed := fun (f : Fault) (notices : List Notice) =>
        if f.isCitationError then (⟨.ok ⟨1, ""⟩, notices ++ [.commandFailed f]⟩ : Logged Outcome)
        else ⟨.error f, notices⟩
      match fields with
      | .error f => failed f []
      | .ok raw =>
        if r.all then
          let out := renderAll read config raw
          match out.result with
          | .error f => failed f out.notices
          | .ok results =>
            let payload := Value.list (results.map fun res =>
              .dict [("label", .str res.label), ("value", .str res.body)])
            ⟨.ok ⟨0, Json.write (some 2) 0 payload ++ "\n"⟩, out.notices⟩
        else
          let out := render read config (some r.style) raw r.recordUrl
          match out.result with
          | .error f => failed f out.notices
          | .ok res =>
            let body := if endsWith res.body "\n" then res.body else res.body ++ "\n"
            ⟨.ok ⟨0, body⟩, out.notices⟩

end Command

end Citations
