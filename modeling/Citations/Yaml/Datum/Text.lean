import Citations.Yaml.Datum
import Citations.Yaml.Bytes
import Citations.Yaml.Number
import Citations.Data.Value

/-! # Data written as text

Data are written as the data's language writes them: as a literal (`Store.literal`), the way a
collection shows its items, or as plain text (`Store.text`), which writes text, dates and
moments as they are and anything else as its literal.

* Literals: `None`, `True`, `False`; integers in decimal (no more than 4300 digits, else a
  fault); floating-point numbers in their shortest form; text in quotes; bytes as `b'...'`;
  dates and moments as their constructors (`datetime.date(2020, 1, 2)`); lists in brackets,
  mappings and sets in braces (`set()` when empty), pairs in parentheses. A collection met again
  inside itself is written `[...]`, `{...}`, `set(...)` or `(...)`.
* Plain text of a date is `2020-01-02`; of a moment `2020-01-02 10:00:00`, with `.ffffff` when
  there are microseconds and the offset as `+HH:MM` when it is known.
* `Store.toValue` gives the value a datum stands for as a configuration's value.
* `Document` is the data of a document, and a `Loader` what reads one from a file's text.
-/

namespace Citations.Yaml

/-- An integer in decimal, if it has no more digits than numbers may be written with. -/
def intLiteral (n : Int) : Except Failure String :=
  let text := intText n
  if (if n < 0 then text.length - 1 else text.length) > digitLimit then .error .tooLongToWrite
  else .ok text

/-- A number with at least two digits. -/
def pad2 (n : Nat) : String := if n < 10 then "0" ++ intText n else intText n

/-- A number with at least `w` digits. -/
def padTo (w n : Nat) : String :=
  let s := intText n
  String.ofList (List.replicate (w - s.length) '0') ++ s

/-- A date as text: `YYYY-MM-DD`. -/
def Date.text (d : Date) : String := padTo 4 d.year ++ "-" ++ pad2 d.month ++ "-" ++ pad2 d.day

/-- A date as its constructor. -/
def Date.literal (d : Date) : String :=
  "datetime.date(" ++ intText d.year ++ ", " ++ intText d.month ++ ", " ++ intText d.day ++ ")"

/-- An offset from universal time as text: `+HH:MM`, with `:SS` when there are seconds. -/
def offsetText (offset : Int) : String :=
  let sign := if offset < 0 then "-" else "+"
  let n := offset.natAbs
  sign ++ pad2 (n / 3600) ++ ":" ++ pad2 (n % 3600 / 60) ++ (if n % 60 != 0 then ":" ++ pad2 (n % 60) else "")

/-- A moment as text. -/
def Moment.text (m : Moment) : String :=
  m.date.text ++ " " ++ pad2 m.hour ++ ":" ++ pad2 m.minute ++ ":" ++ pad2 m.second ++
    (if m.microsecond != 0 then "." ++ padTo 6 m.microsecond else "") ++
    (match m.offset with
      | some o => offsetText o
      | none => "")

/-- A zone as its constructor. -/
def zoneLiteral (offset : Int) : String :=
  if offset = 0 then "datetime.timezone.utc"
  else "datetime.timezone(" ++ Failure.offsetText (offset / 86400) (offset % 86400) ++ ")"

/-- A moment as its constructor: seconds only when there are seconds or microseconds. -/
def Moment.literal (m : Moment) : String :=
  let fields : List Nat := [m.date.year, m.date.month, m.date.day, m.hour, m.minute]
  let parts := fields.map (fun (n : Nat) => intText (Int.ofNat n)) ++
    (if m.second != 0 || m.microsecond != 0 then [intText m.second] else []) ++
    (if m.microsecond != 0 then [intText m.microsecond] else []) ++
    (match m.offset with
      | some o => ["tzinfo=" ++ zoneLiteral o]
      | none => [])
  "datetime.datetime(" ++ ", ".intercalate parts ++ ")"

/-- The literals of data, joined by commas. -/
def joinLiterals (write : Datum → Except Failure String) (items : List Datum) : Except Failure String := do
  let texts ← items.mapM write
  pure (", ".intercalate texts)

/-- A datum as a literal; `open` holds the collections being written, `fuel` bounds the
nesting. -/
def Store.literalWith (store : Store) : Nat → List Nat → Datum → Except Failure String
  | _, _, .none => .ok "None"
  | _, _, .bool b => .ok (if b then "True" else "False")
  | _, _, .int n => intLiteral n
  | _, _, .float x _ => .ok (floatText x)
  | _, _, .str s => .ok (quoteText s)
  | _, _, .bytes bs => .ok (bytesLiteral bs)
  | _, _, .date d => .ok d.literal
  | _, _, .moment m => .ok m.literal
  | 0, _, .ref _ => .ok "..."
  | fuel + 1, open_, .ref id =>
    let again := open_.contains id
    let inner := store.literalWith fuel (id :: open_)
    match store[id]? with
    | some (.list items) =>
      if again then .ok "[...]" else do
        pure ("[" ++ (← joinLiterals inner items.toList) ++ "]")
    | some (.dict entries) =>
      if again then .ok "\x7b...\x7d" else do
        let texts ← entries.toList.mapM fun (k, v) => do
          pure ((← inner k) ++ ": " ++ (← inner v))
        pure ("\x7b" ++ ", ".intercalate texts ++ "\x7d")
    | some (.set items) =>
      if again then .ok "set(...)"
      else if items.isEmpty then .ok "set()"
      else do pure ("\x7b" ++ (← joinLiterals inner items.toList) ++ "\x7d")
    | some (.pair a b) =>
      if again then .ok "(...)" else do
        pure ("(" ++ (← inner a) ++ ", " ++ (← inner b) ++ ")")
    | none => .ok "None"

/-- A datum as a literal. -/
def Store.literal (store : Store) (d : Datum) : Except Failure String :=
  store.literalWith (store.size + 1) [] d

/-- A datum as text: text, dates and moments as they are, anything else as its literal. -/
def Store.text (store : Store) : Datum → Except Failure String
  | .str s => .ok s
  | .date d => .ok d.text
  | .moment m => .ok m.text
  | d => store.literal d

/-- The items of a list, when the datum is one. -/
def Store.listItems? (store : Store) : Datum → Option (List Datum)
  | .ref id =>
    match store[id]? with
    | some (.list items) => some items.toList
    | _ => none
  | _ => none

/-- The entries of a mapping, when the datum is one. -/
def Store.entries? (store : Store) : Datum → Option (List (Datum × Datum))
  | .ref id =>
    match store[id]? with
    | some (.dict entries) => some entries.toList
    | _ => none
  | _ => none

/-- The value a datum stands for in a configuration; `fuel` bounds the nesting. -/
def Store.toValueWith (store : Store) : Nat → Datum → Value
  | _, .none => .null
  | _, .bool b => .bool b
  | _, .int n => .int n
  | _, .float x _ => .float x
  | _, .str s => .str s
  | _, .bytes bs => .str (bytesLiteral bs)
  | _, .date d => .str d.text
  | _, .moment m => .str m.text
  | 0, .ref _ => .null
  | fuel + 1, .ref id =>
    match store[id]? with
    | some (.list items) => .list (items.toList.map (store.toValueWith fuel))
    | some (.set items) => .list (items.toList.map (store.toValueWith fuel))
    | some (.pair a b) => .list [store.toValueWith fuel a, store.toValueWith fuel b]
    | some (.dict entries) =>
      .dict (entries.toList.map fun (k, v) =>
        ((store.text k).toOption.getD "", store.toValueWith fuel v))
    | none => .null

/-- The value a datum stands for in a configuration. -/
def Store.toValue (store : Store) (d : Datum) : Value := store.toValueWith (store.size + 1) d

/-- The data of a document: its collections and the datum of its root. -/
structure Document where
  store : Store
  root : Datum

/-- A YAML loader: the data of the one document of a file's text, or the failure that stopped
it. The command line is written for any loader; the executable runs with `Document.ofText`. -/
abbrev Loader := String → Except Failure Document

end Citations.Yaml
