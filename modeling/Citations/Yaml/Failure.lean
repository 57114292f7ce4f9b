import Citations.Data.Literal

/-! # Marks and failures of YAML reading

A `Mark` is a place in a stream: how many characters come before it, and its line and column,
both counted from zero. A reader that gives up says where: the stage that found the problem
(scanning characters into tokens, parsing tokens into events, composing events into nodes, or
constructing data from nodes), an optional context with its own mark ("while scanning a simple
key"), and the problem with the mark where it was found.

Some failures come from building the data itself: numbers too long to convert, dates that are
not on the calendar, escapes of no character. They carry no mark.

* `Failure.message`: the text of a failure in a file of a given name. A mark is written as
  `  in "NAME", line L, column C`, counted from one; the context's mark is left out when it is
  the problem's mark.
* `Failure.kind`: the name of the kind of failure.
-/

namespace Citations.Yaml

/-- A place in a stream: the characters before it, and its line and column from zero. -/
structure Mark where
  index : Nat := 0
  line : Nat := 0
  column : Nat := 0
  deriving BEq, Inhabited

/-- The stages of reading a stream. -/
inductive Stage where
  | scanning
  | parsing
  | composing
  | constructing
  deriving BEq

/-- A problem found at a mark, with the context it was found in. -/
structure Problem where
  context : Option String := none
  contextMark : Option Mark := none
  problem : String
  mark : Mark

/-- Why reading a stream fails. -/
inductive Failure where
  /-- a character that a stream may not hold, at a position counted in characters -/
  | unprintable (position code : Nat)
  /-- a problem found while reading, at a mark -/
  | marked (stage : Stage) (p : Problem)
  /-- a decimal integer with more digits than a number may be read from -/
  | tooManyDigits (digits : Nat)
  /-- an integer with more digits than a number may be written with -/
  | tooLongToWrite
  /-- text that is not an integer in the base -/
  | notAnInteger (base : Nat) (text : String)
  /-- text that is not a floating-point number -/
  | notAFloat (text : String)
  /-- a number read from nothing -/
  | emptyNumber
  /-- a date or time that is not on the calendar or clock -/
  | outOfRange (what : String)
  /-- an offset from universal time of a day or more, given as its days and seconds -/
  | offsetTooLarge (days seconds : Int)
  /-- an escape of a code point past the last character -/
  | noSuchCharacter
  /-- an escape of a code point past what a machine integer holds -/
  | codeTooLarge
  /-- a truth value that is none of the known words -/
  | unknownTruth (word : String)
  /-- an explicit timestamp that is not written as one -/
  | notATimestamp
  /-- a timestamp asked of a mapping -/
  | timestampOfMapping
  /-- a chain of value keys that leads back to itself -/
  | tooDeep

namespace Failure

/-- The name of the kind of a failure. -/
def kind : Failure → String
  | .unprintable .. => "ReaderError"
  | .marked .scanning _ => "ScannerError"
  | .marked .parsing _ => "ParserError"
  | .marked .composing _ => "ComposerError"
  | .marked .constructing _ => "ConstructorError"
  | .unknownTruth _ => "KeyError"
  | .codeTooLarge => "OverflowError"
  | .notATimestamp => "AttributeError"
  | .timestampOfMapping => "TypeError"
  | .tooDeep => "RecursionError"
  | .emptyNumber => "IndexError"
  | _ => "ValueError"

/-- A mark as a line of a message about the file `name`. -/
def markLine (name : String) (m : Mark) : String :=
  "  in \"" ++ name ++ "\", line " ++ intText (m.line + 1) ++ ", column " ++ intText (m.column + 1)

/-- The lines of a problem in the file `name`. -/
def problemLines (name : String) (p : Problem) : List String :=
  let contextMark := match p.contextMark with
    | some m => if m.line == p.mark.line && m.column == p.mark.column then [] else [markLine name m]
    | none => []
  p.context.toList ++ contextMark ++ [p.problem, markLine name p.mark]

/-- An offset of days and seconds as its constructor is written. -/
def offsetText (days seconds : Int) : String :=
  let parts := (if days != 0 then ["days=" ++ intText days] else []) ++
    (if seconds != 0 then ["seconds=" ++ intText seconds] else [])
  "datetime.timedelta(" ++ (if parts.isEmpty then "0" else ", ".intercalate parts) ++ ")"

/-- The text of a failure while reading the file `name`. -/
def message (name : String) : Failure → String
  | .unprintable position code =>
    "unacceptable character #x" ++ hexPadded 4 code ++ ": special characters are not allowed\n" ++
      "  in \"" ++ name ++ "\", position " ++ intText position
  | .marked _ p => "\n".intercalate (problemLines name p)
  | .tooManyDigits digits =>
    "Exceeds the limit (4300 digits) for integer string conversion: value has " ++ intText digits ++
      " digits; use sys.set_int_max_str_digits() to increase the limit"
  | .tooLongToWrite =>
    "Exceeds the limit (4300 digits) for integer string conversion; " ++
      "use sys.set_int_max_str_digits() to increase the limit"
  | .notAnInteger base text =>
    "invalid literal for int() with base " ++ intText base ++ ": " ++
      String.ofList ((quoteText text).toList.take 200)
  | .notAFloat text => "could not convert string to float: " ++ quoteText text
  | .emptyNumber => "string index out of range"
  | .outOfRange what => what
  | .offsetTooLarge days seconds =>
    "offset must be a timedelta strictly between -timedelta(hours=24) and " ++
      "timedelta(hours=24), not " ++ offsetText days seconds ++ "."
  | .noSuchCharacter => "chr() arg not in range(0x110000)"
  | .codeTooLarge => "Python int too large to convert to C int"
  | .unknownTruth word => quoteText word
  | .notATimestamp => "'NoneType' object has no attribute 'groupdict'"
  | .timestampOfMapping => "expected string or bytes-like object, got 'list'"
  | .tooDeep => "maximum recursion depth exceeded"

end Failure

/-- A problem found while scanning. -/
def scanProblem (context : Option String) (contextMark : Option Mark) (problem : String)
    (mark : Mark) : Failure :=
  .marked .scanning { context, contextMark, problem, mark }

end Citations.Yaml
