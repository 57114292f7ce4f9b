import Citations.Unicode.Properties
import Citations.Text.Basic
import Citations.Text.Case

/-! # Cleaning catalog fields

Catalog fields come with the punctuation of the record they were cut from: a title ends in
` /`, a place in ` :`, a name in a period. Cleaning removes what dangles at the end and one
pair of brackets around the whole value.

* `cleanEndPunctuation`: after trimming, drops trailing blanks and separators (`, ; : / =`)
  and a final period, until nothing changes. A period stays when it ends an ellipsis `...` or
  an initial: a capital A to Z standing at the start or after a blank or a period.
* `stripBrackets`: drops one pair `()`, `[]` or `{}` that encloses the whole trimmed value,
  the opening bracket being closed only at the very end.
* `cleanField`: both, as `cleanEnd (stripBrackets (cleanEnd v))`.
-/

namespace Citations.Text

open Citations.Unicode

/-- A character that dangles at the end of a field: a blank or one of `, ; : / =`. -/
def isTrailingMark (c : Char) : Bool :=
  isBlank c || c == ',' || c == ';' || c == ':' || c == '/' || c == '='

/-- Drops the trailing blanks and separators. -/
def dropTrailingMarks (cs : List Char) : List Char :=
  (cs.reverse.dropWhile isTrailingMark).reverse

/-- The text ends with an ellipsis `...`. -/
def endsWithEllipsis (cs : List Char) : Bool := ['.', '.', '.'].isSuffixOf cs

/-- The text ends with an initial: a capital A to Z and a period, the capital at the start or
after a blank or a period. -/
def endsWithInitial (cs : List Char) : Bool :=
  match cs.reverse with
  | '.' :: c :: before =>
    ('A' ≤ c && c ≤ 'Z') &&
      (match before with
        | [] => true
        | b :: _ => isBlank b || b == '.')
  | _ => false

/-- The period at the end is dangling: it ends neither an ellipsis nor an initial. -/
def danglingPeriod (cs : List Char) : Bool :=
  cs.getLast? == some '.' && !endsWithEllipsis cs && !endsWithInitial cs

/-- One round of cleaning: trailing marks, then a dangling period, then trailing blanks. -/
def cleanRound (cs : List Char) : List Char :=
  let r := dropTrailingMarks cs
  trimRightChars (if danglingPeriod r then r.dropLast else r)

/-- Rounds of cleaning until one changes nothing; `fuel` bounds their number. -/
def cleanRounds : Nat → List Char → List Char
  | 0, cs => cs
  | fuel + 1, cs =>
    let r := cleanRound cs
    if r = cs then cs else cleanRounds fuel r

/-- A trimmed field without dangling separators or period. Each round that changes the text
makes it shorter, so one more round than there are characters reaches the end. -/
def cleanEndChars (cs : List Char) : List Char :=
  let t := trimChars cs
  cleanRounds (t.length + 1) t

/-- A field without dangling separators or period. -/
def cleanEndPunctuation (s : String) : String := String.ofList (cleanEndChars s.toList)

/-- The closing partner of an opening bracket. -/
def closingBracket? : Char → Option Char
  | '(' => some ')'
  | '[' => some ']'
  | '{' => some '}'
  | _ => none

/-- The bracket opened at the start closes before the last character: running through `cs`
with `depth` brackets open, the depth falls to zero at a character that is not the last. -/
def closesEarly (opener closer : Char) : Nat → List Char → Bool
  | _, [] => false
  | depth, c :: rest =>
    if c = opener then closesEarly opener closer (depth + 1) rest
    else if c = closer then
      if depth = 1 then !rest.isEmpty
      else closesEarly opener closer (depth - 1) rest
    else closesEarly opener closer depth rest

/-- The trimmed field without one pair of brackets that encloses all of it. -/
def stripBracketsChars (cs : List Char) : List Char :=
  let t := trimChars cs
  match t with
  | c :: rest@(_ :: _) =>
    match closingBracket? c with
    | some closer =>
      if t.getLast? == some closer && !closesEarly c closer 1 rest then trimChars rest.dropLast
      else t
    | none => t
  | _ => t

/-- A field without one pair of enclosing brackets. -/
def stripBrackets (s : String) : String := String.ofList (stripBracketsChars s.toList)

/-- A field cleaned of dangling punctuation and enclosing brackets. -/
def cleanField (s : String) : String :=
  cleanEndPunctuation (stripBrackets (cleanEndPunctuation s))

/-- A phrase whose first character is lower case begins with its upper case instead. -/
def capitalizeFirst (s : String) : String :=
  match s.toList with
  | c :: rest => if isLowercase c then String.ofList (upperFull c ++ rest) else s
  | [] => s

/-- Drops trailing periods and blanks, unless the text ends with an ellipsis. -/
def stripTrailingPeriods (s : String) : String :=
  let t := trimRightChars s.toList
  if endsWithEllipsis t then String.ofList t
  else String.ofList (trimRightChars (t.reverse.dropWhile (· == '.')).reverse)

/-- The first value of a field, trimmed, or the empty text. -/
def firstValue (values : List String) : String :=
  match values with
  | v :: _ => trim v
  | [] => ""

end Citations.Text
