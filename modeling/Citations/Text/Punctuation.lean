import Citations.Text.Basic

/-! # Joining the pieces of a citation

A citation is built from left to right, each piece joined to what came before.

* `appendFragment`: an empty piece changes nothing, and an empty start takes the piece as it
  is. Otherwise the separator is put in unless the text already ends with one of the
  terminators, and a space unless it already ends with one.
* `ensurePeriod`: a text that does not end with a period, or with a period inside a closing
  quote, gets one.
-/

namespace Citations.Text

/-- The terminators after which no separator is put in: space, period and comma. -/
def defaultTerminators : List String := [" ", ".", ","]

/-- Joins a piece to a citation with a separator and a space, as needed. -/
def appendFragment (result fragment : String) (separator : String := ",")
    (terminators : List String := defaultTerminators) : String :=
  if fragment.isEmpty then result
  else if result.isEmpty then fragment
  else
    let r := if !separator.isEmpty && !terminators.any (endsWith result) then result ++ separator
      else result
    let r := if endsWith r " " then r else r ++ " "
    r ++ fragment

/-- A citation ending with a period, or with a period inside a closing quote. -/
def ensurePeriod (result : String) : String :=
  if !result.isEmpty && !endsWith result "." && !endsWith result ".\"" then result ++ "."
  else result

/-- A citation ending with a space. -/
def ensureSpace (result : String) : String :=
  if !result.isEmpty && !endsWith result " " then result ++ " " else result

end Citations.Text
