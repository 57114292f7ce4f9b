import Citations.Fault
import Citations.Text.Names
import Citations.Text.Cleaning

/-! # Lists of creators

The rules by which styles write several names in a row. A name is put in reading order or
abbreviated before it is listed; a name made only of commas can be neither, and stops the
citation with `Fault.nameWithoutParts`.

* `truncatedNameList`: one name alone; up to seven joined with a conjunction before the last;
  more than seven as the first six, an ellipsis and the last.
* `leadingNameList`: the first name as given, then `, et al` for three or more names, or
  `, and` and the second name in reading order.
* `withoutNames`: the names that are not among the excluded ones.
-/

namespace Citations.Style

open Citations.Text

/-- A name in reading order. -/
def orderName (name : String) : Except Fault String :=
  match readingOrder name with
  | some r => .ok r
  | none => .error .nameWithoutParts

/-- A name with its given names cut to initials. -/
def initialsOf (name : String) : Except Fault String :=
  match abbreviate name with
  | some r => .ok r
  | none => .error .nameWithoutParts

/-- Names joined with a conjunction before the last; more than seven are cut to the first six,
an ellipsis and the last. -/
def truncatedNameList (names : List String) (conjunction : String) : String :=
  match names with
  | [] => ""
  | [only] => only
  | _ =>
    let last := names.getLastD ""
    if names.length ≤ 7 then ", ".intercalate names.dropLast ++ conjunction ++ last
    else ", ".intercalate (names.take 6) ++ ", ... " ++ last

/-- The first name as given, then `, et al` for three names or more, or the second name in
reading order after `, and`. -/
def leadingNameList (names : List String) : Except Fault String :=
  match names with
  | [] => .ok ""
  | [first] => .ok (capitalizeFirst first)
  | [first, second] => do pure (capitalizeFirst first ++ ", and " ++ (← orderName second))
  | first :: _ => .ok (capitalizeFirst first ++ ", et al")

/-- The names not among the excluded ones. -/
def withoutNames (names excluded : List String) : List String :=
  names.filter (!excluded.contains ·)

/-- The creators a style leads with: the authors other than the publisher, or the editors when
there are no such authors. The flag says whether they are the editors: also when every author
is an editor. -/
def leadingCreators (authors editors : List String) (publisher : String) : List String × Bool :=
  let creators := withoutNames authors [publisher]
  if creators.isEmpty && !editors.isEmpty then (editors, true)
  else if !creators.isEmpty && !editors.isEmpty && (withoutNames creators editors).isEmpty then
    (creators, true)
  else (creators, false)

end Citations.Style
