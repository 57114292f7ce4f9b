import Citations.Fault
import Citations.Data.Literal

/-! # Notices

What the service reports on its way to an answer, beside the answer: warnings about
configured tags that it skips and about styles of a batch that failed and were passed over, and
the error with which a command ends.
-/

namespace Citations

/-- A report made on the way to an answer. -/
inductive Notice where
  /-- a configured RIS tag that is not a tag, skipped -/
  | skippedTag (tag : String)
  /-- a style of a batch that failed with a citation error and was passed over -/
  | styleFailed (label : String) (reason : Fault)
  /-- a command that ended with a citation error -/
  | commandFailed (reason : Fault)

namespace Notice

/-- The text of a notice. -/
def message : Notice → String
  | .skippedTag tag => "Skipping invalid RIS tag: " ++ quoteText tag
  | .styleFailed label reason => "Failed to generate " ++ label ++ " citation: " ++ reason.message
  | .commandFailed reason => reason.message ++ " (" ++ reason.phrase ++ ")"

/-- A notice that reports an error, not a warning. -/
def isError : Notice → Bool
  | .commandFailed _ => true
  | _ => false

end Notice

/-- A result with the notices made on the way to it, in order. -/
structure Logged (α : Type) where
  result : Except Fault α
  notices : List Notice := []

end Citations
