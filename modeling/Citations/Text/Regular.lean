/-! # Regular patterns as matchers

A `Matcher` takes a text and a position in it and gives every position where a match that
starts there may end: none when it cannot match, several when it can match pieces of different
lengths. Matchers combine as regular expressions do: a sequence matches the first matcher and
then the second from where the first ended, an alternative gives what either gives, and a
repetition matches again and again while it reads something.

A pattern matches a whole text when a match from its start may end at its end.
-/

namespace Citations.Text

/-- The positions where a match starting at a position of a text may end. -/
def Matcher := Array Char → Nat → List Nat

namespace Matcher

/-- One character that satisfies `p`. -/
def char (p : Char → Bool) : Matcher := fun s i =>
  match s[i]? with
  | some c => if p c then [i + 1] else []
  | none => []

/-- One character of a list. -/
def oneOf (chars : String) : Matcher := char (chars.toList.contains ·)

/-- A digit from `lo` to `hi`. -/
def digit (lo : Char := '0') (hi : Char := '9') : Matcher := char fun c => lo ≤ c && c ≤ hi

/-- A text, exactly. -/
def lit (w : String) : Matcher := fun s i =>
  if (w.toList.zipIdx.all fun (c, k) => s[i + k]? == some c) then [i + w.length] else []

/-- Nothing: an empty match. -/
def empty : Matcher := fun _ i => [i]

/-- One matcher, then the other from where it ended. -/
def seq (a b : Matcher) : Matcher := fun s i => (a s i).flatMap (b s)

/-- Either matcher. -/
def alt (a b : Matcher) : Matcher := fun s i => a s i ++ b s i

/-- The matcher or nothing. -/
def opt (a : Matcher) : Matcher := alt a empty

/-- The matcher any number of times, each time reading at least one character. -/
def star (a : Matcher) : Matcher := fun s i => go s (s.size + 1) [i] [i]
where
  /-- `found` holds every end reached; `front` those reached last. -/
  go (s : Array Char) : Nat → List Nat → List Nat → List Nat
    | 0, found, _ => found
    | fuel + 1, found, front =>
      let next := ((front.flatMap fun j => (a s j).filter (· > j)).eraseDups).filter
        (!found.contains ·)
      if next.isEmpty then found else go s fuel (found ++ next) next

/-- The matcher at least once. -/
def plus (a : Matcher) : Matcher := seq a (star a)

/-- A sequence of matchers. -/
def all : List Matcher → Matcher
  | [] => empty
  | m :: ms => seq m (all ms)

/-- One of several matchers. -/
def any : List Matcher → Matcher
  | [] => fun _ _ => []
  | m :: ms => alt m (any ms)

/-- Whether the matcher matches the whole text. -/
def accepts (m : Matcher) (cs : List Char) : Bool :=
  let s := cs.toArray
  (m s 0).contains s.size

end Matcher

end Citations.Text
