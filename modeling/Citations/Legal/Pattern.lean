import Citations.Unicode.Properties

/-! # Word patterns of the abbreviation tables

A table pattern stands for a finite list of spellings. Its grammar: `.` is any character but a
line feed, `(` and `)` group, `|` separates alternatives, and every other character stands for
itself. The spellings come in the order in which a matcher tries them: the alternatives of a
group from left to right, an earlier choice before a later one.

A pattern matches as a whole word, regardless of case: at a word boundary, the first spelling
that fits and also ends at a word boundary wins (`Africa(|n)` in `African` is `African`, since
`Africa` does not end a word there). Replacing scans from the left and goes on after each match.

* `spellings`: the spellings of a pattern.
* `replaceWords`: every whole-word match replaced by an abbreviation.
* `containsWord`: whether some spelling occurs as a whole word.
-/

namespace Citations.Legal

open Citations.Unicode

/-- One position of a spelling: any character, or one character regardless of case. -/
inductive Glyph where
  | any
  | lit (c : Char)

/-- A character of text fits a glyph. -/
def Glyph.fits : Glyph → Char → Bool
  | .any, c => c != '\n'
  | .lit p, c => caselessMatch p c

/-- Each spelling of `xs` followed by each of `ys`, earlier choices of `xs` first. -/
def concatSpellings (xs ys : List (List Glyph)) : List (List Glyph) :=
  xs.flatMap (fun x => ys.map (x ++ ·))

mutual

/-- The spellings of alternatives separated by `|`, up to a `)` or the end, and what follows;
`fuel` bounds the depth. -/
def readAlternatives : Nat → List Char → List (List Glyph) × List Char
  | 0, cs => ([], cs)
  | fuel + 1, cs =>
    let (first, rest) := readSequence fuel [[]] cs
    match rest with
    | '|' :: more =>
      let (others, rest') := readAlternatives fuel more
      (first ++ others, rest')
    | _ => (first, rest)

/-- The spellings of a sequence of items up to a `|`, a `)` or the end, after the spellings
`acc` of what came before, and what follows. -/
def readSequence : Nat → List (List Glyph) → List Char → List (List Glyph) × List Char
  | 0, acc, cs => (acc, cs)
  | _ + 1, acc, [] => (acc, [])
  | fuel + 1, acc, c :: rest =>
    if c = '|' ∨ c = ')' then (acc, c :: rest)
    else if c = '(' then
      let (inner, after) := readAlternatives fuel rest
      let after := match after with
        | ')' :: more => more
        | other => other
      readSequence fuel (concatSpellings acc inner) after
    else if c = '.' then readSequence fuel (concatSpellings acc [[.any]]) rest
    else readSequence fuel (concatSpellings acc [[.lit c]]) rest

end

/-- The spellings of a pattern, in the order they are tried; empty spellings are left out. -/
def spellings (pattern : String) : List (List Glyph) :=
  let cs := pattern.toList
  ((readAlternatives (2 * cs.length + 2) cs).1).filter (· ≠ [])

/-- The text after a spelling at its start, with the last character it took. -/
def fitSpelling : List Glyph → List Char → Option Char → Option (List Char × Option Char)
  | [], cs, last => some (cs, last)
  | _ :: _, [], _ => none
  | g :: gs, c :: cs, _ => if g.fits c then fitSpelling gs cs (some c) else none

/-- A word boundary between two characters; the ends of the text count as non-word. -/
def isBoundary (before after : Option Char) : Bool :=
  before.any isWordChar != after.any isWordChar

/-- The text after the first spelling that matches as a whole word at the start of `cs`, with
its last character; `prev` is the character before. -/
def matchWord (spells : List (List Glyph)) (prev : Option Char) (cs : List Char) :
    Option (List Char × Char) :=
  if isBoundary prev cs.head? then
    spells.findSome? fun g =>
      match fitSpelling g cs none with
      | some (rest, some last) => if isBoundary (some last) rest.head? then some (rest, last) else none
      | _ => none
  else none

theorem fitSpelling_length {gs : List Glyph} {cs rest : List Char} {l l' : Option Char}
    (h : fitSpelling gs cs l = some (rest, l')) : rest.length + gs.length = cs.length := by
  induction gs generalizing cs l with
  | nil => simp [fitSpelling] at h; rw [h.1]; simp
  | cons g gs ih =>
    cases cs with
    | nil => simp [fitSpelling] at h
    | cons c cs =>
      simp only [fitSpelling] at h
      split at h
      · have := ih h; simp; omega
      · simp at h

theorem fitSpelling_last {gs : List Glyph} {cs rest : List Char} {c : Char}
    (h : fitSpelling gs cs none = some (rest, some c)) : gs ≠ [] := by
  intro hg; subst hg; simp [fitSpelling] at h

theorem matchWord_shorter {spells : List (List Glyph)} {prev : Option Char} {cs rest : List Char}
    {last : Char} (h : matchWord spells prev cs = some (rest, last)) : rest.length < cs.length := by
  unfold matchWord at h
  split at h
  · obtain ⟨g, _, hg⟩ := List.exists_of_findSome?_eq_some h
    split at hg
    · rename_i rest' last' hfit
      split at hg
      · simp at hg
        obtain ⟨rfl, rfl⟩ := hg
        have h1 := fitSpelling_length hfit
        have h2 := fitSpelling_last hfit
        cases g with
        | nil => exact absurd rfl h2
        | cons _ _ => simp at h1; omega
      · simp at hg
    · simp at hg
  · simp at h

/-- Every whole-word match of the spellings replaced by `rep`, scanning from the left; `prev`
is the character before the text. -/
def replaceWords (spells : List (List Glyph)) (rep : List Char) (prev : Option Char) :
    List Char → List Char
  | [] => []
  | c :: rest =>
    match _h : matchWord spells prev (c :: rest) with
    | some (more, last) => rep ++ replaceWords spells rep (some last) more
    | none => c :: replaceWords spells rep (some c) rest
termination_by cs => cs.length
decreasing_by
  · exact matchWord_shorter _h
  · simp

/-- Some spelling occurs as a whole word; `prev` is the character before the text. -/
def containsWord (spells : List (List Glyph)) (prev : Option Char) : List Char → Bool
  | [] => (matchWord spells prev []).isSome
  | c :: rest => (matchWord spells prev (c :: rest)).isSome || containsWord spells (some c) rest

end Citations.Legal
