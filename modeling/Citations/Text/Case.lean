import Citations.Unicode.Properties

/-! # Case of text

Lower and upper case of whole strings, and the test that a word is written in lower case.

* `lower` maps each character to its full lower case, except a capital sigma, which becomes
  the final form `ς` when it ends a word: a cased character stands before it and none after it,
  looking past characters that are ignorable for case.
* `upper` maps each character to its full upper case (`ß` becomes `SS`).
* `isLowerWord`: no character is upper or title case, and at least one is lower case.
-/

namespace Citations.Text

open Citations.Unicode

/-- The capital sigma ends a word: a cased character stands before it, and no cased character
after it, looking past case-ignorable characters on both sides. `before` is reversed. -/
def endsWord (before after : List Char) : Bool :=
  (match before.dropWhile isCaseIgnorable with
    | c :: _ => isCased c
    | [] => false) &&
  (match after.dropWhile isCaseIgnorable with
    | c :: _ => !isCased c
    | [] => true)

/-- Lower case of the characters `rest`, of which `before` (reversed) came first. -/
def lowerAfter (before : List Char) : List Char → List Char
  | [] => []
  | c :: rest =>
    (if c = 'Σ' then [if endsWord before rest then 'ς' else 'σ'] else lowerFull c)
      ++ lowerAfter (c :: before) rest

/-- The full lower case of a list of characters. -/
def lowerChars (cs : List Char) : List Char := lowerAfter [] cs

/-- The full upper case of a list of characters. -/
def upperChars (cs : List Char) : List Char := cs.flatMap upperFull

/-- The full lower case of a string. -/
def lower (s : String) : String := String.ofList (lowerChars s.toList)

/-- The full upper case of a string. -/
def upper (s : String) : String := String.ofList (upperChars s.toList)

/-- The upper case of one character, as a string. -/
def upperOf (c : Char) : String := String.ofList (upperFull c)

/-- A word is in lower case: it has a lower-case character and no upper or title case one. -/
def isLowerWord (s : String) : Bool :=
  s.toList.all (fun c => !isUppercase c && !isTitlecase c) && s.toList.any isLowercase

end Citations.Text
