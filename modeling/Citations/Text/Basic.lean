import Citations.Unicode.Properties

/-! # Basic operations on text

Trimming blanks, splitting into words or at a separator, and replacing one piece of text by
another. Each works on the list of characters and has a form on `String`.

* `trim` drops blank characters at both ends; `words` splits at runs of blanks and keeps no
  empty word.
* `splitOn sep` cuts at each occurrence of `sep`, scanning from the left; the pieces joined with
  `sep` give the text back.
* `replace pat rep` puts `rep` in place of each occurrence of `pat`, scanning from the left.
-/

namespace Citations.Text

open Citations.Unicode

/-- Drops blank characters at the end. -/
def trimRightChars (cs : List Char) : List Char := (cs.reverse.dropWhile isBlank).reverse

/-- Drops blank characters at both ends. -/
def trimChars (cs : List Char) : List Char := trimRightChars (cs.dropWhile isBlank)

/-- A string without blank characters at either end. -/
def trim (s : String) : String := String.ofList (trimChars s.toList)

/-- A string without blank characters at the end. -/
def trimRight (s : String) : String := String.ofList (trimRightChars s.toList)

/-- A string without blank characters at the start. -/
def trimLeft (s : String) : String := String.ofList (s.toList.dropWhile isBlank)

theorem length_dropWhile_le {α : Type} (p : α → Bool) (l : List α) :
    (l.dropWhile p).length ≤ l.length := by
  induction l with
  | nil => simp
  | cons a t ih =>
    simp only [List.dropWhile]
    split
    · simp only [List.length_cons]
      omega
    · simp

/-- Drops every trailing occurrence of one character. -/
def dropRightWhileEq (c : Char) (s : String) : String :=
  String.ofList (s.toList.reverse.dropWhile (· == c)).reverse

/-- Splits at runs of blank characters; no word is empty. -/
def wordsOf : List Char → List (List Char)
  | [] => []
  | c :: cs =>
    if isBlank c then wordsOf cs
    else
      match wordsOf cs with
      | w :: ws => if cs.head?.any isBlank then [c] :: w :: ws else (c :: w) :: ws
      | [] => [[c]]

/-- The words of a string: the pieces between runs of blanks. -/
def words (s : String) : List String := (wordsOf s.toList).map String.ofList

/-- Cuts a list at each occurrence of a nonempty separator, from the left. -/
def splitList (sep : List Char) (cs : List Char) : List (List Char) :=
  match sep with
  | [] => [cs]
  | _ :: _ => go cs [] cs.length
where
  /-- `acc` holds the current piece reversed; `fuel` bounds the characters left. -/
  go (rest acc : List Char) : Nat → List (List Char)
    | 0 => [acc.reverse ++ rest]
    | fuel + 1 =>
      if sep.isPrefixOf rest then
        acc.reverse :: go (rest.drop sep.length) [] fuel
      else
        match rest with
        | [] => [acc.reverse]
        | c :: more => go more (c :: acc) fuel

/-- The pieces of a string between occurrences of a nonempty separator. -/
def splitOn (sep s : String) : List String :=
  (splitList sep.toList s.toList).map String.ofList

/-- Puts `rep` in place of each occurrence of a nonempty `pat`, scanning from the left. -/
def replaceList (pat rep : List Char) (cs : List Char) : List Char :=
  match pat with
  | [] => cs
  | p :: ps => List.intercalate rep (splitList (p :: ps) cs)

/-- Puts `rep` in place of each occurrence of `pat`, scanning from the left. -/
def replace (pat rep s : String) : String :=
  String.ofList (replaceList pat.toList rep.toList s.toList)

/-- Whether `p` begins the text. -/
def startsWith (s p : String) : Bool := p.toList.isPrefixOf s.toList

/-- Whether `p` ends the text. -/
def endsWith (s p : String) : Bool := p.toList.isSuffixOf s.toList

/-- Whether `p` occurs in a list of characters. -/
def occursIn (p : List Char) : List Char → Bool
  | [] => p.isEmpty
  | c :: cs => p.isPrefixOf (c :: cs) || occursIn p cs

/-- Whether `p` occurs in the text. -/
def containsText (s p : String) : Bool := occursIn p.toList s.toList

/-- The characters from position `i` on. -/
def dropChars (s : String) (i : Nat) : String := String.ofList (s.toList.drop i)

/-- The first `n` characters. -/
def takeChars (s : String) (n : Nat) : String := String.ofList (s.toList.take n)

end Citations.Text
