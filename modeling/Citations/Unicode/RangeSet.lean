/-! # Code point sets and maps

A Unicode property is a set of code points that comes in long runs, so a `RangeSet` holds it
as sorted, disjoint, inclusive ranges and answers membership by binary search. A case mapping
sends a code point to a short sequence of code points; a `CodeMap` holds its entries sorted by
key.

The table modules write both as literal arrays, so a lookup in them can be evaluated in
proofs. `readHex` and `splitAt` read hexadecimal text where it is data, as in character
references.
-/

namespace Citations.Unicode

/-- The value of a hexadecimal digit, either case. -/
def hexValue? (c : Char) : Option Nat :=
  if '0' ≤ c ∧ c ≤ '9' then some (c.toNat - '0'.toNat)
  else if 'a' ≤ c ∧ c ≤ 'f' then some (c.toNat - 'a'.toNat + 10)
  else if 'A' ≤ c ∧ c ≤ 'F' then some (c.toNat - 'A'.toNat + 10)
  else none

/-- Reads a run of hexadecimal digits; a character that is no digit is skipped. -/
def readHex (cs : List Char) : Nat :=
  cs.foldl (fun acc c => match hexValue? c with
    | some d => acc * 16 + d
    | none => acc) 0

/-- Splits a list at every occurrence of a separator. -/
def splitAt (sep : Char) : List Char → List (List Char)
  | [] => [[]]
  | c :: cs =>
    if c = sep then [] :: splitAt sep cs
    else match splitAt sep cs with
      | [] => [[c]]
      | w :: ws => (c :: w) :: ws

/-- A set of code points, held as inclusive ranges in increasing order. -/
structure RangeSet where
  ranges : Array (Nat × Nat)

namespace RangeSet

/-- The index of the last range that starts at or below `n`, looked for in `[lo, hi)`,
given that the range at `lo` starts at or below `n`. -/
def lastStartAtOrBelow (rs : Array (Nat × Nat)) (n lo hi : Nat) : Nat :=
  if lo + 1 < hi then
    let mid := (lo + hi) / 2
    if (rs.getD mid (0, 0)).1 ≤ n then lastStartAtOrBelow rs n mid hi
    else lastStartAtOrBelow rs n lo mid
  else lo
termination_by hi - lo

/-- Membership of a code point, by binary search over the ranges. -/
def containsCode (t : RangeSet) (n : Nat) : Bool :=
  match t.ranges[0]? with
  | none => false
  | some first =>
    if n < first.1 then false
    else
      let r := t.ranges.getD (lastStartAtOrBelow t.ranges n 0 t.ranges.size) (0, 0)
      r.1 ≤ n && n ≤ r.2

/-- Membership of a character. -/
def contains (t : RangeSet) (c : Char) : Bool :=
  t.containsCode c.toNat

end RangeSet

/-- A map from code points to sequences of code points, with entries sorted by key. -/
structure CodeMap where
  entries : Array (Nat × List Nat)

namespace CodeMap

/-- The index of the last entry whose key is at or below `n`, looked for in `[lo, hi)`. -/
def lastKeyAtOrBelow (es : Array (Nat × List Nat)) (n lo hi : Nat) : Nat :=
  if lo + 1 < hi then
    let mid := (lo + hi) / 2
    if (es.getD mid (0, [])).1 ≤ n then lastKeyAtOrBelow es n mid hi
    else lastKeyAtOrBelow es n lo mid
  else lo
termination_by hi - lo

/-- The image of a code point, if the map has an entry for it. -/
def find? (m : CodeMap) (n : Nat) : Option (List Nat) :=
  match m.entries[0]? with
  | none => none
  | some first =>
    if n < first.1 then none
    else
      let e := m.entries.getD (lastKeyAtOrBelow m.entries n 0 m.entries.size) (0, [])
      if e.1 = n then some e.2 else none

/-- The image of a character as characters; a character without an entry maps to itself. -/
def apply (m : CodeMap) (c : Char) : List Char :=
  match m.find? c.toNat with
  | some vs => vs.map Char.ofNat
  | none => [c]

end CodeMap

end Citations.Unicode
