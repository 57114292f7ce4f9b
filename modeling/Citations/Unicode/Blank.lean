/-! # Blank characters

The characters that separate words: the white space of the Unicode Character Database
(bidirectional class WS, B or S, or general category Zs), together with the information
separators U+001C to U+001F.
-/

namespace Citations.Unicode

/-- The code points of the blank characters, in increasing order. -/
def blankCodes : List Nat :=
  [0x9, 0xa, 0xb, 0xc, 0xd, 0x1c, 0x1d, 0x1e, 0x1f, 0x20, 0x85, 0xa0, 0x1680, 0x2000, 0x2001, 0x2002, 0x2003, 0x2004, 0x2005, 0x2006, 0x2007, 0x2008, 0x2009, 0x200a, 0x2028, 0x2029, 0x202f, 0x205f, 0x3000]

/-- A character is blank when it separates words. -/
def isBlank (c : Char) : Bool :=
  blankCodes.contains c.toNat

end Citations.Unicode
