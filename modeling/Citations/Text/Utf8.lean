import Citations.Data.Literal

/-! # Decoding UTF-8

Bytes decode to text one character at a time. A character is one byte below `0x80`, or a lead
byte `C2` to `F4` followed by one to three continuation bytes `80` to `BF`; the second byte
after `E0` is at least `A0` (no overlong forms), after `ED` below `A0` (no surrogates), after
`F0` at least `90`, and after `F4` below `90` (nothing past `U+10FFFF`).

Decoding stops at the first fault, which names the bytes it spans:

* an invalid start byte spans that byte;
* a lead byte whose `k`-th following byte cannot continue it spans the lead byte and the
  `k - 1` bytes that did;
* a sequence cut short by the end of the bytes, when each of its bytes could continue it,
  spans everything to the end.
-/

namespace Citations.Text

/-- Why bytes are not UTF-8: the span of bytes at fault, the first of them, and the reason. -/
structure Utf8Fault where
  start : Nat
  stop : Nat
  byte : Nat
  reason : String

/-- The text of a fault as decoders report it. -/
def Utf8Fault.message (f : Utf8Fault) : String :=
  "'utf-8' codec can't decode " ++
    (if f.stop = f.start + 1 then
      "byte 0x" ++ hexPadded 2 f.byte ++ " in position " ++ intText f.start
    else "bytes in position " ++ intText f.start ++ "-" ++ intText (f.stop - 1)) ++
    ": " ++ f.reason

/-- A continuation byte. -/
def isContinuation (b : Nat) : Bool := 0x80 ≤ b && b ≤ 0xBF

/-- How a sequence at the front of bytes fails to decode. -/
inductive SequenceFault where
  /-- the bytes end inside the sequence -/
  | cutShort
  /-- the first byte starts no sequence -/
  | badStart
  /-- the byte at this place after the lead byte does not continue the sequence -/
  | badContinuation (k : Nat)

/-- Whether the second byte of a sequence may follow its lead byte. -/
def secondFits (lead b : Nat) : Bool :=
  isContinuation b &&
    !(lead = 0xE0 && b < 0xA0) && !(lead = 0xED && b ≥ 0xA0) &&
    !(lead = 0xF0 && b < 0x90) && !(lead = 0xF4 && b ≥ 0x90)

/-- The code point of the sequence at the front of bytes and its length. -/
def decodeSequence : List Nat → Except SequenceFault (Nat × Nat)
  | [] => .error .cutShort
  | b :: rest =>
    if b < 0x80 then .ok (b, 1)
    else if b < 0xC2 || b > 0xF4 then .error .badStart
    else
      let size := if b < 0xE0 then 2 else if b < 0xF0 then 3 else 4
      let tail := rest.take (size - 1)
      -- the first following byte that cannot continue, counted from one
      let bad := (tail.zipIdx.find? fun (x, i) => if i = 0 then !secondFits b x else !isContinuation x)
      match bad with
      | some (_, i) => .error (.badContinuation (i + 1))
      | none =>
        if tail.length < size - 1 then .error .cutShort
        else
          let leadBits := if size = 2 then b % 0x20 else if size = 3 then b % 0x10 else b % 0x08
          .ok (tail.foldl (fun n x => n * 64 + x % 64) leadBits, size)

/-- Decodes bytes from position `pos` on, the text so far in `acc`. -/
def decodeFrom (all : List Nat) : Nat → List Nat → Nat → String → Except Utf8Fault String
  | 0, _, _, acc => .ok acc
  | _, [], _, acc => .ok acc
  | fuel + 1, b :: rest, pos, acc =>
    match decodeSequence (b :: rest) with
    | .ok (code, size) =>
      decodeFrom all fuel ((b :: rest).drop size) (pos + size) (acc.push (Char.ofNat code))
    | .error .cutShort =>
      .error { start := pos, stop := all.length, byte := b, reason := "unexpected end of data" }
    | .error .badStart =>
      .error { start := pos, stop := pos + 1, byte := b, reason := "invalid start byte" }
    | .error (.badContinuation k) =>
      .error { start := pos, stop := pos + k, byte := b, reason := "invalid continuation byte" }

/-- The text that bytes encode in UTF-8, or the first fault in them. -/
def decodeUtf8 (bytes : List Nat) : Except Utf8Fault String :=
  decodeFrom bytes (bytes.length + 1) bytes 0 ""

end Citations.Text
