
/-! # Shortest decimal digits of a binary64 value

A finite double stands for the interval of reals that round to it: from halfway to its
neighbour below to halfway to its neighbour above, the ends included exactly when its mantissa
is even. The shortest decimal of a double is the decimal with the fewest significant digits in
that interval; of two such, the closer to the double, and of two equally close, the one with an
even last digit.

The search works on exact naturals: for `n = 1, 2, …` significant digits it takes the grid of
decimals with `n` digits at the double's scale and tests the double's two neighbours on it.

* `Binary.readsBack`: a decimal lies in the interval of the double.
* `Binary.shortest`: the first grid with a neighbour that reads back, and on it the closer
  neighbour; trailing zeros are moved into the exponent.
-/

namespace Citations.Decimal

/-- A finite non-negative binary64 value, `m * 2 ^ q`. -/
structure Binary where
  m : Nat
  q : Int
  /-- the gap to the value below is half the gap to the value above -/
  narrowBelow : Bool

/-- The bits of a finite value, sign dropped. NaN and the infinities are no such value. -/
def Binary.ofBits (b : UInt64) : Binary :=
  let e := ((b >>> 52) &&& 0x7FF).toNat
  let f := (b &&& 0xFFFFFFFFFFFFF).toNat
  if e == 0 then ⟨f, -1074, false⟩ else ⟨Nat.pow 2 52 + f, (e : Int) - 1075, f == 0 && e > 1⟩

/-- `digits * 10 ^ exp`. -/
structure Dec where
  digits : Nat
  exp : Int

/-- Compares `a * 10 ^ i` with `n * 2 ^ j`, exactly. -/
def cmpScaled (a : Nat) (i : Int) (n : Nat) (j : Int) : Ordering :=
  compare (a * Nat.pow 10 i.toNat * Nat.pow 2 (-j).toNat)
    (n * Nat.pow 2 j.toNat * Nat.pow 10 (-i).toNat)

/-- A decimal lies among the reals that round to the value. -/
def Binary.readsBack (x : Binary) (d : Dec) : Bool :=
  let lo := if x.narrowBelow then 4 * x.m - 1 else 4 * x.m - 2
  let hi := 4 * x.m + 2
  let incl := x.m % 2 == 0
  let cl := cmpScaled d.digits d.exp lo (x.q - 2)
  let ch := cmpScaled d.digits d.exp hi (x.q - 2)
  (cl == .gt || (incl && cl == .eq)) && (ch == .lt || (incl && ch == .eq))

/-- The least `k` with `m * 2 ^ q < 10 ^ k`, searched upward from `k`; `fuel` bounds the steps. -/
def scaleFrom (x : Binary) (k : Int) : Nat → Int
  | 0 => k
  | fuel + 1 => if cmpScaled 1 k x.m x.q == .gt then k else scaleFrom x (k + 1) fuel

/-- The least `k` with `m * 2 ^ q < 10 ^ k`, for `m > 0`. Every double lies above `10 ^ -325`. -/
def Binary.scale (x : Binary) : Int := scaleFrom x (-324) 700

/-- The value's two neighbours on the grid `10 ^ g`, as digit counts of that grid:
`⌊m * 2 ^ q / 10 ^ g⌋` and the next. -/
def Binary.neighbours (x : Binary) (g : Int) : Nat × Nat :=
  let num := x.m * Nat.pow 2 x.q.toNat * Nat.pow 10 (-g).toNat
  let den := Nat.pow 10 g.toNat * Nat.pow 2 (-x.q).toNat
  (num / den, num / den + 1)

/-- Of two decimals on the grid `10 ^ g` that both read back, the closer to the value; an exact
tie goes to the even one. -/
def Binary.closer (x : Binary) (g : Int) (lo hi : Nat) : Nat :=
  -- twice the value against lo + hi, both on the grid
  match cmpScaled (lo + hi) g (2 * x.m) x.q with
  | .lt => hi
  | .gt => lo
  | .eq => if lo % 2 == 0 then lo else hi

/-- Moves trailing zeros of the digits into the exponent; `fuel` bounds the steps. -/
def stripZeros (d : Dec) : Nat → Dec
  | 0 => d
  | fuel + 1 =>
    if d.digits ≠ 0 ∧ d.digits % 10 = 0 then stripZeros ⟨d.digits / 10, d.exp + 1⟩ fuel else d

/-- The search over grids with `n, n + 1, …` significant digits, up to seventeen. -/
def Binary.searchFrom (x : Binary) (k : Int) (n : Nat) : Nat → Option Dec
  | 0 => none
  | fuel + 1 =>
    let g := k - n
    let (lo, hi) := x.neighbours g
    let okLo := x.readsBack ⟨lo, g⟩
    let okHi := x.readsBack ⟨hi, g⟩
    if okLo && okHi then some ⟨x.closer g lo hi, g⟩
    else if okLo then some ⟨lo, g⟩
    else if okHi then some ⟨hi, g⟩
    else x.searchFrom k (n + 1) fuel

/-- The shortest decimal of a positive value. Seventeen digits always read back; were none
found, the exact value would be returned. -/
def Binary.shortest (x : Binary) : Dec :=
  let found := match x.searchFrom x.scale 1 17 with
    | some d => d
    | none => ⟨x.m * Nat.pow 5 (-x.q).toNat * Nat.pow 2 x.q.toNat, if x.q < 0 then x.q else 0⟩
  stripZeros found 400

/-- The decimal digits of a natural number, most significant first. -/
def digitsOf (n : Nat) : List Nat :=
  (Nat.toDigits 10 n).map (fun c => c.toNat - '0'.toNat)

end Citations.Decimal
