import Citations.Data.Literal

/-! # Data read from a document

What a document's nodes are read as: nothing, truth values, integers, floating-point numbers,
text, bytes, dates, moments (a date and a time of day, with its offset from universal time when
known), and collections: lists, mappings, sets and pairs.

Collections live in a `Store` and a datum refers to one by its place there, so a collection
may hold itself. Data compare as keys of a mapping do:

* numbers compare by value whatever their kind: `1`, `1.0` and `true` are one key; an integer
  and a floating-point number compare exactly;
* a floating-point NaN equals no number, but is one key with itself: `.nan` is always the same
  value, while each node read as a NaN otherwise gives its own;
* moments with offsets compare as instants, moments without offsets by their fields; a moment
  never equals a date, nor a moment without an offset one with.

* `Datum.sameKey`: whether two keys are one key.
* `Store.isTruthy`: whether a datum counts as true: not nothing, not false, not zero, not
  empty.
-/

namespace Citations.Yaml

open Citations.Decimal

/-- A day of the calendar. -/
structure Date where
  year : Nat
  month : Nat
  day : Nat
  deriving BEq

/-- A date and a time of day, with its offset east of universal time in seconds when known. -/
structure Moment where
  date : Date
  hour : Nat
  minute : Nat
  second : Nat
  microsecond : Nat
  offset : Option Int
  deriving BEq

/-- A datum read from a node. -/
inductive Datum where
  | none
  | bool (b : Bool)
  | int (n : Int)
  /-- a floating-point number; a NaN is the same value as another only with the same origin:
  none for the one NaN of `.nan`, else the node it was read from -/
  | float (x : Float) (origin : Option Nat)
  | str (s : String)
  | bytes (bs : List Nat)
  | date (d : Date)
  | moment (m : Moment)
  /-- a collection, by its place in the store -/
  | ref (id : Nat)

/-- A collection of data. -/
inductive Collection where
  | list (items : Array Datum)
  | dict (entries : Array (Datum × Datum))
  | set (items : Array Datum)
  | pair (first second : Datum)

/-- The collections of a document, by place. -/
abbrev Store := Array Collection

/-- Days since a fixed day, for comparing instants. -/
def Date.ordinal (d : Date) : Int :=
  let y : Int := if d.month ≤ 2 then d.year - 1 else d.year
  let m : Int := if d.month ≤ 2 then d.month + 12 else d.month
  365 * y + y / 4 - y / 100 + y / 400 + (153 * (m - 3) + 2) / 5 + d.day

/-- The instant of a moment in microseconds, counting its offset. -/
def Moment.instant (m : Moment) : Int :=
  ((m.date.ordinal * 86400 + m.hour * 3600 + m.minute * 60 + m.second - m.offset.getD 0) *
    1000000) + m.microsecond

/-- Whether a finite floating-point number equals an integer. -/
def floatEqualsInt (x : Float) (n : Int) : Bool :=
  if x.isNaN || x.isInf then false
  else
    let b := Binary.ofBits x.toBits
    let negative := x.toBits >>> 63 == 1
    let magnitude : Nat := n.natAbs
    let equalMagnitude := if b.q ≥ 0 then b.m * Nat.pow 2 b.q.toNat == magnitude
      else b.m == magnitude * Nat.pow 2 (-b.q).toNat
    equalMagnitude && (magnitude == 0 || negative == (n < 0))

/-- The integer value of a truth value. -/
def boolInt (b : Bool) : Int := if b then 1 else 0

/-- Whether two data are one key of a mapping. -/
def Datum.sameKey : Datum → Datum → Bool
  | .none, .none => true
  | .bool a, .bool b => a == b
  | .int a, .int b => a == b
  | .bool a, .int b => boolInt a == b
  | .int a, .bool b => a == boolInt b
  | .float x o, .float y p => x == y || (x.isNaN && y.isNaN && o == p)
  | .float x _, .int n => floatEqualsInt x n
  | .int n, .float x _ => floatEqualsInt x n
  | .float x _, .bool b => floatEqualsInt x (boolInt b)
  | .bool b, .float x _ => floatEqualsInt x (boolInt b)
  | .str a, .str b => a == b
  | .bytes a, .bytes b => a == b
  | .date a, .date b => a == b
  | .moment a, .moment b =>
    if a.offset.isSome && b.offset.isSome then a.instant == b.instant
    else a.offset.isNone && b.offset.isNone && a == b
  | .ref a, .ref b => a == b
  | _, _ => false

/-- Whether a datum may be a key: collections other than pairs may not. -/
def Store.hashable (store : Store) : Datum → Bool
  | .ref id =>
    match store[id]? with
    | some (.pair ..) => true
    | _ => false
  | _ => true

/-- Whether a datum counts as true. -/
def Store.isTruthy (store : Store) : Datum → Bool
  | .none => false
  | .bool b => b
  | .int n => n != 0
  | .float x _ => !(x == 0)
  | .str s => !s.isEmpty
  | .bytes bs => !bs.isEmpty
  | .date _ | .moment _ => true
  | .ref id =>
    match store[id]? with
    | some (.list items) => !items.isEmpty
    | some (.dict entries) => !entries.isEmpty
    | some (.set items) => !items.isEmpty
    | some (.pair ..) => true
    | none => false

/-- Puts a value under a key: in place of the value of the same key if there is one, which
keeps its first key and place, else at the end. -/
def insertEntry (k v : Datum) (entries : Array (Datum × Datum)) : Array (Datum × Datum) :=
  match entries.findIdx? (fun (k', _) => k'.sameKey k) with
  | some i => entries.modify i fun (k', _) => (k', v)
  | none => entries.push (k, v)

/-- Adds an item to a set unless it holds the same key. -/
def insertItem (k : Datum) (items : Array Datum) : Array Datum :=
  if items.any (·.sameKey k) then items else items.push k

end Citations.Yaml
