/-! # Data values

Catalog records and service configurations arrive as untyped data: a document of nulls,
booleans, integers, floating-point numbers, strings, lists and mappings. `Value` holds such a
document. A mapping keeps its keys in the order of their first appearance; writing a key again
replaces its value in place, so each key appears once.

* `Value.insertEntry`: the last value given for a key wins, at the key's first position.
* `Value.kind`: the name of a value's kind, as messages about wrong data spell it.
-/

namespace Citations

/-- An untyped data value. -/
inductive Value where
  | null
  | bool (b : Bool)
  | int (n : Int)
  | float (x : Float)
  | str (s : String)
  | list (items : List Value)
  | dict (entries : List (String × Value))

namespace Value

/-- Puts a key into the entries of a mapping: a key already present keeps its position and
takes the new value; a new key goes last. -/
def insertEntry (k : String) (v : Value) : List (String × Value) → List (String × Value)
  | [] => [(k, v)]
  | (k', v') :: rest => if k' = k then (k, v) :: rest else (k', v') :: insertEntry k v rest

/-- The entries of a mapping built from pairs in order, later keys replacing earlier ones. -/
def entriesOf (pairs : List (String × Value)) : List (String × Value) :=
  pairs.foldl (fun acc kv => insertEntry kv.1 kv.2 acc) []

/-- The value under a key of a mapping. -/
def lookup (entries : List (String × Value)) (k : String) : Option Value :=
  (entries.find? (·.1 == k)).map (·.2)

/-- The name of a value's kind. -/
def kind : Value → String
  | .null => "NoneType"
  | .bool _ => "bool"
  | .int _ => "int"
  | .float _ => "float"
  | .str _ => "str"
  | .list _ => "list"
  | .dict _ => "dict"

/-- Whether a value counts as false: null, false, zero, and empty text, list or mapping. -/
def isFalsy : Value → Bool
  | .null => true
  | .bool b => !b
  | .int n => n == 0
  | .float x => x == 0
  | .str s => s.isEmpty
  | .list xs => xs.isEmpty
  | .dict es => es.isEmpty

end Value

end Citations
