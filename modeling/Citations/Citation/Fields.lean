import Citations.Data.Value
import Citations.Fault

/-! # Catalog fields

A catalog record reaches the library as raw data that should map field names to lists of
text. `Fields.ofValue` accepts exactly that, with two allowances: a field given as bare text is a
list of one, and a field given as null is left out. Anything else is refused with the first
fault met, in the order of the record.

* `Fields.get`: the values of a field; an absent field has none.
-/

namespace Citations

/-- Catalog fields: names with their lists of values, in the order of the record. -/
structure Fields where
  entries : List (String × List String)

namespace Fields

/-- The values of a field; an absent field has none. -/
def get (f : Fields) (name : String) : List String :=
  ((f.entries.find? (·.1 == name)).map (·.2)).getD []

/-- The texts of a list, or the first value that is not text. -/
def textsOf : List Value → Except Value (List String)
  | [] => .ok []
  | .str s :: rest => (textsOf rest).map (s :: ·)
  | v :: _ => .error v

/-- One field of raw data, as a list of texts; `none` for a field given as null. -/
def fieldOf (name : String) : Value → Except BuildFault (Option (List String))
  | .null => .ok none
  | .str s => .ok (some [s])
  | .list items =>
    match textsOf items with
    | .ok ts => .ok (some ts)
    | .error v => .error (.notText name v)
  | v => .error (.notList name v.kind)

/-- The fields of raw data, or why they are refused. -/
def ofValue : Value → Except BuildFault Fields
  | .dict entries => do
    let kept ← entries.filterMapM (fun (k, v) => do
      let vs ← fieldOf k v
      pure (vs.map (k, ·)))
    pure ⟨kept⟩
  | v => .error (.notMapping v.kind)

end Fields

end Citations
