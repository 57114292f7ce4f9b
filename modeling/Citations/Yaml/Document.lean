import Citations.Yaml.Node
import Citations.Yaml.Time
import Citations.Yaml.Datum.Text
import Citations.Text.Case

/-! # Documents: the data a stream stands for

A node is read as data by its tag: null, truth values, integers, floating-point numbers,
base64 binary data, timestamps and text from scalars; lists, mappings, sets, ordered maps and
lists of pairs from collections. Any other tag is a problem.

A collection is made empty when its node is first reached and filled later, in rounds: the
collections reached while filling one round are filled in the next. So a collection may hold
itself, and a problem in a scalar near the root is found before one deeper down.

Before a mapping is filled, its merge keys (`<<`) are replaced by the pairs of the mappings
they name, which come first so that the mapping's own pairs win; a value key (`=`) becomes a
text key. A scalar asked of a mapping is the scalar under its value key. A key must not be a
list, mapping or set; a key equal to an earlier one replaces that key's value and keeps its
place.

* `Document.ofText`: the document of a stream's text as read from a file: line ends read as line
  feeds, every character checked, then the one document read; an empty stream is nothing.
-/

namespace Citations.Yaml

/-- How a collection is filled from its node. -/
inductive Fill where
  | sequence
  | mapping
  | set
  /-- an ordered map or a list of pairs, with the context its problems name -/
  | ordered (context : String)

/-- A collection to fill: how, from which node, into which place of the store. -/
structure Task where
  fill : Fill
  node : Nat
  target : Nat

/-- The state of reading a document's nodes as data. -/
structure Builder where
  nodes : Array Node
  store : Store := #[]
  /-- the datum of each node read so far -/
  built : Array (Option Datum)
  /-- the collections to fill in the next round -/
  pending : Array Task := #[]

/-- Reading data from nodes, which may fail. -/
abbrev BuildM := StateT Builder (Except Failure)

/-- A problem found while reading nodes as data. -/
def constructProblem (context : Option String) (contextMark : Option Mark) (problem : String)
    (mark : Mark) : Failure :=
  .marked .constructing { context, contextMark, problem, mark }

/-- The truth value of a word, in lower case. -/
def truthWord : String → Option Bool
  | "yes" | "true" | "on" => some true
  | "no" | "false" | "off" => some false
  | _ => none

/-- Text without underscores. -/
def dropUnderscores (s : String) : String := String.ofList (s.toList.filter (· != '_'))

/-- Splits text at each colon. -/
def splitColons (s : String) : List String := (s.splitOn ":")

/-- A sign at the start of a number: `-` gives -1; the sign is dropped. -/
def takeSign (cs : List Char) : Int × List Char :=
  match cs with
  | '-' :: rest => (-1, rest)
  | '+' :: rest => (1, rest)
  | _ => (1, cs)

/-- The integer a scalar's text stands for: underscores dropped, then `0`, binary `0b`,
hexadecimal `0x`, octal after a leading `0`, base 60 with colons, or decimal. -/
def intOfText (text : String) : Except Failure Int := do
  let cs := (dropUnderscores text).toList
  if cs.isEmpty then throw .emptyNumber
  let (sign, cs) := takeSign cs
  let value := String.ofList cs
  if value == "0" then return 0
  match cs with
  | '0' :: 'b' :: rest => return sign * (← readInt (String.ofList rest) 2)
  | '0' :: 'x' :: rest => return sign * (← readInt (String.ofList rest) 16)
  | '0' :: _ => return sign * (← readInt value 8)
  | [] => throw .emptyNumber
  | _ =>
    if cs.contains ':' then
      let places ← (splitColons value).mapM (readInt · 10)
      return sign * places.foldl (fun n d => 60 * n + d) 0
    else return sign * (← readInt value 10)

/-- The floating-point number a scalar's text stands for: underscores dropped and lower case,
then `.inf`, `.nan` (the one NaN, whose origin is none), base 60 with colons, or decimal. -/
def floatOfText (text : String) (node : Nat) : Except Failure Datum := do
  let cs := (Text.lower (dropUnderscores text)).toList
  if cs.isEmpty then throw .emptyNumber
  let (sign, cs) := takeSign cs
  let value := String.ofList cs
  let signed := fun (x : Float) => if sign < 0 then -x else x
  if value == ".inf" then return .float (signed (Float.ofScientific 1 false 400)) (some node)
  if value == ".nan" then return .float (0.0 / 0.0) none
  if cs.contains ':' then
    let places ← (splitColons value).mapM readFloat
    -- the last place counts once, the one before it sixty times, and so on
    let (sum, _) := places.reverse.foldl (fun (acc : Float × Float) d => (acc.1 + d * acc.2, acc.2 * 60)) (0.0, 1.0)
    return .float (signed sum) (some node)
  return .float (signed (← readFloat value)) (some node)

namespace Builder

/-- The node at a place. -/
def nodeAt (id : Nat) : BuildM Node := do
  let b ← get
  pure (b.nodes.getD id { tag := "", content := .scalar "", start := {}, stop := {} })

/-- The pairs of a mapping node, none for other nodes. -/
def pairsOf (n : Node) : Array (Nat × Nat) :=
  match n.content with
  | .mapping pairs => pairs
  | _ => #[]

/-- Sets the pairs of a mapping node. -/
def setPairs (id : Nat) (pairs : Array (Nat × Nat)) : BuildM Unit :=
  modify fun b => { b with nodes := b.nodes.modify id fun n => { n with content := .mapping pairs } }

/-- Sets the tag of a node. -/
def setTag (id : Nat) (tag : String) : BuildM Unit :=
  modify fun b => { b with nodes := b.nodes.modify id fun n => { n with tag } }

/-- Fails. -/
def fail {α : Type} (f : Failure) : BuildM α := fun _ => .error f

/-- The text of a scalar node; of a mapping node, the text under its value key. -/
def scalarText : Nat → Nat → BuildM String
  | 0, _ => fail .tooDeep
  | fuel + 1, id => do
    let n ← nodeAt id
    match n.content with
    | .scalar text => pure text
    | .mapping pairs =>
      let b ← get
      match pairs.find? (fun (k, _) => (b.nodes.getD k n).tag == coreTag "value") with
      | some (_, v) => scalarText fuel v
      | none => fail (constructProblem none none "expected a scalar node, but found mapping" n.start)
    | .sequence _ => fail (constructProblem none none "expected a scalar node, but found sequence" n.start)

/-- Makes an empty collection for a node, to fill in the next round. -/
def newCollection (empty : Collection) (fill : Fill) (id : Nat) : BuildM Datum := do
  let b ← get
  let target := b.store.size
  set { b with store := b.store.push empty, pending := b.pending.push { fill, node := id, target } }
  pure (.ref target)

/-- Lifts a result into reading nodes. -/
def lift {α : Type} (r : Except Failure α) : BuildM α :=
  match r with
  | .ok a => pure a
  | .error f => fail f

/-- The datum of a node, read once: later readings give the same datum. -/
def datum (fuel : Nat) (id : Nat) : BuildM Datum := do
  let b ← get
  if let some (some d) := b.built[id]? then return d
  let n ← nodeAt id
  let tag := n.tag
  let d ← (if tag == coreTag "null" then do
      let _ ← scalarText fuel id
      pure Datum.none
    else if tag == coreTag "bool" then do
      let word := Text.lower (← scalarText fuel id)
      match truthWord word with
      | some v => pure (Datum.bool v)
      | none => fail (.unknownTruth word)
    else if tag == coreTag "int" then do
      pure (Datum.int (← lift (intOfText (← scalarText fuel id))))
    else if tag == coreTag "float" then do
      lift (floatOfText (← scalarText fuel id) id)
    else if tag == coreTag "binary" then do
      let text ← scalarText fuel id
      match asciiFault text with
      | some reason =>
        fail (constructProblem none none ("failed to convert base64 data into ascii: " ++ reason) n.start)
      | none =>
        match decodeBase64 text.toList with
        | .ok bs => pure (Datum.bytes bs)
        | .error reason =>
          fail (constructProblem none none ("failed to decode base64 data: " ++ reason) n.start)
    else if tag == coreTag "timestamp" then do
      let _ ← scalarText fuel id
      match n.content with
      | .scalar text =>
        match readTimestamp text with
        | some r => lift r
        | none => fail .notATimestamp
      | _ => fail .timestampOfMapping
    else if tag == coreTag "omap" then
      newCollection (.list #[]) (.ordered "while constructing an ordered map") id
    else if tag == coreTag "pairs" then
      newCollection (.list #[]) (.ordered "while constructing pairs") id
    else if tag == coreTag "set" then newCollection (.set #[]) .set id
    else if tag == coreTag "str" then do pure (Datum.str (← scalarText fuel id))
    else if tag == coreTag "seq" then newCollection (.list #[]) .sequence id
    else if tag == coreTag "map" then newCollection (.dict #[]) .mapping id
    else fail (constructProblem none none
      ("could not determine a constructor for the tag " ++ quoteText tag) n.start) : BuildM Datum)
  modify fun b => { b with built := b.built.set! id (some d) }
  pure d

/-- Replaces the merge keys of a mapping node by the pairs they name, and makes its value keys
text keys. -/
def flatten : Nat → Nat → BuildM Unit
  | 0, _ => pure ()
  | fuel + 1, id => do
    let outer ← nodeAt id
    let mut merged : Array (Nat × Nat) := #[]
    let mut index := 0
    for _ in [0:fuel] do
      let pairs := pairsOf (← nodeAt id)
      if h : index < pairs.size then
        let (k, v) := pairs[index]
        let keyNode ← nodeAt k
        if keyNode.tag == coreTag "merge" then
          setPairs id (pairs.eraseIdx index)
          let valueNode ← nodeAt v
          match valueNode.content with
          | .mapping _ =>
            flatten fuel v
            merged := merged ++ pairsOf (← nodeAt v)
          | .sequence items =>
            let mut parts : Array (Array (Nat × Nat)) := #[]
            for sub in items do
              let subNode ← nodeAt sub
              match subNode.content with
              | .mapping _ =>
                flatten fuel sub
                parts := parts.push (pairsOf (← nodeAt sub))
              | _ => fail (constructProblem (some "while constructing a mapping") (some outer.start)
                  ("expected a mapping for merging, but found " ++ subNode.kindName) subNode.start)
            for part in parts.reverse do
              merged := merged ++ part
          | .scalar _ => fail (constructProblem (some "while constructing a mapping") (some outer.start)
              ("expected a mapping or list of mappings for merging, but found " ++ valueNode.kindName)
              valueNode.start)
        else
          if keyNode.tag == coreTag "value" then setTag k (coreTag "str")
          index := index + 1
      else break
    if !merged.isEmpty then
      setPairs id (merged ++ pairsOf (← nodeAt id))

/-- The pairs of a mapping node as data, merge keys replaced; a later key equal to an earlier
one replaces its value. -/
def mappingPairs (fuel : Nat) (id : Nat) : BuildM (Array (Datum × Datum)) := do
  let n ← nodeAt id
  match n.content with
  | .mapping _ =>
    flatten fuel id
    let n ← nodeAt id
    let mut out : Array (Datum × Datum) := #[]
    for (k, v) in pairsOf n do
      let key ← datum fuel k
      if !((← get).store.hashable key) then
        fail (constructProblem (some "while constructing a mapping") (some n.start)
          "found unhashable key" (← nodeAt k).start)
      let value ← datum fuel v
      out := insertEntry key value out
    pure out
  | _ => fail (constructProblem none none ("expected a mapping node, but found " ++ n.kindName) n.start)

/-- Sets a collection of the store. -/
def setCollection (target : Nat) (c : Collection) : BuildM Unit :=
  modify fun b => { b with store := b.store.set! target c }

/-- Fills a collection from its node. -/
def run (fuel : Nat) (t : Task) : BuildM Unit := do
  let n ← nodeAt t.node
  match t.fill with
  | .sequence =>
    match n.content with
    | .sequence items =>
      let mut out : Array Datum := #[]
      for i in items do
        out := out.push (← datum fuel i)
      setCollection t.target (.list out)
    | _ => fail (constructProblem none none ("expected a sequence node, but found " ++ n.kindName) n.start)
  | .mapping => setCollection t.target (.dict (← mappingPairs fuel t.node))
  | .set =>
    let pairs ← mappingPairs fuel t.node
    setCollection t.target (.set (pairs.map (·.1)))
  | .ordered context =>
    match n.content with
    | .sequence items =>
      let mut out : Array Datum := #[]
      for sub in items do
        let subNode ← nodeAt sub
        match subNode.content with
        | .mapping pairs =>
          if h : pairs.size = 1 then
            let (k, v) := pairs[0]
            let key ← datum fuel k
            let value ← datum fuel v
            let b ← get
            set { b with store := b.store.push (.pair key value) }
            out := out.push (.ref b.store.size)
          else
            fail (constructProblem (some context) (some n.start)
              ("expected a single mapping item, but found " ++ intText pairs.size ++ " items")
              subNode.start)
        | _ => fail (constructProblem (some context) (some n.start)
            ("expected a mapping of length 1, but found " ++ subNode.kindName) subNode.start)
      setCollection t.target (.list out)
    | _ => fail (constructProblem (some context) (some n.start)
        ("expected a sequence, but found " ++ n.kindName) n.start)

/-- Fills the collections round by round until none is left. -/
def rounds (fuel : Nat) : Nat → BuildM Unit
  | 0 => pure ()
  | left + 1 => do
    let b ← get
    if b.pending.isEmpty then return
    set { b with pending := #[] }
    for t in b.pending do
      run fuel t
    rounds fuel left

end Builder

/-- The data a graph of nodes stands for. -/
def Document.ofGraph (g : Graph) : Except Failure Document := do
  let fuel := g.nodes.size + 2
  let start : Builder := { nodes := g.nodes, built := Array.replicate g.nodes.size none }
  let (root, b) ← (do
      let root ← Builder.datum fuel g.root
      Builder.rounds fuel fuel
      pure root : BuildM Datum).run start
  pure { store := b.store, root }

/-- The document of a stream: every character checked, then the one document read; an empty
stream is nothing. -/
def Document.ofStream (text : String) : Except Failure Document := do
  if let some (position, c) := firstUnprintable text.toList then
    throw (.unprintable position c.toNat)
  match ← Graph.ofText text with
  | some g => Document.ofGraph g
  | none => pure { store := #[], root := .none }

/-- The document of a file's contents, its line ends read as line feeds. -/
def Document.ofText (contents : String) : Except Failure Document :=
  Document.ofStream (textOfFile contents)

end Citations.Yaml
