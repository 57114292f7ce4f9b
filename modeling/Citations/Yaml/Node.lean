import Citations.Yaml.Event
import Citations.Yaml.Tag

/-! # Nodes: the events of a document composed into a graph

A document is a graph of nodes: scalars, sequences of nodes and mappings of pairs of nodes.
Nodes live in an array and refer to each other by their place in it, so an alias is another
reference to the node its anchor named; a node is named by its anchor before its children are
composed, so an alias inside it refers to it and the graph has a cycle.

Each node has a tag: the explicit one, or the one resolved from its text or kind (`Tag`).

A stream holds at most one document here: a second one is a problem, as are an alias of an
anchor not seen before and an anchor used twice.

* `Node.kindName`: `scalar`, `sequence` or `mapping`.
* `Graph.ofText`: the graph of the one document of a stream, none when the stream has no
  document.
-/

namespace Citations.Yaml

/-- What a node holds. -/
inductive Content where
  | scalar (text : String)
  | sequence (items : Array Nat)
  | mapping (pairs : Array (Nat × Nat))

/-- A node: its tag, what it holds, and where it starts and ends. -/
structure Node where
  tag : String
  content : Content
  start : Mark
  stop : Mark

/-- The name of a node's kind. -/
def Node.kindName (n : Node) : String :=
  match n.content with
  | .scalar _ => "scalar"
  | .sequence _ => "sequence"
  | .mapping _ => "mapping"

/-- The nodes of a document, and its root. -/
structure Graph where
  nodes : Array Node
  root : Nat

/-- A problem found while composing. -/
def composeProblem (context : Option String) (contextMark : Option Mark) (problem : String)
    (mark : Mark) : Failure :=
  .marked .composing { context, contextMark, problem, mark }

/-- The state of composing a document. -/
structure Composer where
  parser : Parser
  nodes : Array Node := #[]
  anchors : List (String × Nat) := []

namespace Composer

/-- Adds a node, named by its anchor if it has one. -/
def add (c : Composer) (n : Node) (anchor : Option String) : Nat × Composer :=
  let id := c.nodes.size
  let anchors := match anchor with
    | some a => c.anchors ++ [(a, id)]
    | none => c.anchors
  (id, { c with nodes := c.nodes.push n, anchors })

/-- Sets what a node holds once its children are composed, and where it ends. -/
def finish (c : Composer) (id : Nat) (content : Content) (stop : Mark) : Composer :=
  { c with nodes := c.nodes.modify id fun n => { n with content, stop } }

/-- Composes the items of a collection until `endsAt` says its end comes next; `node`
composes one child. -/
def children (node : Composer → Except Failure (Nat × Composer)) (endsAt : EventKind → Bool) :
    Nat → Composer → Array Nat → Except Failure (Array Nat × Composer)
  | 0, c, acc => .ok (acc, c)
  | fuel + 1, c, acc =>
    match c.parser.peek with
    | .error e => .error e
    | .ok (e, parser) =>
      let c := { c with parser }
      if endsAt e.kind then .ok (acc, c)
      else
        match node c with
        | .error e => .error e
        | .ok (id, c) => children node endsAt fuel c (acc.push id)

/-- Pairs up the children of a mapping: keys and values alternate. -/
def pairUp : List Nat → Array (Nat × Nat)
  | k :: v :: rest => #[(k, v)] ++ pairUp rest
  | _ => #[]

/-- Composes the next node, nested at most `fuel` deep. -/
def node : Nat → Composer → Except Failure (Nat × Composer)
  | 0, c => do
    let (e, _) ← c.parser.peek
    throw (composeProblem none none "found a document nested too deep" e.start)
  | fuel + 1, c => do
    let (e, parser) ← c.parser.next
    let c := { c with parser }
    let anchorOf := fun (anchor : Option String) => do
      if let some a := anchor then
        if let some (_, first) := c.anchors.find? (·.1 == a) then
          throw (composeProblem (some ("found duplicate anchor " ++ quoteText a ++ "; first occurrence"))
            (some (c.nodes.getD first { tag := "", content := .scalar "", start := {}, stop := {} }).start)
            "second occurrence" e.start)
      pure anchor
    match e.kind with
    | .alias name =>
      match c.anchors.find? (·.1 == name) with
      | some (_, id) => pure (id, c)
      | none => throw (composeProblem none none ("found undefined alias " ++ quoteText name) e.start)
    | .scalar anchor tag implicit _ text =>
      let anchor ← anchorOf anchor
      let tag := match tag with
        | some t => if t == "!" then resolveScalar text implicit else t
        | none => resolveScalar text implicit
      pure (c.add { tag, content := .scalar text, start := e.start, stop := e.stop } anchor)
    | .sequenceStart anchor tag =>
      let anchor ← anchorOf anchor
      let tag := match tag with
        | some t => if t == "!" then coreTag "seq" else t
        | none => coreTag "seq"
      let (id, c) := c.add { tag, content := .sequence #[], start := e.start, stop := e.start } anchor
      let (items, c) ← children (node fuel) (· matches .sequenceEnd) c.parser.lexer.cursor.steps c #[]
      let (last, parser) ← c.parser.next
      pure (id, { c with parser }.finish id (.sequence items) last.stop)
    | .mappingStart anchor tag =>
      let anchor ← anchorOf anchor
      let tag := match tag with
        | some t => if t == "!" then coreTag "map" else t
        | none => coreTag "map"
      let (id, c) := c.add { tag, content := .mapping #[], start := e.start, stop := e.start } anchor
      let (items, c) ← children (node fuel) (· matches .mappingEnd) c.parser.lexer.cursor.steps c #[]
      let (last, parser) ← c.parser.next
      pure (id, { c with parser }.finish id (.mapping (pairUp items.toList)) last.stop)
    | _ => throw (composeProblem none none "expected a node" e.start)

end Composer

/-- The graph of the one document of a stream; none when the stream holds no document. -/
def Graph.ofText (text : String) : Except Failure (Option Graph) := do
  let p := Parser.ofText text
  let (_, p) ← p.next
  let (e, p) ← p.peek
  let (doc, p) ← if e.kind matches .streamEnd then pure (none, p)
    else do
      let (_, p) ← p.next
      let depth := 4 * text.length + 16
      let (root, c) ← Composer.node depth { parser := p }
      let (_, p) ← c.parser.next
      pure (some { nodes := c.nodes, root }, p)
  let (e, p) ← p.peek
  if !(e.kind matches .streamEnd) then
    let (e, _) ← p.next
    let first := match doc with
      | some g => (g.nodes.getD g.root { tag := "", content := .scalar "", start := {}, stop := {} }).start
      | none => {}
    throw (composeProblem (some "expected a single document in the stream") (some first)
      "but found another document" e.start)
  pure doc

end Citations.Yaml
