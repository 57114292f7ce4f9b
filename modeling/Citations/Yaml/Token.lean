import Citations.Yaml.Cursor

/-! # Tokens of a YAML stream

A stream is cut into tokens: the structure of block and flow collections (where they start,
their entries, keys and values, and where block collections end), document markers,
directives, node properties (anchors, aliases and tags) and scalars.

Each token carries the marks of its first character and of the place after it. A scalar
token keeps its text as read (quotes, escapes and folding already applied), whether it was
plain, and the character that opened it when it was not.

* `Token.id`: the name of a token's kind as problems about it write it.
-/

namespace Citations.Yaml

/-- The value of a directive. -/
inductive DirectiveValue where
  /-- `%YAML major.minor` -/
  | version (major minor : Nat)
  /-- `%TAG handle prefix` -/
  | tag (handle tagPrefix : String)
  /-- another directive, whose value is not read -/
  | other

/-- The kinds of token. -/
inductive TokenKind where
  | streamStart
  | streamEnd
  | directive (name : String) (value : DirectiveValue)
  | documentStart
  | documentEnd
  | blockSequenceStart
  | blockMappingStart
  | blockEnd
  | flowSequenceStart
  | flowMappingStart
  | flowSequenceEnd
  | flowMappingEnd
  | key
  | value
  | blockEntry
  | flowEntry
  | alias (name : String)
  | anchor (name : String)
  /-- a tag: its handle, none for a verbatim tag or a lone `!`, and its suffix -/
  | tag (handle : Option String) (suffix : String)
  /-- a scalar: its text, whether it was plain, and the character that opened it -/
  | scalar (text : String) (plain : Bool) (style : Option Char)

/-- A token and the marks around it. -/
structure Token where
  kind : TokenKind
  start : Mark
  stop : Mark

/-- Token kinds without their contents, for asking what comes next. -/
inductive TokenSort where
  | streamStart
  | streamEnd
  | directive
  | documentStart
  | documentEnd
  | blockSequenceStart
  | blockMappingStart
  | blockEnd
  | flowSequenceStart
  | flowMappingStart
  | flowSequenceEnd
  | flowMappingEnd
  | key
  | value
  | blockEntry
  | flowEntry
  | alias
  | anchor
  | tag
  | scalar
  deriving DecidableEq

namespace TokenKind

/-- The kind of a token without its contents. -/
def sort : TokenKind → TokenSort
  | .streamStart => .streamStart
  | .streamEnd => .streamEnd
  | .directive .. => .directive
  | .documentStart => .documentStart
  | .documentEnd => .documentEnd
  | .blockSequenceStart => .blockSequenceStart
  | .blockMappingStart => .blockMappingStart
  | .blockEnd => .blockEnd
  | .flowSequenceStart => .flowSequenceStart
  | .flowMappingStart => .flowMappingStart
  | .flowSequenceEnd => .flowSequenceEnd
  | .flowMappingEnd => .flowMappingEnd
  | .key => .key
  | .value => .value
  | .blockEntry => .blockEntry
  | .flowEntry => .flowEntry
  | .alias _ => .alias
  | .anchor _ => .anchor
  | .tag .. => .tag
  | .scalar .. => .scalar

end TokenKind

/-- The name of a kind of token. -/
def TokenSort.id : TokenSort → String
  | .streamStart => "<stream start>"
  | .streamEnd => "<stream end>"
  | .directive => "<directive>"
  | .documentStart => "<document start>"
  | .documentEnd => "<document end>"
  | .blockSequenceStart => "<block sequence start>"
  | .blockMappingStart => "<block mapping start>"
  | .blockEnd => "<block end>"
  | .flowSequenceStart => "["
  | .flowMappingStart => "\x7b"
  | .flowSequenceEnd => "]"
  | .flowMappingEnd => "\x7d"
  | .key => "?"
  | .value => ":"
  | .blockEntry => "-"
  | .flowEntry => ","
  | .alias => "<alias>"
  | .anchor => "<anchor>"
  | .tag => "<tag>"
  | .scalar => "<scalar>"

/-- The name of a token's kind. -/
def Token.id (t : Token) : String := t.kind.sort.id

/-- A token that marks a place only. -/
def Token.at (kind : TokenKind) (m : Mark) : Token := { kind, start := m, stop := m }

end Citations.Yaml
