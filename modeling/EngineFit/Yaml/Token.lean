import EngineFit.Yaml.Cursor

/-!
# Tokens of a YAML text

The text is read as a sequence of tokens: directives, document markers, the starts and ends of
block and flow collections, the indicators of keys, values and entries, anchors, aliases, tags
and scalars. Block collections have no written start or end; their tokens come from
indentation. A `Tokens` value is what a text yields: the tokens read, and the fault that stopped
the reading when the text is not read to its end.
-/

namespace EngineFit
namespace Yaml

/-- A token of a YAML text. -/
inductive Token where
  /-- `%YAML major.minor`. -/
  | versionDirective (major minor : Nat)
  /-- `%TAG handle prefix`. -/
  | tagDirective (handle pre : String)
  /-- Any other directive, which is ignored. -/
  | otherDirective (name : String)
  /-- `---` at the start of a line. -/
  | documentStart
  /-- `...` at the start of a line. -/
  | documentEnd
  /-- The start of a block sequence, at the column of its first `-`. -/
  | blockSequenceStart
  /-- The start of a block mapping, at the column of its first key. -/
  | blockMappingStart
  /-- The end of a block collection, where the indentation falls back. -/
  | blockEnd
  | flowSequenceStart
  | flowSequenceEnd
  | flowMappingStart
  | flowMappingEnd
  /-- A key: `?`, or placed before a simple key once its `:` is seen. -/
  | key
  /-- `:` after a key. -/
  | value
  /-- `-` of a block sequence entry. -/
  | blockEntry
  /-- `,` between flow collection entries. -/
  | flowEntry
  | alias (name : String)
  | anchor (name : String)
  /-- A tag: a handle and a suffix, or a verbatim tag with no handle. -/
  | tag (handle : Option String) (suffix : String)
  /-- A scalar's text, and whether it was written plain (unquoted, not a block scalar). -/
  | scalar (text : String) (plain : Bool)
  /-- The end of the text. -/
  | streamEnd
deriving Repr, BEq, Inhabited

/-- What reading a text yields: its tokens, and the fault met after them, if any. -/
structure Tokens where
  tokens : Array Token
  fault : Option ReadError
deriving Repr

end Yaml
end EngineFit
