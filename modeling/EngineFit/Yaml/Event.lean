import EngineFit.Yaml.Token.Lexer

/-!
# From tokens to events

`Event.ofTokens` reads tokens as a stream of documents, each a tree of nodes written out as
events: scalars and aliases, and the starts and ends of sequences and mappings. The grammar is
the one of YAML 1.1 block and flow collections:

* a document is optional directives and `---`, or starts at its first node (then the tag
  handles are the two defaults, `!` and `!!` for `tag:yaml.org,2002:`);
* a node is an alias, or optional properties (an anchor and a tag, in either order) and then a
  scalar, a flow or block collection, or nothing (an empty scalar);
* in a block mapping a value may be a block sequence at the key's own indentation;
* an empty key or value is an empty plain scalar, and in a flow sequence a `key: value` pair is
  a mapping of one entry.

The reader is a state machine: a `Phase` says what may come next and a stack holds the phases to
return to. Each step yields one event. A token the phase does not allow is a fault; a fault of
the tokens is met only when the grammar needs the token where it stands.
-/

namespace EngineFit
namespace Yaml

/-- An event of a YAML stream. Tags are written out in full (a handle replaced by its prefix);
`plainImplicit` tells whether a scalar's tag is to be guessed from its text, and `braced` whether
a mapping is written between braces. -/
inductive Event where
  | streamEnd
  | documentStart
  | documentEnd
  | alias (name : String)
  | scalar (anchor tag : Option String) (plainImplicit : Bool) (text : String)
  | sequenceStart (anchor tag : Option String)
  | sequenceEnd
  | mappingStart (anchor tag : Option String) (braced : Bool)
  | mappingEnd
deriving Repr, BEq, Inhabited

/-- What reading tokens yields: the events, and the fault met after them, if any. -/
structure Events where
  events : List Event
  fault : Option ReadError
deriving Repr

/-- What the reader expects next. -/
inductive Phase where
  | implicitDocumentStart
  | documentStart
  | documentEnd
  | documentContent
  | blockNode
  | blockSequenceFirstEntry
  | blockSequenceEntry
  | indentlessSequenceEntry
  | blockMappingFirstKey
  | blockMappingKey
  | blockMappingValue
  | flowSequenceFirstEntry
  | flowSequenceEntry
  | flowSequenceEntryMappingKey
  | flowSequenceEntryMappingValue
  | flowSequenceEntryMappingEnd
  | flowMappingFirstKey
  | flowMappingKey
  | flowMappingValue
  | flowMappingEmptyValue
  | finished
deriving Repr, BEq, DecidableEq, Inhabited

/-- The tag handles every document has unless its directives say otherwise. -/
def defaultHandles : List (String × String) :=
  [("!", "!"), ("!!", "tag:yaml.org,2002:")]

/-- The state of the event reader. -/
structure Parser where
  tokens : List Token
  fault : Option ReadError
  phase : Phase := .implicitDocumentStart
  stack : List Phase := []
  handles : List (String × String) := defaultHandles

/-- An empty plain scalar: an omitted key, value or entry. -/
def Event.empty : Event := .scalar none none true ""

/-- Whether a token is a directive. -/
def Token.isDirective : Token → Bool
  | .versionDirective .. | .tagDirective .. | .otherDirective _ => true
  | _ => false

/-- Reads directives: at most one `%YAML` of major version 1 and distinct `%TAG` handles. The
handles end with the defaults that no directive replaced. -/
def readDirectives : List Token → Option (Nat × Nat) → List (String × String) →
    Except ReadError (List Token × List (String × String))
  | .versionDirective major minor :: rest, version, hs =>
    if version.isSome then .error (.fault .duplicateVersion)
    else if major != 1 then .error (.fault (.incompatibleVersion major))
    else readDirectives rest (some (major, minor)) hs
  | .tagDirective h pre :: rest, version, hs =>
    if hs.any (·.1 == h) then .error (.fault (.duplicateTagHandle h))
    else readDirectives rest version (hs ++ [(h, pre)])
  | .otherDirective _ :: rest, version, hs => readDirectives rest version hs
  | ts, _, hs => .ok (ts, hs ++ defaultHandles.filter fun d => !hs.any (·.1 == d.1))

namespace Parser

/-- The next token; past the last one, the fault that stopped the tokens. -/
def peek (p : Parser) : Except ReadError Token :=
  match p.tokens with
  | t :: _ => .ok t
  | [] => .error (p.fault.getD (.fault .stalled))

/-- Drops the next token. -/
def skip (p : Parser) : Parser := { p with tokens := p.tokens.drop 1 }

/-- Returns to the phase on top of the stack. -/
def pop (p : Parser) : Parser :=
  match p.stack with
  | s :: rest => { p with phase := s, stack := rest }
  | [] => { p with phase := .finished }

/-- Remembers `back` as the phase to return to once the node read next is done. -/
def call (p : Parser) (back : Phase) : Parser := { p with stack := back :: p.stack }

/-- Moves to a phase. -/
def goto (p : Parser) (ph : Phase) : Parser := { p with phase := ph }

/-- Reads the properties of a node: an anchor and a tag, each optional, in either order. -/
def properties (p : Parser) :
    Except ReadError (Option String × Option (Option String × String) × Parser) := do
  match ← p.peek with
  | .anchor a =>
    let p := p.skip
    match ← p.peek with
    | .tag h s => pure (some a, some (h, s), p.skip)
    | _ => pure (some a, none, p)
  | .tag h s =>
    let p := p.skip
    match ← p.peek with
    | .anchor a => pure (some a, some (h, s), p.skip)
    | _ => pure (none, some (h, s), p)
  | _ => pure (none, none, p)

/-- Writes out a tag: a handle is replaced by its prefix; a verbatim tag stays as it is. -/
def fullTag (p : Parser) : Option String × String → Except ReadError String
  | (some h, suffix) =>
    match p.handles.find? (·.1 == h) with
    | some (_, pre) => .ok (pre ++ suffix)
    | none => .error (.fault (.undefinedTagHandle h))
  | (none, suffix) => .ok suffix

/-- Reads a node. In block context it may be a block collection; `indentless` allows a block
sequence at the indentation of the enclosing mapping's keys. -/
def node (p : Parser) (block indentless : Bool) : Except ReadError (Event × Parser) := do
  match ← p.peek with
  | .alias n => pure (.alias n, p.skip.pop)
  | _ =>
    let (anchor, rawTag, p) ← p.properties
    let tag ← match rawTag with
      | some t => some <$> p.fullTag t
      | none => pure none
    let guessed := tag.isNone || tag == some "!"
    let t ← p.peek
    if indentless && t == .blockEntry then
      pure (.sequenceStart anchor tag, p.goto .indentlessSequenceEntry)
    else
      match t with
      | .scalar text plain =>
        pure (.scalar anchor tag ((plain && tag.isNone) || tag == some "!") text, p.skip.pop)
      | .flowSequenceStart => pure (.sequenceStart anchor tag, p.goto .flowSequenceFirstEntry)
      | .flowMappingStart => pure (.mappingStart anchor tag true, p.goto .flowMappingFirstKey)
      | _ =>
        if block && t == .blockSequenceStart then
          pure (.sequenceStart anchor tag, p.goto .blockSequenceFirstEntry)
        else if block && t == .blockMappingStart then
          pure (.mappingStart anchor tag false, p.goto .blockMappingFirstKey)
        else if anchor.isSome || tag.isSome then
          pure (.scalar anchor tag guessed "", p.pop)
        else throw (.fault .unexpectedToken)

/-- The start of an explicit document, or the end of the stream. -/
def documentStart (p : Parser) : Except ReadError (Event × Parser) := do
  let p := { p with tokens := p.tokens.dropWhile (· == Token.documentEnd) }
  match ← p.peek with
  | .streamEnd => pure (.streamEnd, p.skip.goto .finished)
  | _ =>
    let (tokens, handles) ← readDirectives p.tokens none []
    let p := { p with tokens, handles }
    match ← p.peek with
    | .documentStart => pure (.documentStart, (p.skip.call .documentEnd).goto .documentContent)
    | _ => throw (ReadError.fault .unexpectedToken)

/-- An entry of a block sequence, or its end. -/
def blockSequenceEntry (p : Parser) : Except ReadError (Event × Parser) := do
  match ← p.peek with
  | .blockEntry =>
    let p := p.skip
    match ← p.peek with
    | .blockEntry | .blockEnd => pure (Event.empty, p.goto .blockSequenceEntry)
    | _ => (p.call .blockSequenceEntry).node true false
  | .blockEnd => pure (.sequenceEnd, p.skip.pop)
  | _ => throw (.fault .unexpectedToken)

/-- An entry of a block sequence at its mapping's indentation, or its end. -/
def indentlessSequenceEntry (p : Parser) : Except ReadError (Event × Parser) := do
  match ← p.peek with
  | .blockEntry =>
    let p := p.skip
    match ← p.peek with
    | .blockEntry | .key | .value | .blockEnd =>
      pure (Event.empty, p.goto .indentlessSequenceEntry)
    | _ => (p.call .indentlessSequenceEntry).node true false
  | _ => pure (.sequenceEnd, p.pop)

/-- A key of a block mapping, or its end. -/
def blockMappingKey (p : Parser) : Except ReadError (Event × Parser) := do
  match ← p.peek with
  | .key =>
    let p := p.skip
    match ← p.peek with
    | .key | .value | .blockEnd => pure (Event.empty, p.goto .blockMappingValue)
    | _ => (p.call .blockMappingValue).node true true
  | .blockEnd => pure (.mappingEnd, p.skip.pop)
  | _ => throw (.fault .unexpectedToken)

/-- A value of a block mapping, empty when no `:` follows the key. -/
def blockMappingValue (p : Parser) : Except ReadError (Event × Parser) := do
  match ← p.peek with
  | .value =>
    let p := p.skip
    match ← p.peek with
    | .key | .value | .blockEnd => pure (Event.empty, p.goto .blockMappingKey)
    | _ => (p.call .blockMappingKey).node true true
  | _ => pure (Event.empty, p.goto .blockMappingKey)

/-- An entry of a flow sequence (after a `,` unless it is the first), or its end. -/
def flowSequenceEntry (p : Parser) (first : Bool) : Except ReadError (Event × Parser) := do
  let t ← p.peek
  if t == .flowSequenceEnd then pure (.sequenceEnd, p.skip.pop)
  else
    let p ←
      if first then pure p
      else if t == .flowEntry then pure p.skip
      else throw (.fault .unexpectedToken)
    match ← p.peek with
    | .key => pure (.mappingStart none none false, p.goto .flowSequenceEntryMappingKey)
    | .flowSequenceEnd => pure (.sequenceEnd, p.skip.pop)
    | _ => (p.call .flowSequenceEntry).node false false

/-- The key of a one-entry mapping inside a flow sequence. -/
def flowSequenceEntryMappingKey (p : Parser) : Except ReadError (Event × Parser) := do
  let p := p.skip
  match ← p.peek with
  | .value | .flowEntry | .flowSequenceEnd =>
    pure (Event.empty, p.goto .flowSequenceEntryMappingValue)
  | _ => (p.call .flowSequenceEntryMappingValue).node false false

/-- The value of a one-entry mapping inside a flow sequence. -/
def flowSequenceEntryMappingValue (p : Parser) : Except ReadError (Event × Parser) := do
  match ← p.peek with
  | .value =>
    let p := p.skip
    match ← p.peek with
    | .flowEntry | .flowSequenceEnd => pure (Event.empty, p.goto .flowSequenceEntryMappingEnd)
    | _ => (p.call .flowSequenceEntryMappingEnd).node false false
  | _ => pure (Event.empty, p.goto .flowSequenceEntryMappingEnd)

/-- A key of a flow mapping (after a `,` unless it is the first), or its end. A node without
`?` or `:` is a key with an empty value. -/
def flowMappingKey (p : Parser) (first : Bool) : Except ReadError (Event × Parser) := do
  let t ← p.peek
  if t == .flowMappingEnd then pure (.mappingEnd, p.skip.pop)
  else
    let p ←
      if first then pure p
      else if t == .flowEntry then pure p.skip
      else throw (.fault .unexpectedToken)
    match ← p.peek with
    | .key =>
      let p := p.skip
      match ← p.peek with
      | .value | .flowEntry | .flowMappingEnd => pure (Event.empty, p.goto .flowMappingValue)
      | _ => (p.call .flowMappingValue).node false false
    | .flowMappingEnd => pure (.mappingEnd, p.skip.pop)
    | _ => (p.call .flowMappingEmptyValue).node false false

/-- A value of a flow mapping, empty when no `:` follows the key. -/
def flowMappingValue (p : Parser) : Except ReadError (Event × Parser) := do
  match ← p.peek with
  | .value =>
    let p := p.skip
    match ← p.peek with
    | .flowEntry | .flowMappingEnd => pure (Event.empty, p.goto .flowMappingKey)
    | _ => (p.call .flowMappingKey).node false false
  | _ => pure (Event.empty, p.goto .flowMappingKey)

/-- One step of the reader: the next event and the state after it. -/
def step (p : Parser) : Except ReadError (Event × Parser) := do
  match p.phase with
  | .implicitDocumentStart =>
    let t ← p.peek
    if t.isDirective || t == .documentStart || t == .streamEnd then p.documentStart
    else pure (.documentStart, { (p.call .documentEnd).goto .blockNode with handles := defaultHandles })
  | .documentStart => p.documentStart
  | .documentEnd =>
    let t ← p.peek
    let p := if t == .documentEnd then p.skip else p
    pure (.documentEnd, p.goto .documentStart)
  | .documentContent =>
    let t ← p.peek
    if t.isDirective || t == .documentStart || t == .documentEnd || t == .streamEnd then
      pure (Event.empty, p.pop)
    else p.node true false
  | .blockNode => p.node true false
  | .blockSequenceFirstEntry => p.skip.blockSequenceEntry
  | .blockSequenceEntry => p.blockSequenceEntry
  | .indentlessSequenceEntry => p.indentlessSequenceEntry
  | .blockMappingFirstKey => p.skip.blockMappingKey
  | .blockMappingKey => p.blockMappingKey
  | .blockMappingValue => p.blockMappingValue
  | .flowSequenceFirstEntry => p.skip.flowSequenceEntry true
  | .flowSequenceEntry => p.flowSequenceEntry false
  | .flowSequenceEntryMappingKey => p.flowSequenceEntryMappingKey
  | .flowSequenceEntryMappingValue => p.flowSequenceEntryMappingValue
  | .flowSequenceEntryMappingEnd =>
    let _ ← p.peek
    pure (.mappingEnd, p.goto .flowSequenceEntry)
  | .flowMappingFirstKey => p.skip.flowMappingKey true
  | .flowMappingKey => p.flowMappingKey false
  | .flowMappingValue => p.flowMappingValue
  | .flowMappingEmptyValue =>
    let _ ← p.peek
    pure (Event.empty, p.goto .flowMappingKey)
  | .finished => throw (.fault .stalled)

/-- Reads events until the end of the stream or a fault. -/
def run : Nat → Parser → Array Event → Events
  | 0, _, acc => { events := acc.toList, fault := some (.fault .stalled) }
  | fuel + 1, p, acc =>
    if p.phase == .finished then { events := acc.toList, fault := none }
    else
      match p.step with
      | .ok (e, p) => run fuel p (acc.push e)
      | .error err => { events := acc.toList, fault := some err }

end Parser

/-- The events of a token stream. Each step reads a token or moves to a phase that will, so
four steps per token are more than enough. -/
def Event.ofTokens (ts : Tokens) : Events :=
  Parser.run (4 * ts.tokens.size + 8) { tokens := ts.tokens.toList, fault := ts.fault } #[]

end Yaml
end EngineFit
