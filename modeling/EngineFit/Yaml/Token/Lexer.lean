import EngineFit.Yaml.Token.Property
import EngineFit.Text.Surrogate

/-!
# From text to tokens

`Token.scan` reads a whole YAML text into tokens. Besides the cursor, the lexer keeps the
block structure: the current indentation and the stack of enclosing ones, the depth of flow
collections, and whether a simple key may start here.

**Block structure.** A block sequence or mapping starts when an entry, key or value indicator
(or a simple key) stands deeper than the current indentation; the indentation is pushed and a
start token is emitted. When a token stands to the left of the current indentation, every
deeper block ends, one end token each.

**Simple keys.** A key may be written without `?`: a scalar, alias, flow collection or node
with properties followed by `:` on the same line, within 1024 characters. Since the `:` comes
later, the lexer remembers each place where a simple key could start (one per flow depth),
with the number of tokens emitted before it. When the `:` arrives, a key token (and, in block
context, a mapping start) is inserted at that number. A possible key that can no longer be one
is forgotten; in block context a possible key at the current indentation must be one, and its
loss is a fault.

Each round reads at least one character or ends the text, so the loop runs on a step budget of
the text's length.
-/

namespace EngineFit
namespace Yaml

/-- A place where a simple key could start. -/
structure SimpleKey where
  /-- Tokens emitted before the key. -/
  tokenNumber : Nat
  /-- Whether the key must be completed: it stands at the indentation of a block mapping. -/
  required : Bool
  index : Nat
  line : Nat
  column : Nat
deriving Repr

/-- The state of the lexer between tokens. -/
structure Lexer where
  cur : Cursor
  tokens : Array Token := #[]
  flowLevel : Nat := 0
  indent : Int := -1
  indents : List Int := []
  allowSimpleKey : Bool := true
  /-- Possible simple keys by flow depth, oldest first. -/
  keys : List (Nat × SimpleKey) := []
  done : Bool := false
deriving Repr

/-- A character that cannot start a plain scalar unless a non-blank follows (`-`, and `?`, `:`
in block context), or cannot start one at all. -/
def isIndicator (c : Char) : Bool :=
  c = '-' || c = '?' || c = ':' || isFlowIndicator c || c = '#' || c = '&' || c = '*' ||
    c = '!' || c = '|' || c = '>' || c = '\'' || c = '"' || c = '%' || c = '@' || c = '\x60'

/-- Pops every indentation deeper than `column`, with one block end token each. -/
def popIndents (column : Int) : List Int → Int → Array Token → List Int × Int × Array Token
  | i :: rest, indent, toks =>
    if indent > column then popIndents column rest i (toks.push .blockEnd)
    else (i :: rest, indent, toks)
  | [], indent, toks => ([], indent, toks)

namespace Cursor

/-- Moves past spaces, comments and line breaks to the next token, skipping a byte order mark
at the very start; the flag tells whether a line break was crossed. Tabs are not skipped. -/
def toToken (c : Cursor) : Cursor × Bool :=
  let c := if c.index = 0 && c.peek = '\uFEFF' then c.step else c
  let rec go : Nat → Cursor → Bool → Cursor × Bool
    | 0, c, crossed => (c, crossed)
    | fuel + 1, c, crossed =>
      let c := (c.skip (· = ' ')).skipComment
      match c.lineBreak with
      | some (_, c) => go fuel c true
      | none => (c, crossed)
  go (c.rest.length + 1) c false

end Cursor

namespace Lexer

/-- Emits a token. -/
def push (lx : Lexer) (t : Token) : Lexer := { lx with tokens := lx.tokens.push t }

/-- Emits a token after reading `n` characters of indicator. -/
def emit (lx : Lexer) (n : Nat) (t : Token) : Lexer :=
  { lx with cur := lx.cur.advance n, tokens := lx.tokens.push t }

/-- The possible simple key at the current flow depth. -/
def keyHere (lx : Lexer) : Option SimpleKey :=
  (lx.keys.find? (·.1 == lx.flowLevel)).map (·.2)

/-- Forgets the possible simple key at the current flow depth. -/
def dropKey (lx : Lexer) : Lexer :=
  { lx with keys := lx.keys.filter (·.1 != lx.flowLevel) }

/-- Forgets the possible simple key at the current flow depth; a fault if it had to be a key. -/
def removeKey (lx : Lexer) : Except ReadError Lexer :=
  match lx.keyHere with
  | some k => if k.required then .error (.fault .keyWithoutValue) else .ok lx.dropKey
  | none => .ok lx

/-- Remembers the current place as a possible simple key, when a key may start here. -/
def saveKey (lx : Lexer) : Except ReadError Lexer := do
  if lx.allowSimpleKey then
    let required := lx.flowLevel == 0 && lx.indent == (lx.cur.column : Int)
    let lx ← lx.removeKey
    let k : SimpleKey :=
      { tokenNumber := lx.tokens.size, required, index := lx.cur.index, line := lx.cur.line,
        column := lx.cur.column }
    pure { lx with keys := lx.keys ++ [(lx.flowLevel, k)] }
  else pure lx

/-- Forgets the possible simple keys that can no longer be keys: those on an earlier line or
more than 1024 characters back. A fault if one of them had to be a key. -/
def dropStaleKeys (lx : Lexer) : Except ReadError Lexer :=
  let stale (k : SimpleKey) : Bool := k.line != lx.cur.line || lx.cur.index - k.index > 1024
  if lx.keys.any (fun e => stale e.2 && e.2.required) then .error (.fault .keyWithoutValue)
  else .ok { lx with keys := lx.keys.filter (fun e => !stale e.2) }

/-- Ends the blocks deeper than `column`, in block context. -/
def unwind (column : Int) (lx : Lexer) : Lexer :=
  if lx.flowLevel != 0 then lx
  else
    let (indents, indent, tokens) := popIndents column lx.indents lx.indent lx.tokens
    { lx with indents, indent, tokens }

/-- Opens a block at `column` if it is deeper than the current indentation; the flag tells
whether it did. -/
def addIndent (column : Int) (lx : Lexer) : Bool × Lexer :=
  if lx.indent < column then (true, { lx with indents := lx.indent :: lx.indents, indent := column })
  else (false, lx)

/-- Inserts a token among those already emitted, before the `n`-th. -/
def insertAt (lx : Lexer) (n : Nat) (t : Token) : Lexer :=
  { lx with tokens := lx.tokens.insertIdxIfInBounds n t }

/-- The end of the text: every block ends. -/
def fetchStreamEnd (lx : Lexer) : Except ReadError Lexer := do
  let lx ← (lx.unwind (-1)).removeKey
  pure { lx.push .streamEnd with allowSimpleKey := false, keys := [], done := true }

/-- A directive, at the start of a line. -/
def fetchDirective (lx : Lexer) : Except ReadError Lexer := do
  let lx ← (lx.unwind (-1)).removeKey
  let (t, cur) ← lx.cur.directive
  pure { lx.push t with cur, allowSimpleKey := false }

/-- A document marker, `---` or `...`. -/
def fetchDocumentMarker (lx : Lexer) (t : Token) : Except ReadError Lexer := do
  let lx ← (lx.unwind (-1)).removeKey
  pure { lx.emit 3 t with allowSimpleKey := false }

/-- `[` or `{`: may start a simple key, and opens a flow level. -/
def fetchFlowStart (lx : Lexer) (t : Token) : Except ReadError Lexer := do
  let lx ← lx.saveKey
  pure { lx.emit 1 t with flowLevel := lx.flowLevel + 1, allowSimpleKey := true }

/-- `]` or `}`: closes a flow level. One that closes nothing ends the reading, since no
document can go on from it. -/
def fetchFlowEnd (lx : Lexer) (t : Token) : Except ReadError Lexer := do
  let lx ← lx.removeKey
  if lx.flowLevel = 0 then throw (.fault .unexpectedToken)
  pure { lx.emit 1 t with flowLevel := lx.flowLevel - 1, allowSimpleKey := false }

/-- `,` between flow entries. -/
def fetchFlowEntry (lx : Lexer) : Except ReadError Lexer := do
  let lx ← { lx with allowSimpleKey := true }.removeKey
  pure (lx.emit 1 .flowEntry)

/-- `-` of a block sequence entry; in block context it may open a sequence. -/
def fetchBlockEntry (lx : Lexer) : Except ReadError Lexer := do
  let lx ←
    if lx.flowLevel = 0 then do
      if !lx.allowSimpleKey then throw (.fault .entryNotAllowed)
      match lx.addIndent lx.cur.column with
      | (true, lx) => pure (lx.push .blockSequenceStart)
      | (false, lx) => pure lx
    else pure lx
  let lx ← { lx with allowSimpleKey := true }.removeKey
  pure (lx.emit 1 .blockEntry)

/-- `?` of a key; in block context it may open a mapping. -/
def fetchKey (lx : Lexer) : Except ReadError Lexer := do
  let lx ←
    if lx.flowLevel = 0 then do
      if !lx.allowSimpleKey then throw (.fault .keyNotAllowed)
      match lx.addIndent lx.cur.column with
      | (true, lx) => pure (lx.push .blockMappingStart)
      | (false, lx) => pure lx
    else pure lx
  let lx ← { lx with allowSimpleKey := lx.flowLevel = 0 }.removeKey
  pure (lx.emit 1 .key)

/-- `:` of a value. After a possible simple key it makes that key one: a key token (and in
block context possibly a mapping start) goes in before the key's tokens. -/
def fetchValue (lx : Lexer) : Except ReadError Lexer := do
  let lx ←
    match lx.keyHere with
    | some k =>
      let lx := (lx.dropKey).insertAt k.tokenNumber .key
      let lx :=
        if lx.flowLevel = 0 then
          match lx.addIndent k.column with
          | (true, lx) => lx.insertAt k.tokenNumber .blockMappingStart
          | (false, lx) => lx
        else lx
      pure { lx with allowSimpleKey := false }
    | none => do
      if lx.flowLevel = 0 && !lx.allowSimpleKey then throw (.fault .valueNotAllowed)
      let lx :=
        if lx.flowLevel = 0 then
          match lx.addIndent lx.cur.column with
          | (true, lx) => lx.push .blockMappingStart
          | (false, lx) => lx
        else lx
      { lx with allowSimpleKey := lx.flowLevel = 0 }.removeKey
  pure (lx.emit 1 .value)

/-- A token that may start a simple key and is read by `scan` from the cursor. -/
def fetchKeyable (lx : Lexer) (scan : Cursor → Except ReadError (Token × Cursor)) :
    Except ReadError Lexer := do
  let lx ← lx.saveKey
  let (t, cur) ← scan lx.cur
  pure { lx.push t with cur, allowSimpleKey := false }

/-- A block scalar, `|` or `>`. -/
def fetchBlockScalar (lx : Lexer) (folded : Bool) : Except ReadError Lexer := do
  let lx ← { lx with allowSimpleKey := true }.removeKey
  let (text, cur) ← lx.cur.block folded lx.indent
  pure { lx.push (.scalar text false) with cur }

/-- A plain scalar; a simple key may follow it when it ended after a line break. -/
def fetchPlain (lx : Lexer) : Except ReadError Lexer := do
  let lx ← lx.saveKey
  let (text, cur, crossed) := lx.cur.plain (lx.flowLevel != 0) lx.indent
  pure { lx.push (.scalar text true) with cur, allowSimpleKey := crossed }

/-- Whether a plain scalar starts here. -/
def plainStarts (lx : Lexer) : Bool :=
  let ch := lx.cur.peek
  !(isBlankOrEnd ch || isIndicator ch) ||
    (!isBlankOrEnd (lx.cur.peek 1) &&
      (ch = '-' || (lx.flowLevel = 0 && (ch = '?' || ch = ':'))))

/-- Reads the next token (or tokens: block ends come before it). -/
def fetch (lx : Lexer) : Except ReadError Lexer := do
  let (cur, crossed) := lx.cur.toToken
  let lx := { lx with cur, allowSimpleKey := lx.allowSimpleKey || (crossed && lx.flowLevel = 0) }
  let lx ← lx.dropStaleKeys
  let lx := lx.unwind lx.cur.column
  let c := lx.cur
  let ch := c.peek
  let flow := lx.flowLevel != 0
  if ch = '\x00' then lx.fetchStreamEnd
  else if ch = '%' && c.column = 0 then lx.fetchDirective
  else if ch = '-' && c.column = 0 && c.startsWith "---" && isBlankOrEnd (c.peek 3) then
    lx.fetchDocumentMarker .documentStart
  else if ch = '.' && c.column = 0 && c.startsWith "..." && isBlankOrEnd (c.peek 3) then
    lx.fetchDocumentMarker .documentEnd
  else if ch = '[' then lx.fetchFlowStart .flowSequenceStart
  else if ch = '\x7b' then lx.fetchFlowStart .flowMappingStart
  else if ch = ']' then lx.fetchFlowEnd .flowSequenceEnd
  else if ch = '\x7d' then lx.fetchFlowEnd .flowMappingEnd
  else if ch = ',' then lx.fetchFlowEntry
  else if ch = '-' && isBlankOrEnd (c.peek 1) then lx.fetchBlockEntry
  else if ch = '?' && (flow || isBlankOrEnd (c.peek 1)) then lx.fetchKey
  else if ch = ':' && (flow || isBlankOrEnd (c.peek 1)) then lx.fetchValue
  else if ch = '*' then
    lx.fetchKeyable fun c => do let (n, c) ← c.anchorName; pure (.alias n, c)
  else if ch = '&' then
    lx.fetchKeyable fun c => do let (n, c) ← c.anchorName; pure (.anchor n, c)
  else if ch = '!' then
    lx.fetchKeyable fun c => do let ((h, s), c) ← c.tag; pure (.tag h s, c)
  else if ch = '|' && !flow then lx.fetchBlockScalar false
  else if ch = '>' && !flow then lx.fetchBlockScalar true
  else if ch = '\'' then
    lx.fetchKeyable fun c => do let (s, c) ← c.quoted false; pure (.scalar s false, c)
  else if ch = '"' then
    lx.fetchKeyable fun c => do let (s, c) ← c.quoted true; pure (.scalar s false, c)
  else if lx.plainStarts then lx.fetchPlain
  else throw (.fault (.noTokenStart ch))

/-- Reads tokens until the end of the text or a fault. -/
def run : Nat → Lexer → Tokens
  | 0, lx => { tokens := lx.tokens, fault := some (.fault .stalled) }
  | fuel + 1, lx =>
    if lx.done then { tokens := lx.tokens, fault := none }
    else
      match lx.fetch with
      | .ok lx => run fuel lx
      | .error e => { tokens := lx.tokens, fault := some e }

end Lexer

/-- A character the format allows in a text: tab, line feed, carriage return, printable ASCII,
next line, and the rest of Unicode above `\xa0` except the two non-characters at the end of
the basic plane. -/
def isAllowedChar (c : Char) : Bool :=
  c = '\t' || c = '\n' || c = '\r' || (' ' ≤ c && c ≤ '~') || c = '\x85' ||
    ('\xa0' ≤ c && c.toNat ≤ 0xFFFD) || (c.toNat ≥ 0x10000 && !Text.isStandIn c)

/-- The tokens of a text. A character the format does not allow is a fault before any token. -/
def Token.scan (text : String) : Tokens :=
  match text.toList.find? (fun c => !isAllowedChar c) with
  | some c => { tokens := #[], fault := some (.fault (.unprintable c)) }
  | none => Lexer.run (text.length + 2) { cur := Cursor.ofString text }

end Yaml
end EngineFit
