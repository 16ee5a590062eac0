import EngineFit.Value.Literal
import EngineFit.Yaml.Tag
import EngineFit.Yaml.Cursor
import EngineFit.Text.Base64

/-!
# Writing values as YAML

`Yaml.render` writes a value as a YAML document in block style, the layout a reader of
configuration files expects:

* a mapping puts each entry on a line of its own, `key: value`, nested mappings two columns
  further in; a sequence puts each item on a line starting `- `, and a sequence that is the
  value of a mapping entry stands at the column of its key;
* empty collections are written in flow style, `[]` and `{}`;
* a key that is empty, spans lines or is long (its text and tag name 128 characters or more)
  is written as an explicit `? key` followed by `: value`.

A scalar is written plain when its text reads back as the same value and has no character
that would end or change a plain scalar where it stands; otherwise in single quotes when its
characters are printable ASCII and line feeds, with no blank next to a line break; otherwise in
double quotes with escapes. Only ASCII is written: every other character is escaped. Long
scalars are folded at a space once the line passes 80 columns; a folded double-quoted scalar
ends the line with a backslash. A document that is a single plain scalar ends with `...`, so
that nothing after it can be read as part of it.

Values beyond plain data carry a tag: a byte string is `!!binary` with its base64 in a literal
block (`|`, lines of 76 characters), a set is a `!!set` mapping of its items to null. A tuple is
written as a sequence. A collection written more than once (one that contains itself) gets an
anchor `&idNNN` where it is first written and is an alias `*idNNN` after that; anchors are
numbered in the order in which their second appearance is met.

Layout is kept in a `Layout` record: the text so far, the column, whether the last character
written was blank, and whether only indentation stands on the current line. Every step is a
function on that record.
-/

namespace EngineFit
namespace Yaml

/-- The column after which scalars are folded. -/
def foldColumn : Nat := 80

/-- The columns a nested block is indented by. -/
def indentStep : Nat := 2

/-- Whether a character is a line break the writer keeps as one; a carriage return is not,
since it is always escaped. -/
def isLineEnd (c : Char) : Bool :=
  c = '\n' || c = '\x85' || c = '\u2028' || c = '\u2029'

/-- Whether a character can be written as it is: printable ASCII or a line feed. -/
def isWritable (c : Char) : Bool :=
  c = '\n' || (0x20 ≤ c.toNat && c.toNat ≤ 0x7E)

/-- What the characters of a scalar's text allow. -/
structure ScalarFacts where
  /-- The text is empty. -/
  empty : Bool
  /-- The text holds a line break. -/
  multiline : Bool
  /-- The text can be written plain in block context. -/
  plain : Bool
  /-- The text can be written in single quotes. -/
  singleQuoted : Bool
deriving DecidableEq, Repr

/-- What a scan of a scalar's text has seen so far. -/
structure Scan where
  blockIndicators : Bool := false
  lineBreaks : Bool := false
  special : Bool := false
  leadingSpace : Bool := false
  leadingBreak : Bool := false
  trailingSpace : Bool := false
  trailingBreak : Bool := false
  breakSpace : Bool := false
  spaceBreak : Bool := false
  previousSpace : Bool := false
  previousBreak : Bool := false

/-- Scans the characters of a text, the character at `index` first. An indicator character
makes a plain scalar impossible where it would start a YAML construct: anywhere at the start,
`:` before a blank, `#` after a blank. -/
def scanFrom (size : Nat) : List Char → Nat → Bool → Scan → Scan
  | [], _, _, s => s
  | c :: rest, index, precededByBlank, s =>
    let followedByBlank := match rest with
      | [] => true
      | d :: _ => isBlankOrEnd d
    let indicator :=
      if index = 0 then
        "#,[]\x7b\x7d&*!|>'\"%@".toList.contains c || c = '\x60' ||
          ((c = '?' || c = ':' || c = '-') && followedByBlank)
      else (c = ':' && followedByBlank) || (c = '#' && precededByBlank)
    let last := index + 1 = size
    let s := { s with
      blockIndicators := s.blockIndicators || indicator
      lineBreaks := s.lineBreaks || isLineEnd c
      special := s.special || !isWritable c }
    let s :=
      if c = ' ' then
        { s with leadingSpace := s.leadingSpace || index = 0
                 trailingSpace := s.trailingSpace || last
                 breakSpace := s.breakSpace || s.previousBreak
                 previousSpace := true, previousBreak := false }
      else if isLineEnd c then
        { s with leadingBreak := s.leadingBreak || index = 0
                 trailingBreak := s.trailingBreak || last
                 spaceBreak := s.spaceBreak || s.previousSpace
                 previousSpace := false, previousBreak := true }
      else { s with previousSpace := false, previousBreak := false }
    scanFrom size rest (index + 1) (isBlankOrEnd c) s

/-- What a scalar's text allows. A text starting with a document marker `---` or `...` is
never plain. -/
def ScalarFacts.of (text : String) : ScalarFacts :=
  let cs := text.toList
  if cs.isEmpty then ⟨true, false, true, true⟩
  else
    let s := scanFrom cs.length cs 0 true {}
    let marker := text.startsWith "---" || text.startsWith "..."
    let plain := !(s.leadingSpace || s.leadingBreak || s.trailingSpace || s.trailingBreak ||
      s.breakSpace || s.spaceBreak || s.special || s.lineBreaks || s.blockIndicators || marker)
    ⟨false, s.lineBreaks, plain, !(s.breakSpace || s.spaceBreak || s.special)⟩

/-- How a scalar is written. -/
inductive ScalarStyle where
  | plain
  | singleQuoted
  | doubleQuoted
deriving DecidableEq, Repr

/-- The style of a scalar: plain if its text reads back as the same value and the text allows
it, single-quoted if the text allows it, double-quoted otherwise. A simple key is never empty
or multi-line in plain style, nor multi-line in single quotes. -/
def ScalarStyle.choose (facts : ScalarFacts) (readsBack simpleKey : Bool) : ScalarStyle :=
  if readsBack && !(simpleKey && (facts.empty || facts.multiline)) && facts.plain then .plain
  else if facts.singleQuoted && !(simpleKey && facts.multiline) then .singleQuoted
  else .doubleQuoted

/-- The layout state of a document being written. -/
structure Layout where
  /-- The text written so far. -/
  out : String := ""
  /-- The column of the next character. -/
  column : Nat := 0
  /-- The last character written is blank (or nothing is written yet). -/
  whitespace : Bool := true
  /-- Only indentation stands on the current line. -/
  indention : Bool := true
  /-- The document so far is a plain scalar that would need an end marker. -/
  openEnded : Bool := false

namespace Layout

/-- Appends text on the current line. -/
def write (l : Layout) (s : String) : Layout :=
  { l with out := l.out ++ s, column := l.column + s.length }

/-- Ends the line with a given break character. -/
def lineBreakWith (l : Layout) (c : Char) : Layout :=
  { l with out := l.out.push c, column := 0, whitespace := true, indention := true }

/-- Ends the line. -/
def lineBreak (l : Layout) : Layout := l.lineBreakWith '\n'

/-- Writes an indicator, after a space when one is needed and the last character is not
blank. `blank` tells whether the indicator counts as blank for what follows, `indentation`
whether it may count as indentation. -/
def indicator (l : Layout) (ind : String) (needsSpace : Bool) (blank : Bool := false)
    (indentation : Bool := false) : Layout :=
  let data := if l.whitespace || !needsSpace then ind else " " ++ ind
  { l.write data with whitespace := blank, indention := l.indention && indentation,
                      openEnded := false }

/-- Moves to column `indent`: on a new line unless the current line holds only indentation
short of it, then pads with spaces. -/
def indentTo (l : Layout) (indent : Nat) : Layout :=
  let l := if !l.indention || l.column > indent || (l.column = indent && !l.whitespace) then
    l.lineBreak else l
  if l.column < indent then
    { l.write (String.ofList (List.replicate (indent - l.column) ' ')) with whitespace := true }
  else l

/-- Writes pending characters, if any. -/
def flush (l : Layout) (pending : List Char) : Layout :=
  if pending.isEmpty then l else l.write (String.ofList pending)

/-- Writes a run of line breaks inside a scalar: a leading line feed is doubled, since a
single break reads back as a space, then the line is indented. -/
def breaks (l : Layout) (run : List Char) (indent : Nat) : Layout :=
  let l := if run.head? = some '\n' then l.lineBreak else l
  (run.foldl (fun l c => l.lineBreakWith c) l).indentTo indent

end Layout

/-- Writes the characters of a plain scalar. `pending` holds the current run, latest first;
`spaces` and `lineBreaks` tell whether it is a run of spaces or of line breaks. A single space
past the fold column becomes a line break when folding is allowed. -/
def plainChars (indent : Nat) (fold : Bool) :
    List Char → List Char → Bool → Bool → Layout → Layout
  | cs, pending, spaces, lineBreaks, l =>
    let ch := cs.head?
    let (l, pending) :=
      if spaces then
        if ch != some ' ' then
          if pending.length = 1 && l.column > foldColumn && fold then
            ({ l.indentTo indent with whitespace := false, indention := false }, [])
          else (l.flush pending.reverse, [])
        else (l, pending)
      else if lineBreaks then
        if !(ch.map isLineEnd).getD false then
          ({ l.breaks pending.reverse indent with whitespace := false, indention := false }, [])
        else (l, pending)
      else if (ch.map fun c => c = ' ' || isLineEnd c).getD true then (l.flush pending.reverse, [])
      else (l, pending)
    match cs with
    | [] => l
    | c :: rest => plainChars indent fold rest (c :: pending) (c = ' ') (isLineEnd c) l

/-- Writes the characters of a single-quoted scalar; a quote is written twice. `first` tells
whether nothing of the text has been written yet: a space run at either end is never folded. -/
def singleChars (indent : Nat) (fold : Bool) :
    List Char → List Char → Bool → Bool → Bool → Layout → Layout
  | cs, pending, spaces, lineBreaks, first, l =>
    let ch := cs.head?
    let (l, pending, first) :=
      if spaces then
        if ch != some ' ' then
          if pending.length = 1 && l.column > foldColumn && fold && !first && ch.isSome then
            (l.indentTo indent, [], false)
          else (l.flush pending.reverse, [], false)
        else (l, pending, first)
      else if lineBreaks then
        if !(ch.map isLineEnd).getD false then (l.breaks pending.reverse indent, [], false)
        else (l, pending, first)
      else if (ch.map fun c => c = ' ' || isLineEnd c || c = '\'').getD true then
        if pending.isEmpty then (l, pending, first) else (l.flush pending.reverse, [], false)
      else (l, pending, first)
    match cs with
    | [] => l
    | c :: rest =>
      if c = '\'' then singleChars indent fold rest [] false false false (l.write "''")
      else singleChars indent fold rest (c :: pending) (c = ' ') (isLineEnd c) first l

/-- Upper-case hexadecimal digits of `n`, at least `width` of them. -/
def upperHex (width n : Nat) : String :=
  let s := String.ofList ((Nat.toDigits 16 n).map Char.toUpper)
  String.ofList (List.replicate (width - s.length) '0') ++ s

/-- The escape of a code point in a double-quoted scalar: a short escape where YAML has one,
else its code. -/
def escapeOf (n : Nat) : String :=
  match n with
  | 0x00 => "\\0"
  | 0x07 => "\\a"
  | 0x08 => "\\b"
  | 0x09 => "\\t"
  | 0x0A => "\\n"
  | 0x0B => "\\v"
  | 0x0C => "\\f"
  | 0x0D => "\\r"
  | 0x1B => "\\e"
  | 0x22 => "\\\""
  | 0x5C => "\\\\"
  | 0x85 => "\\N"
  | 0xA0 => "\\_"
  | 0x2028 => "\\L"
  | 0x2029 => "\\P"
  | n =>
    if n ≤ 0xFF then "\\x" ++ upperHex 2 n
    else if n ≤ 0xFFFF then "\\u" ++ upperHex 4 n
    else "\\U" ++ upperHex 8 n

/-- Whether a code point is escaped in a double-quoted scalar: all but printable ASCII, and the
quote and backslash. -/
def needsEscape (n : Nat) : Bool :=
  n = 0x22 || n = 0x5C || !(0x20 ≤ n && n ≤ 0x7E)

/-- The code points of `text` from `start` up to `stop`, all printable ASCII. -/
def slice (text : Array Nat) (start stop : Nat) : String :=
  String.ofList (((text.toList.drop start).take (stop - start)).map Char.ofNat)

/-- Writes the code points of a double-quoted scalar from position `stop` on; those from `start`
to `stop` are not written yet (`start` may be one past `stop` just after an escape). Past the fold
column the line is broken after a space or an escape with a backslash, and a space that would
start the next line is kept by a backslash. -/
def doubleChars (text : Array Nat) (indent : Nat) (fold : Bool) :
    List (Option Nat) → Nat → Nat → Layout → Layout
  | [], _, _, l => l
  | ch :: rest, start, stop, l =>
    let escaped := (ch.map needsEscape).getD true
    let (l, start) :=
      if escaped then
        let (l, start) := if start < stop then (l.write (slice text start stop), stop)
          else (l, start)
        match ch with
        | some c => (l.write (escapeOf c), stop + 1)
        | none => (l, start)
      else (l, start)
    let (l, start) :=
      if 0 < stop && stop + 1 < text.size && (ch = some 0x20 || start ≥ stop) &&
          (l.column : Int) + ((stop : Int) - start) > foldColumn && fold then
        let l := l.write (slice text start stop ++ "\\")
        let start := if start < stop then stop else start
        let l := { l.indentTo indent with whitespace := false, indention := false }
        (if text[start]? = some 0x20 then l.write "\\" else l, start)
      else (l, start)
    doubleChars text indent fold rest start (stop + 1) l

/-- Writes a scalar's text in a style, its continuation lines indented to `indent`. A plain
scalar at the top of a document leaves the document open-ended. -/
def Layout.scalar (l : Layout) (style : ScalarStyle) (text : String) (indent : Nat)
    (fold topLevel : Bool) : Layout :=
  match style with
  | .plain =>
    let l := if topLevel then { l with openEnded := true } else l
    if text.isEmpty then l
    else
      let l := if l.whitespace then l else l.write " "
      plainChars indent fold text.toList [] false false
        { l with whitespace := false, indention := false }
  | .singleQuoted =>
    let l := l.indicator "'" true
    (singleChars indent fold text.toList [] false false true l).indicator "'" false
  | .doubleQuoted =>
    let l := l.indicator "\"" true
    let ns := Text.codes text
    (doubleChars ns.toArray indent fold (ns.map some ++ [none]) 0 0 l).indicator "\"" false

/-- The text of a double as a YAML float: `.nan`, `.inf`, `-.inf`, or its shortest digits in
lower case, with `.0` put before an exponent when there is no point, so that it reads back as
a float. -/
def floatForm (x : Float) : String :=
  if x.isNaN then ".nan"
  else if x.isInf then (if x > 0 then ".inf" else "-.inf")
  else
    let s := String.ofList ((Value.floatText x).toList.map Char.toLower)
    if !s.contains '.' && s.contains 'e' then
      match s.splitOn "e" with
      | m :: rest => m ++ ".0e" ++ "e".intercalate rest
      | [] => s
    else s

/-- A scalar as written: its text, the length of its tag's short name (`!!str`, `!!int`, …,
which counts towards the length of a key), and whether the text reads back as the value
when written plain. -/
def scalarForm : Value → String × Nat × Bool
  | .null => ("null", 6, true)
  | .bool b => (if b then "true" else "false", 6, true)
  | .int n => (toString n, 5, true)
  | .float x => (floatForm x, 7, true)
  | .str s => (s, 5, Tag.resolve s true == .str)
  | .date d => (Value.dateText d, 11, true)
  | .stamp t => (Value.stampText t, 11, true)
  | .bytes bs => (String.join ((Text.base64Lines bs).map (· ++ "\n")), 8, false)
  | .list _ | .tuple _ => ("", 5, true)
  | .dict _ => ("", 5, true)
  | .set _ => ("", 5, true)
  | v => (v.literal, 5, false)

/-- Whether a key is written in the short form `key: value`: a scalar that is not empty, is on
one line and is shorter than 128 code points with its tag name, or an empty collection. -/
def isSimpleKey : Value → Bool
  | .list xs => xs.isEmpty
  | .dict kvs => kvs.isEmpty
  | v =>
    let (text, tagLength, _) := scalarForm v
    let facts := ScalarFacts.of text
    tagLength + Text.codeLength text < 128 && !facts.empty && !facts.multiline

/-- Where a node stands. -/
inductive Place where
  /-- The whole document. -/
  | top
  /-- An item of a sequence. -/
  | item
  /-- A key written in the short form. -/
  | simpleKey
  /-- A value of a mapping, or a key written in the explicit form. -/
  | entry
deriving DecidableEq, Repr

/-- Whether a place is inside a mapping. -/
def Place.inMapping : Place → Bool
  | .simpleKey | .entry => true
  | _ => false

/-- The indentation of a nested block: column 0 at the top, two columns further in below. -/
def nestedIndent : Option Nat → Nat
  | none => 0
  | some i => i + indentStep

/-- The names of anchors: `id` and a number of at least three digits. -/
def anchorName (n : Nat) : String :=
  let d := toString n
  "id" ++ String.ofList (List.replicate (3 - d.length) '0') ++ d

/-- Records one appearance of the collection `id`, given the collections met so far and the
names given so far: a second appearance names it. -/
def meetAnchor (id : Nat) (st : List Nat × List (Nat × String)) : List Nat × List (Nat × String) :=
  let (seen, names) := st
  if seen.contains id then
    if names.any (·.1 == id) then st else (seen, names ++ [(id, anchorName (names.length + 1))])
  else (id :: seen, names)

mutual
/-- Names the anchors of a value, visiting it in document order; a collection met again is not
visited again. -/
def nameAnchors : Value → List Nat × List (Nat × String) → List Nat × List (Nat × String)
  | .anchor id b, st =>
    let again := st.1.contains id
    let st := meetAnchor id st
    if again then st else nameAnchors b st
  | .recur id, st => meetAnchor id st
  | .list xs, st | .tuple xs, st | .set xs, st => nameAnchorsItems xs st
  | .dict kvs, st => nameAnchorsEntries kvs st
  | _, st => st
/-- Names the anchors of items in order. -/
def nameAnchorsItems : List Value → List Nat × List (Nat × String) → List Nat × List (Nat × String)
  | [], st => st
  | x :: xs, st => nameAnchorsItems xs (nameAnchors x st)
/-- Names the anchors of entries in order, each key before its value. -/
def nameAnchorsEntries :
    List (Value × Value) → List Nat × List (Nat × String) → List Nat × List (Nat × String)
  | [], st => st
  | (k, v) :: rest, st => nameAnchorsEntries rest (nameAnchors v (nameAnchors k st))
end

/-- Writes a literal block scalar: `|`, then its lines each indented to `indent` and ended by a
line break. -/
def Layout.literalBlock (l : Layout) (lines : List String) (indent : Nat) : Layout :=
  let l := (l.indicator "|" true).lineBreak
  lines.foldl (fun l line =>
    { (l.indentTo indent).write line with whitespace := false, indention := false }.lineBreak) l

/-- Writes a scalar whose parent block is indented to `indent` (none at the top). -/
def Layout.scalarNode (l : Layout) (indent : Option Nat) (place : Place) (v : Value) : Layout :=
  let (text, _, readsBack) := scalarForm v
  let simpleKey := place = .simpleKey
  let style := ScalarStyle.choose (ScalarFacts.of text) readsBack simpleKey
  l.scalar style text ((indent.getD 0) + indentStep) (!simpleKey) (place = .top)

mutual
/-- Writes a node whose parent block is indented to `indent` (none at the top); `names` are the
names of the anchors. -/
def Layout.node (names : List (Nat × String)) (l : Layout) (indent : Option Nat) (place : Place) :
    Value → Layout
  | .list [] | .tuple [] => (l.indicator "[" true true).indicator "]" false
  | .dict [] => (l.indicator "\x7b" true true).indicator "\x7d" false
  | .set [] =>
    ((l.indicator "!!set" true).indicator "\x7b" true true).indicator "\x7d" false
  | .list xs | .tuple xs =>
    -- a sequence that is a mapping's value stands at the column of the key
    let i := match indent with
      | none => 0
      | some i => if place.inMapping && !l.indention then i else i + indentStep
    Layout.items names l i xs
  | .dict kvs => Layout.entries names l (nestedIndent indent) kvs
  | .set xs => Layout.members names (l.indicator "!!set" true) (nestedIndent indent) xs
  | .anchor id b =>
    let l := match names.find? (·.1 == id) with
      | some (_, n) => l.indicator ("&" ++ n) true
      | none => l
    Layout.node names l indent place b
  | .recur id =>
    match names.find? (·.1 == id) with
    | some (_, n) => l.indicator ("*" ++ n) true
    | none => l
  | .bytes bs =>
    let l := l.indicator "!!binary" true
    if bs.isEmpty then l.scalar .doubleQuoted "" ((indent.getD 0) + indentStep) true false
    else l.literalBlock (Text.base64Lines bs) ((indent.getD 0) + indentStep)
  | v => l.scalarNode indent place v
/-- Writes the items of a block sequence at column `i`. -/
def Layout.items (names : List (Nat × String)) (l : Layout) (i : Nat) : List Value → Layout
  | [] => l
  | x :: xs =>
    Layout.items names
      (Layout.node names ((l.indentTo i).indicator "-" true false true) (some i) .item x) i xs
/-- Writes the entries of a block mapping at column `i`. -/
def Layout.entries (names : List (Nat × String)) (l : Layout) (i : Nat) :
    List (Value × Value) → Layout
  | [] => l
  | (k, v) :: rest =>
    let l := l.indentTo i
    let l :=
      if isSimpleKey k then
        Layout.node names ((Layout.node names l (some i) .simpleKey k).indicator ":" false)
          (some i) .entry v
      else
        let l := Layout.node names (l.indicator "?" true false true) (some i) .entry k
        Layout.node names ((l.indentTo i).indicator ":" true false true) (some i) .entry v
    Layout.entries names l i rest
/-- Writes the members of a set as the keys of a block mapping at column `i`, each with a null
value. -/
def Layout.members (names : List (Nat × String)) (l : Layout) (i : Nat) : List Value → Layout
  | [] => l
  | k :: rest =>
    let l := l.indentTo i
    let l :=
      if isSimpleKey k then
        ((Layout.node names l (some i) .simpleKey k).indicator ":" false).scalarNode
          (some i) .entry .null
      else
        let l := Layout.node names (l.indicator "?" true false true) (some i) .entry k
        ((l.indentTo i).indicator ":" true false true).scalarNode (some i) .entry .null
    Layout.members names l i rest
end

/-- A value as a YAML document, ending with a line break. -/
def render (v : Value) : String :=
  let names := (nameAnchors v ([], [])).2
  let l := (Layout.node names {} none .top v).indentTo 0
  (if l.openEnded then (l.indicator "..." true).indentTo 0 else l).out

end Yaml
end EngineFit
