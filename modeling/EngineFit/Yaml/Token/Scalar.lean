import EngineFit.Yaml.Token
import EngineFit.Text.Surrogate
import EngineFit.Text.Ranges

/-!
# Scalar tokens

The three ways to write a scalar, each read from a cursor that stands on its first character.

* **Quoted** (`'...'` or `"..."`). In single quotes a doubled quote is a quote. In double
  quotes a backslash starts an escape: one character (`\n`, `\t`, `\0`, ...), a code of two,
  four or eight hexadecimal digits (`\x41`, `\u00e9`, `\U0001F600`), or an escaped line break,
  which joins the lines. A line break inside the quotes folds: one break becomes a space, and
  each further break stays a line feed. Blanks at the ends of lines are dropped.
* **Plain** (unquoted). It runs to a blank, to `: `, to `#` after a blank, and in flow context
  to a flow indicator. It may go on over line breaks, folded as above, while the next line is
  indented deeper than the enclosing block and is not a document marker.
* **Block** (`|` literal, `>` folded). A header gives the chomping (`-` strips the final line
  breaks, `+` keeps them all, none keeps one) and may give the indentation. The content is the
  following lines at that indentation. In a folded scalar a line break between two lines that
  start with a non-blank becomes a space.

Every loop consumes at least one character per round, so each runs on a step budget of the
length of the unread text.
-/

namespace EngineFit
namespace Yaml

/-- The character a one-character escape stands for. -/
def escapeChar? : Char → Option Char
  | '0' => some '\x00'
  | 'a' => some '\x07'
  | 'b' => some '\x08'
  | 't' => some '\t'
  | '\t' => some '\t'
  | 'n' => some '\n'
  | 'v' => some '\x0b'
  | 'f' => some '\x0c'
  | 'r' => some '\r'
  | 'e' => some '\x1b'
  | ' ' => some ' '
  | '"' => some '"'
  | '\\' => some '\\'
  | '/' => some '/'
  | 'N' => some '\x85'
  | '_' => some '\xa0'
  | 'L' => some '\u2028'
  | 'P' => some '\u2029'
  | _ => none

/-- The number of hexadecimal digits a code escape takes. -/
def escapeWidth? : Char → Option Nat
  | 'x' => some 2
  | 'u' => some 4
  | 'U' => some 8
  | _ => none

/-- The value of hexadecimal digits. -/
def hexValue (ds : List Char) : Nat :=
  ds.foldl (fun n d => n * 16 + ((Text.hexDigit? d).getD 0)) 0

/-- A flow indicator: `,`, `[`, `]`, `{` or `}`. -/
def isFlowIndicator (c : Char) : Bool :=
  c = ',' || c = '[' || c = ']' || c = '\x7b' || c = '\x7d'

namespace Cursor

/-- Reads the line breaks (with the blanks around them) that follow a break inside quotes. A
document marker at the start of one of these lines is a fault. -/
def quotedBreaks : Nat → Cursor → String → Except ReadError (String × Cursor)
  | 0, _, _ => .error (.fault .stalled)
  | fuel + 1, c, acc =>
    if c.atDocumentMarker then .error (.fault .separatorInQuote)
    else
      let c := c.skip (fun ch => ch = ' ' || ch = '\t')
      match c.lineBreak with
      | some (b, c) => quotedBreaks fuel c (acc ++ b)
      | none => .ok (acc, c)

/-- Joins lines: the first break folds into a space when no further break follows it, and
further breaks stay. A break other than a line feed is kept as written. -/
def foldBreaks (first rest : String) : String :=
  if first != "\n" then first ++ rest
  else if rest.isEmpty then " "
  else rest

/-- Reads the characters of a quoted scalar up to a blank, a break, the end of the text or
the closing quote, resolving doubled quotes and escapes. -/
def quotedRun (double : Bool) : Nat → Cursor → String → Except ReadError (String × Cursor)
  | 0, _, _ => .error (.fault .stalled)
  | fuel + 1, c, acc =>
    let (run, c) := c.span fun ch => !(ch = '\'' || ch = '"' || ch = '\\' || isBlankOrEnd ch)
    let acc := acc ++ run
    let ch := c.peek
    if !double && ch = '\'' && c.peek 1 = '\'' then quotedRun double fuel (c.advance 2) (acc.push '\'')
    else if (double && ch = '\'') || (!double && (ch = '"' || ch = '\\')) then
      quotedRun double fuel c.step (acc.push ch)
    else if double && ch = '\\' then
      let c := c.step
      let e := c.peek
      match escapeChar? e with
      | some r => quotedRun double fuel c.step (acc.push r)
      | none =>
        match escapeWidth? e with
        | some w =>
          let c := c.step
          let ds := c.rest.take w
          if ds.length = w && ds.all isHexChar then
            let code := hexValue ds
            if code > 0x10FFFF then .error (.scalar .codePoint)
            else quotedRun double fuel (c.advance w) (Text.pushCode acc code)
          else .error (.fault .badEscape)
        | none =>
          match c.lineBreak with
          | some (_, c) => do
            let (bs, c) ← quotedBreaks fuel c ""
            quotedRun double fuel c (acc ++ bs)
          | none => .error (.fault .badEscape)
    else .ok (acc, c)

/-- Reads the blanks and breaks between two runs of a quoted scalar. The end of the text here
is a fault: the quote was never closed. -/
def quotedGap (fuel : Nat) (c : Cursor) : Except ReadError (String × Cursor) :=
  let (ws, c) := c.span fun ch => ch = ' ' || ch = '\t'
  if c.peek = '\x00' then .error (.fault .unclosedQuote)
  else
    match c.lineBreak with
    | some (b, c) => do
      let (bs, c) ← quotedBreaks fuel c ""
      .ok (foldBreaks b bs, c)
    | none => .ok (ws, c)

/-- Reads runs and gaps of a quoted scalar until the closing quote `q`. -/
def quotedBody (double : Bool) (q : Char) : Nat → Cursor → String → Except ReadError (String × Cursor)
  | 0, _, _ => .error (.fault .stalled)
  | fuel + 1, c, acc =>
    if c.peek = q then .ok (acc, c.step)
    else do
      let (gap, c) ← quotedGap fuel c
      let (run, c) ← quotedRun double fuel c ""
      quotedBody double q fuel c (acc ++ gap ++ run)

/-- Reads a quoted scalar, double-quoted when `double`, from its opening quote. -/
def quoted (double : Bool) (c : Cursor) : Except ReadError (String × Cursor) := do
  let q := c.peek
  let fuel := c.rest.length + 1
  let (run, c) ← quotedRun double fuel c.step ""
  quotedBody double q fuel c run

/-- The length of the next run of a plain scalar: it stops at a blank or the end, at a `:`
followed by a blank (or, in flow context, by a flow indicator), and in flow context at `,`,
`?` and brackets. -/
def plainRunLength (flow : Bool) : List Char → Nat
  | [] => 0
  | ch :: rest =>
    if isBlankOrEnd ch then 0
    else if ch = ':' && (isBlankOrEnd (rest.headD '\x00') ||
        (flow && isFlowIndicator (rest.headD '\x00'))) then 0
    else if flow && (ch = '?' || isFlowIndicator ch) then 0
    else plainRunLength flow rest + 1

/-- Reads spaces and breaks after the first line break between two runs of a plain scalar;
the flag tells whether a document marker ended them. -/
def plainBreaks : Nat → Cursor → String → String × Cursor × Bool
  | 0, c, acc => (acc, c, false)
  | fuel + 1, c, acc =>
    if c.peek = ' ' then plainBreaks fuel c.step acc
    else
      match c.lineBreak with
      | some (b, c) =>
        if c.atDocumentMarker then (acc ++ b, c, true)
        else plainBreaks fuel c (acc ++ b)
      | none => (acc, c, false)

/-- Reads the gap after a run of a plain scalar: spaces, or line breaks folded as in quotes.
`none` when a document marker ends the scalar; the flag tells whether a line was crossed. -/
def plainGap (fuel : Nat) (c : Cursor) : Option String × Cursor × Bool :=
  let (ws, c) := c.span (· = ' ')
  match c.lineBreak with
  | some (b, c) =>
    if c.atDocumentMarker then (none, c, true)
    else
      let (bs, c, marker) := plainBreaks fuel c ""
      if marker then (none, c, true) else (some (foldBreaks b bs), c, true)
  | none => (some ws, c, false)

/-- Reads the runs of a plain scalar. `indent` is the least column of a continuation line in
block context; `gap` is the gap read before the next run; the flag tells whether the last gap
crossed a line. -/
def plainRuns (flow : Bool) (indent : Int) :
    Nat → Cursor → String → String → Bool → String × Cursor × Bool
  | 0, c, acc, _, crossed => (acc, c, crossed)
  | fuel + 1, c, acc, gap, crossed =>
    let n := plainRunLength flow c.rest
    if c.peek = '#' || n = 0 then (acc, c, crossed)
    else
      let acc := acc ++ gap ++ c.ahead n
      let c := c.advance n
      match plainGap fuel c with
      | (none, c, crossed) => (acc, c, crossed)
      | (some g, c, crossed) =>
        if g.isEmpty || c.peek = '#' || (!flow && (c.column : Int) < indent) then (acc, c, crossed)
        else plainRuns flow indent fuel c acc g crossed

/-- Reads a plain scalar inside a block indented to `indent` (or in flow context); the flag
tells whether the scalar ended after a line break, where a simple key may start. -/
def plain (flow : Bool) (indent : Int) (c : Cursor) : String × Cursor × Bool :=
  plainRuns flow (indent + 1) (c.rest.length + 1) c "" "" false

/-- Reads the header of a block scalar after its indicator: the chomping (`some true` keeps
final breaks, `some false` strips them) and the indentation, in either order. -/
def blockHeader (c : Cursor) : Except ReadError (Option Bool × Option Nat × Cursor) :=
  let digit? (ch : Char) : Option Nat := if '0' ≤ ch && ch ≤ '9' then some (ch.toNat - 48) else none
  let chomp? (ch : Char) : Option Bool :=
    if ch = '+' then some true else if ch = '-' then some false else none
  let result : Except ReadError (Option Bool × Option Nat × Cursor) :=
    match chomp? c.peek with
    | some k =>
      let c := c.step
      match digit? c.peek with
      | some 0 => .error (.fault .badBlockScalar)
      | some d => .ok (some k, some d, c.step)
      | none => .ok (some k, none, c)
    | none =>
      match digit? c.peek with
      | some 0 => .error (.fault .badBlockScalar)
      | some d =>
        let c := c.step
        match chomp? c.peek with
        | some k => .ok (some k, some d, c.step)
        | none => .ok (none, some d, c)
      | none => .ok (none, none, c)
  match result with
  | .ok (k, d, c) => if isSpaceOrEnd c.peek then .ok (k, d, c) else .error (.fault .badBlockScalar)
  | e => e

/-- Moves past spaces while the column is below `indent`. -/
def skipIndent (indent : Nat) : Nat → Cursor → Cursor
  | 0, c => c
  | fuel + 1, c => if c.column < indent && c.peek = ' ' then skipIndent indent fuel c.step else c

/-- Reads the empty lines before the content of a block scalar whose indentation is not given:
their breaks, and the largest column that their spaces reach. -/
def blockIndentation : Nat → Cursor → String → Nat → String × Nat × Cursor
  | 0, c, acc, m => (acc, m, c)
  | fuel + 1, c, acc, m =>
    if c.peek = ' ' then
      let c := c.step
      blockIndentation fuel c acc (max m c.column)
    else
      match c.lineBreak with
      | some (b, c) => blockIndentation fuel c (acc ++ b) m
      | none => (acc, m, c)

/-- Reads the empty lines of a block scalar indented to `indent`, and the indentation of the
next line. -/
def blockBreaks (indent : Nat) : Nat → Cursor → String → String × Cursor
  | 0, c, acc => (acc, c)
  | fuel + 1, c, acc =>
    let c := skipIndent indent fuel c
    match c.lineBreak with
    | some (b, c) => blockBreaks indent fuel c (acc ++ b)
    | none => (acc, c)

/-- Reads the lines of a block scalar indented to `indent`. Returns the text, the break that
ended the last line, the empty lines after it, and the cursor. -/
def blockLines (folded : Bool) (indent : Nat) :
    Nat → Cursor → String → String → String → String × String × String × Cursor
  | 0, c, acc, lastBreak, breaks => (acc, lastBreak, breaks, c)
  | fuel + 1, c, acc, lastBreak, breaks =>
    if c.column = indent && c.peek != '\x00' then
      let leadingNonBlank := !(c.peek = ' ' || c.peek = '\t')
      let (line, c) := c.span (fun ch => !isBreakOrEnd ch)
      let acc := acc ++ breaks ++ line
      let (lb, c) := match c.lineBreak with
        | some (b, c) => (b, c)
        | none => ("", c)
      let (bs, c) := blockBreaks indent fuel c ""
      if c.column = indent && c.peek != '\x00' then
        let joint :=
          if folded && lb = "\n" && leadingNonBlank && !(c.peek = ' ' || c.peek = '\t') then
            (if bs.isEmpty then " " else "")
          else lb
        blockLines folded indent fuel c (acc ++ joint) lb bs
      else (acc, lb, bs, c)
    else (acc, lastBreak, breaks, c)

/-- Reads a block scalar, folded when `folded`, from its indicator, inside a block indented to
`indent`. -/
def block (folded : Bool) (indent : Int) (c : Cursor) : Except ReadError (String × Cursor) := do
  let (chomping, increment, c) ← blockHeader c.step
  let c ← match c.endOfLine with
    | some c => pure c
    | none => .error (.fault .badBlockScalar)
  let fuel := c.rest.length + 1
  let least : Nat := (max (indent + 1) 1).toNat
  let (breaks, ind, c) := match increment with
    | none =>
      let (bs, m, c) := blockIndentation fuel c "" 0
      (bs, max least m, c)
    | some d =>
      let ind := least + d - 1
      let (bs, c) := blockBreaks ind fuel c ""
      (bs, ind, c)
  let (text, lastBreak, trailing, c) := blockLines folded ind fuel c "" "" breaks
  let text := if chomping != some false then text ++ lastBreak else text
  let text := if chomping == some true then text ++ trailing else text
  pure (text, c)

end Cursor

end Yaml
end EngineFit
