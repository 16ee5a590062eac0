import EngineFit.Yaml.Error

/-!
# Reading position in a YAML text

A `Cursor` holds the unread part of the text with the number of characters read before it and
the line and column it stands at. Lines and columns start at zero. A line break ends a line: a
line feed, a next-line character, a line or paragraph separator, or a carriage return that no
line feed follows (a carriage return and line feed end one line, at the line feed). A byte
order mark takes no column, and the pair mark of a code point held as two characters
(`Text.spell`) neither a place nor a column.

Looking past the end of the text shows the character `'\x00'`, which the text itself never
holds (it is not printable), so every scanning rule that stops at a break also stops at the
end.

The character classes of the format are here too: breaks, blanks (space and tab), and the
characters that may follow an indicator for it to count as one.
-/

namespace EngineFit
namespace Yaml

/-- A line break character. -/
def isBreak (c : Char) : Bool :=
  c = '\n' || c = '\r' || c = '\x85' || c = '\u2028' || c = '\u2029'

/-- A line break or the end of the text. -/
def isBreakOrEnd (c : Char) : Bool := c = '\x00' || isBreak c

/-- A space, a line break or the end of the text (a tab is not among them). -/
def isSpaceOrEnd (c : Char) : Bool := c = ' ' || isBreakOrEnd c

/-- A blank (space or tab), a line break or the end of the text. -/
def isBlankOrEnd (c : Char) : Bool := c = ' ' || c = '\t' || isBreakOrEnd c

/-- An ASCII letter or digit, `-` or `_`: the characters of anchor names, directive names and
tag handles. -/
def isWordChar (c : Char) : Bool :=
  ('0' ≤ c && c ≤ '9') || ('A' ≤ c && c ≤ 'Z') || ('a' ≤ c && c ≤ 'z') || c = '-' || c = '_'

/-- An ASCII hexadecimal digit. -/
def isHexChar (c : Char) : Bool :=
  ('0' ≤ c && c ≤ '9') || ('A' ≤ c && c ≤ 'F') || ('a' ≤ c && c ≤ 'f')

/-- The unread text and where it starts. -/
structure Cursor where
  rest : List Char
  index : Nat := 0
  line : Nat := 0
  column : Nat := 0
deriving Repr, Inhabited

namespace Cursor

/-- A cursor at the start of a text. -/
def ofString (s : String) : Cursor := { rest := s.toList }

/-- The character `k` places ahead, `'\x00'` past the end. -/
def peek (c : Cursor) (k : Nat := 0) : Char := c.rest.getD k '\x00'

/-- Moves past one character, counting lines and columns. -/
def step (c : Cursor) : Cursor :=
  match c.rest with
  | [] => c
  | ch :: r =>
    if ch = '\n' || ch = '\x85' || ch = '\u2028' || ch = '\u2029' ||
        (ch = '\r' && r.headD '\x00' != '\n') then
      { rest := r, index := c.index + 1, line := c.line + 1, column := 0 }
    else if ch = '\uFEFF' then { c with rest := r, index := c.index + 1 }
    else if ch = Text.pairMark then { c with rest := r }
    else { c with rest := r, index := c.index + 1, column := c.column + 1 }

/-- Moves past `n` characters. -/
def advance : Nat → Cursor → Cursor
  | 0, c => c
  | n + 1, c => advance n c.step

/-- The next `n` characters. -/
def ahead (c : Cursor) (n : Nat) : String := String.ofList (c.rest.take n)

/-- Whether the unread text starts with `s`. -/
def startsWith (c : Cursor) (s : String) : Bool := s.toList.isPrefixOf c.rest

/-- Reads the longest run of characters that satisfy `p`. -/
def span (c : Cursor) (p : Char → Bool) : String × Cursor :=
  let n := (c.rest.takeWhile p).length
  (c.ahead n, c.advance n)

/-- Moves past the longest run of characters that satisfy `p`. -/
def skip (c : Cursor) (p : Char → Bool) : Cursor := (c.span p).2

/-- Reads one line break: a carriage return with a line feed, a carriage return, a line feed or
a next-line character all read as a line feed; a line or paragraph separator reads as itself.
`none` when no break is next. -/
def lineBreak (c : Cursor) : Option (String × Cursor) :=
  match c.rest with
  | '\r' :: '\n' :: _ => some ("\n", c.advance 2)
  | ch :: _ =>
    if ch = '\r' || ch = '\n' || ch = '\x85' then some ("\n", c.step)
    else if ch = '\u2028' || ch = '\u2029' then some (String.singleton ch, c.step)
    else none
  | [] => none

/-- Whether a document marker (`---` or `...` followed by a blank or the end) is next. -/
def atDocumentMarker (c : Cursor) : Bool :=
  (c.startsWith "---" || c.startsWith "...") && isBlankOrEnd (c.peek 3)

/-- Moves past a comment, if one is next: from `#` to the end of the line. -/
def skipComment (c : Cursor) : Cursor :=
  if c.peek = '#' then c.skip (fun ch => !isBreakOrEnd ch) else c

/-- Moves past the rest of a line that may hold only spaces and a comment, and past its
break; `none` when something else stands on it. -/
def endOfLine (c : Cursor) : Option Cursor :=
  let c := (c.skip (· = ' ')).skipComment
  if isBreakOrEnd c.peek then
    match c.lineBreak with
    | some (_, c) => some c
    | none => some c
  else none

end Cursor

end Yaml
end EngineFit
