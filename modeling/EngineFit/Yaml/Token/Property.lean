import EngineFit.Yaml.Token.Scalar

/-!
# Anchors, aliases, tags and directives

The tokens that are words rather than content.

* An anchor `&name` or alias `*name` has a name of ASCII letters, digits, `-` and `_`, which
  must end at a blank, a line break, the end of the text or one of `?:,]}%@` and the backquote.
* A tag is `!<uri>` (verbatim), `!` alone (the non-specific tag), `!suffix` (the primary
  handle), or `!handle!suffix` when a second `!` comes before the next space. A suffix is made
  of URI characters and `%XX` escapes that spell UTF-8. A blank or the end must follow.
* A directive line is `%YAML major.minor`, `%TAG handle prefix`, or any other name with
  arguments that are ignored; a comment may end the line.
-/

namespace EngineFit
namespace Yaml

/-- A character that may end an anchor or alias name besides blanks and breaks. -/
def endsAnchor (c : Char) : Bool :=
  c = '?' || c = ':' || c = ',' || c = ']' || c = '\x7d' || c = '%' || c = '@' || c = '\x60'

/-- A character of a URI in a tag: ASCII letters and digits and the marks the URI syntax uses. -/
def isUriChar (c : Char) : Bool :=
  isWordChar c || "-;/?:@&=+$,_.!~*'()[]%".toList.contains c

namespace Cursor

/-- Reads an anchor or alias name after its indicator. -/
def anchorName (c : Cursor) : Except ReadError (String × Cursor) :=
  let (name, c) := c.step.span isWordChar
  if name.isEmpty then .error (.fault .badAnchor)
  else if isBlankOrEnd c.peek || endsAnchor c.peek then .ok (name, c)
  else .error (.fault .badAnchor)

/-- Reads a tag handle: `!`, `!!` or `!word!`. -/
def tagHandle (c : Cursor) : Except ReadError (String × Cursor) :=
  if c.peek != '!' then .error (.fault .badTag)
  else if c.peek 1 = ' ' then .ok ("!", c.step)
  else
    let n := ((c.rest.drop 1).takeWhile isWordChar).length
    if c.peek (n + 1) = '!' then .ok (c.ahead (n + 2), c.advance (n + 2))
    else .error (.fault .badTag)

/-- Reads `%XX` escapes and decodes their bytes as UTF-8. -/
def uriEscapes : Nat → Cursor → List UInt8 → Except ReadError (String × Cursor)
  | 0, _, _ => .error (.fault .stalled)
  | fuel + 1, c, bytes =>
    if c.peek = '%' then
      let c := c.step
      let ds := c.rest.take 2
      if ds.length = 2 && ds.all isHexChar then
        uriEscapes fuel (c.advance 2) (bytes ++ [(hexValue ds).toUInt8])
      else .error (.fault .badUriEscape)
    else
      match String.fromUTF8? (ByteArray.mk bytes.toArray) with
      | some s => .ok (s, c)
      | none => .error (.fault .badUriEscape)

/-- Reads the URI of a tag; it may not be empty. -/
def tagUri : Nat → Cursor → String → Except ReadError (String × Cursor)
  | 0, _, _ => .error (.fault .stalled)
  | fuel + 1, c, acc =>
    let (run, c) := c.span fun ch => isUriChar ch && ch != '%'
    let acc := acc ++ run
    if c.peek = '%' then do
      let (s, c) ← uriEscapes (c.rest.length + 1) c []
      tagUri fuel c (acc ++ s)
    else if acc.isEmpty then .error (.fault .badTag)
    else .ok (acc, c)

/-- Reads a tag from its `!`: the handle (none for a verbatim tag or a lone `!`) and the
suffix. -/
def tag (c : Cursor) : Except ReadError ((Option String × String) × Cursor) := do
  let fuel := c.rest.length + 1
  let next := c.peek 1
  let (t, c) ←
    if next = '<' then do
      let (suffix, c) ← tagUri fuel (c.advance 2) ""
      if c.peek != '>' then throw (.fault .badTag)
      pure ((none, suffix), c.step)
    else if isBlankOrEnd next then pure ((none, "!"), c.step)
    else do
      let handled :=
        ((c.rest.drop 1).dropWhile fun ch => !isSpaceOrEnd ch && ch != '!').headD '\x00' = '!'
      let (handle, c) ← if handled then tagHandle c else pure ("!", c.step)
      let (suffix, c) ← tagUri fuel c ""
      pure ((some handle, suffix), c)
  if isSpaceOrEnd c.peek then pure (t, c) else throw (.fault .badTag)

/-- Reads the digits of a version number. -/
def versionNumber (c : Cursor) : Except ReadError (Nat × Cursor) :=
  let (ds, c) := c.span fun ch => '0' ≤ ch && ch ≤ '9'
  if ds.isEmpty then .error (.fault .badDirective)
  else .ok (ds.foldl (fun n d => n * 10 + (d.toNat - 48)) 0, c)

/-- Reads a directive line from its `%`, through its line break. -/
def directive (c : Cursor) : Except ReadError (Token × Cursor) := do
  let (name, c) := c.step.span isWordChar
  if name.isEmpty || !isSpaceOrEnd c.peek then throw (.fault .badDirective)
  let (t, c) ←
    if name = "YAML" then do
      let (major, c) ← versionNumber (c.skip (· = ' '))
      if c.peek != '.' then throw (.fault .badDirective)
      let (minor, c) ← versionNumber c.step
      if !isSpaceOrEnd c.peek then throw (.fault .badDirective)
      pure (Token.versionDirective major minor, c)
    else if name = "TAG" then do
      let (handle, c) ← tagHandle (c.skip (· = ' '))
      if c.peek != ' ' then throw (.fault .badDirective)
      let (pre, c) ← tagUri (c.rest.length + 1) (c.skip (· = ' ')) ""
      if !isSpaceOrEnd c.peek then throw (.fault .badDirective)
      pure (Token.tagDirective handle pre, c)
    else pure (Token.otherDirective name, c.skip fun ch => !isBreakOrEnd ch)
  match c.endOfLine with
  | some c => pure (t, c)
  | none => throw (.fault .badDirective)

end Cursor

end Yaml
end EngineFit
