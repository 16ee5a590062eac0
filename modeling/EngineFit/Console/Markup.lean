import EngineFit.Console.Wrap
import EngineFit.Console.Emoji
import EngineFit.Console.Style
import EngineFit.Literal.Value
import EngineFit.Value.Literal

/-!
# Console markup

Messages for the console may carry style tags in square brackets: `[red]Error:[/red] …`. A
*tag* is `[`, then a lower-case ASCII letter, `#`, `/` or `@`, then text without `[` up to the
first `]`. A console without colour prints the text between the tags. A tag that starts with
`/` closes the latest open tag of the same style (styles compare by their normal form,
`normalStyle`), `[/]` closes the latest open tag of any style, and a closing tag that closes
nothing makes the message unprintable (`MarkupError`).

A tag whose name starts with `@` attaches data to its text: `[@click=open(1)]…[/]`. Its
parameters, the text after the first `=`, are checked when the tag closes: a handler name
(letters, digits, `_` and `.`) with its arguments in parentheses keeps the arguments, and the
rest must be a literal (`Literal.check`); a tag that is never closed is never checked.

Backslashes escape tags: of `n` backslashes in front of a tag, `n / 2` are printed as
backslashes, and when `n` is odd the tag is printed as text. Elsewhere in a message with a
tag, `\[` is printed as `[`. `escape` makes any text print as itself: it doubles the
backslashes in front of each tag and adds one, and adds a backslash to a text ending in a
single backslash. Emoji codes in the text (`:rocket:`) print as their emoji.

What is printed is then cleaned for the terminal: the control characters bell, backspace,
vertical tab, form feed and carriage return are dropped. The console is `consoleWidth` cells
wide; a message is laid out on it (`Layout`): tabs expanded and, unless it is printed as one
soft-wrapped line, long lines broken between words, cut when a word is wider than the console,
and cropped to its width. Each printed message ends with a line break.
-/

namespace EngineFit
namespace Console

/-- Whether a character may start a tag: a lower-case ASCII letter, `#`, `/` or `@`. -/
def isTagStart (c : Char) : Bool :=
  ('a' ≤ c && c ≤ 'z') || c = '#' || c = '/' || c = '@'

/-- The body of a tag at the front of a text and what follows the tag: `[`, a character that
may start a tag, and text with no `[` up to the first `]`. -/
def tagAt? : List Char → Option (List Char × List Char)
  | '[' :: c :: rest =>
    if isTagStart c then
      match rest.span (fun d => d != ']' && d != '[') with
      | (body, ']' :: after) => some (c :: body, after)
      | _ => none
    else none
  | _ => none

/-- A part of a text as tags divide it. -/
inductive Part where
  /-- Characters outside tags. -/
  | chars (cs : List Char)
  /-- A tag with the backslashes in front of it and the position of its first backslash. -/
  | tag (backslashes : Nat) (body : List Char) (position : Nat)
deriving DecidableEq, Repr

/-- Divides a text into tags and the characters between them, scanning from position `pos`;
`pending` holds the characters since the last tag, latest first. At most `fuel` characters are
looked at. -/
def partsFrom : Nat → List Char → Nat → List Char → List Part
  | 0, _, _, pending => if pending.isEmpty then [] else [.chars pending.reverse]
  | _ + 1, [], _, pending => if pending.isEmpty then [] else [.chars pending.reverse]
  | fuel + 1, c :: cs, pos, pending =>
    let (slashes, rest) := (c :: cs).span (· = '\\')
    match tagAt? rest with
    | some (body, after) =>
      let found := Part.tag slashes.length body pos
      let before := if pending.isEmpty then [] else [Part.chars pending.reverse]
      before ++ found :: partsFrom fuel after (pos + slashes.length + body.length + 2) []
    | none => partsFrom fuel cs (pos + 1) (c :: pending)

/-- The tags of a text and the characters between them, in order. -/
def parts (s : String) : List Part :=
  partsFrom (s.length + 1) s.toList 0 []

/-- `n` backslashes. -/
def backslashes (n : Nat) : List Char := List.replicate n '\\'

/-- Escapes a text so that it prints as itself. -/
def escape (s : String) : String :=
  let body := (parts s).foldl (fun acc p =>
    match p with
    | .chars cs => acc ++ cs
    | .tag n b _ => acc ++ backslashes (2 * n + 1) ++ '[' :: b ++ [']']) []
  let cs := body.reverse
  match cs with
  | '\\' :: '\\' :: _ => String.ofList body
  | '\\' :: _ => String.ofList (body ++ ['\\'])
  | _ => String.ofList body

/-- Why a message cannot be printed: a closing tag that closes nothing. -/
inductive MarkupError where
  /-- A closing tag naming a style that no open tag has. -/
  | unmatched (tag : String) (position : Nat)
  /-- `[/]` with no open tag. -/
  | nothingToClose (position : Nat)
  /-- A tag names an `rgb` colour with an empty component, which cannot be read as a number. -/
  | emptyComponent
  /-- The parameters of a closed `@` tag are not a literal; the message says why. -/
  | badMeta (message : String)
deriving DecidableEq, Repr

/-- The wording of a markup error. -/
def MarkupError.message : MarkupError → String
  | .unmatched t p =>
    "closing tag '" ++ t ++ "' at position " ++ toString p ++ " doesn't match any open tag"
  | .nothingToClose p => "closing tag '[/]' at position " ++ toString p ++ " has nothing to close"
  | .emptyComponent => "invalid literal for int() with base 10: ''"
  | .badMeta m => m

/-- Replaces each `\[` by `[`, left to right. -/
def unescapeBrackets : List Char → List Char
  | '\\' :: '[' :: rest => '[' :: unescapeBrackets rest
  | c :: rest => c :: unescapeBrackets rest
  | [] => []

/-- An open tag: the normal form of its style, and its parameters (the text after its first `=`,
when it has one). -/
abbrev OpenTag := String × Option String

/-- Removes the latest open tag of a style from the stack of open tags, giving it. -/
def closeStyle (name : String) : List OpenTag → Option (OpenTag × List OpenTag)
  | [] => none
  | t :: rest =>
    if t.1 == name then some (t, rest)
    else (closeStyle name rest).map fun (found, others) => (found, t :: others)

/-- Whether a character may appear in a handler name: a letter, a digit, `_` or `.`. -/
def isHandlerChar (c : Char) : Bool :=
  c.isAlphanum || c = '_' || c = '.' || (c.toNat ≥ 128 && !Literal.notInNames.contains c.toNat)

/-- The text to read as a literal from the stripped parameters of a meta tag: the arguments of a
handler call (`name(args)`), `()` for a bare handler name, or the whole text otherwise. -/
def metaArguments (text : String) : String :=
  let rest := text.toList.dropWhile isHandlerChar
  match rest with
  | [] => "()"
  | '(' :: _ =>
    if rest.getLast? == some ')' && rest.length ≥ 2 && !rest.contains '\n' then String.ofList rest
    else text
  | _ => text

/-- Checks the parameters of a closed meta tag: `parameters` as written in the tag. -/
def checkMeta (parameters : String) : Except MarkupError Unit :=
  let arguments := metaArguments (Text.strip parameters)
  match Literal.check arguments with
  | none => .ok ()
  | some (.grammar m) =>
    .error (.badMeta ("error parsing " ++ Value.quote arguments ++ " in " ++
      Value.quote parameters ++ "; " ++ m))
  | some (.other m) => .error (.badMeta ("error parsing " ++ Value.quote parameters ++ "; " ++ m))

/-- Checks a tag that has just closed: a meta tag with parameters must hold a literal. -/
def checkClosed (t : OpenTag) : Except MarkupError Unit :=
  match t with
  | (name, some parameters) =>
    if name.startsWith "@" && !parameters.isEmpty then checkMeta parameters else .ok ()
  | _ => .ok ()

/-- Applies a tag to the stack of open tags (latest first). -/
def applyTag (opened : List OpenTag) (body : List Char) (position : Nat) :
    Except MarkupError (List OpenTag) :=
  let name := String.ofList (body.takeWhile (· != '='))
  let parameters := match body.dropWhile (· != '=') with
    | _ :: after => some (String.ofList after)
    | [] => none
  match name.toList with
  | '/' :: closing =>
    let style := Text.strip (String.ofList closing)
    if style.isEmpty then
      match opened with
      | [] => .error (.nothingToClose position)
      | t :: rest => (checkClosed t).map fun _ => rest
    else
      match normalStyle style with
      | none => .error .emptyComponent
      | some normal =>
        match closeStyle normal opened with
        | some (t, rest) => (checkClosed t).map fun _ => rest
        | none => .error (.unmatched ("[" ++ String.ofList body ++ "]") position)
  | _ =>
    match normalStyle name with
    | none => .error .emptyComponent
    | some normal => .ok ((normal, parameters) :: opened)

/-- The characters of a piece of text between tags, its emoji codes replaced. -/
def textPiece (cs : List Char) : List Char :=
  (replaceEmoji (String.ofList cs)).toList

/-- The text of markup with its tags applied and its emoji codes replaced: the characters a
colourless console shows. -/
def render (markup : String) : Except MarkupError String :=
  if !markup.contains '[' then .ok (replaceEmoji markup)
  else
    let step (acc : List Char × List OpenTag) (p : Part) :
        Except MarkupError (List Char × List OpenTag) :=
      let (out, opened) := acc
      match p with
      | .chars cs => .ok (out ++ textPiece (unescapeBrackets cs), opened)
      | .tag n body pos =>
        let out := out ++ backslashes (n / 2)
        if n % 2 = 1 then .ok (out ++ textPiece ('[' :: body ++ [']']), opened)
        else (applyTag opened body (pos + n)).map fun opened => (out, opened)
    ((parts markup).foldlM step ([], [])).map fun (out, _) => String.ofList out

/-- Whether a character is a control code the console drops: bell, backspace, vertical tab,
form feed or carriage return. -/
def isDropped (c : Char) : Bool :=
  c = '\x07' || c = '\x08' || c = '\x0B' || c = '\x0C' || c = '\r'

/-- The text of a message without the control codes the console drops. -/
def sanitized (s : String) : List Char :=
  s.toList.filter (!isDropped ·)

/-- The width of the console, in cells. -/
def consoleWidth : Nat := 10000

/-- The output of printing a message: its text, with tags applied when it is markup, laid out on
the console and ending with a line break. A message that is not `wrap`ped keeps its long lines
whole and uncropped. -/
def printed (message : String) (markup : Bool) (wrap : Bool := true) : Except MarkupError String :=
  (if markup then render message else .ok message).map fun t =>
    let layout : Layout :=
      { width := consoleWidth, overflow := if wrap then .fold else .ignore, pad := false, wrap }
    let lines := layout.text (sanitized t)
    let lines := if wrap then lines.map (adjustLine consoleWidth false) else lines
    String.join (lines.map fun l => String.ofList l ++ "\n")

end Console
end EngineFit
