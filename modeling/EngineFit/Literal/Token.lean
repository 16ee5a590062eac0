import EngineFit.Text.Printable

/-!
# Tokens of literal expressions

The parameters of a meta tag in console markup are read as a literal expression (`(1, 'a')`,
`{'k': -2.5}`). Reading one starts by cutting the text into tokens: names (keywords among them),
numbers, strings with their prefix letters, operators and brackets, line breaks, and the
indentation of a line that follows a line break outside brackets.

The scan stops at the first fault, which ends the tokens in place of their end marker. Faults
come in two kinds. A *hard* fault (an unterminated string, a malformed number, a closing bracket
that matches no opening one, a character that cannot appear) is reported whatever the parse
makes of the tokens before it. A *soft* fault (the text ends inside brackets, a backslash that
does not end its line, a line indented to no outer level) is reported only when the parse
reaches it; otherwise the parse's own error stands.

Each token keeps its line and the number of brackets open just after it.
-/

namespace EngineFit
namespace Literal

/-- The kind of a number: whole, with a fraction or exponent, or imaginary (ending in `j`). -/
inductive NumberKind where
  | whole
  | fraction
  | imaginary
deriving DecidableEq, Repr, Inhabited

/-- Where the scan stopped short: the message, whether it is hard, and the innermost bracket
still open then, with its line. -/
structure Fault where
  message : String
  hard : Bool
  unclosed : Option (Char × Nat)
deriving Repr, Inhabited

/-- A token. Strings keep their prefix letters in lower case and the text between the quotes. -/
inductive Tok where
  | name (text : String)
  | number (kind : NumberKind)
  | string (pre : String) (body : List Char)
  | op (text : String)
  | newline
  | indent
  | dedent
  | endMarker
  | fault (f : Fault)
deriving Repr, Inhabited

/-- A token with its line and the brackets open after it. -/
structure Lexeme where
  tok : Tok
  line : Nat
  level : Nat
deriving Repr, Inhabited

/-- Code points past ASCII that cannot be part of a name (symbols, punctuation, spaces,
private use), approximately. -/
def notInNames : Text.Ranges :=
  Text.Ranges.parse ("80-a9 ab-b4 b6 b8-b9 bb-bf d7 f7 2c2-2c5 2d2-2df 2e5-2eb 2ed 2ef-2ff" ++
    " 37e 384-385 3f6 482 55a-55f 589-58a 5be 5c0 5c3 5c6 5f3-5f4 600-60f 61b-61f 66a-66d" ++
    " 6d4 6dd-6de 6e9 6fd-6fe 700-70f 2000-203e 2041-2053 2055-2070 2072-207e 2080-208f" ++
    " 20a0-20cf 2100-2101 2103-2106 2108-2109 2114 2116-2117 211e-2123 2125 2127 2129 212e" ++
    " 213a-213b 2140-2144 214a-214d 214f-215f 2189-2bff 2e00-2e7f 3000-3004 3008-3020 3030" ++
    " 3036-3037 303d-303f d800-f8ff fd3e-fd3f fe10-fe1f fe30-fe32 fe35-fe4c fe50-fe6f feff" ++
    " ff01-ff0f ff1a-ff20 ff3b-ff3e ff40 ff5b-ff65 ffe0-ffff 1f000-1faff f0000-10ffff")

/-- Code points past ASCII that may continue a name but not start it (combining marks,
connectors, digits), approximately. -/
def onlyInsideNames : Text.Ranges :=
  Text.Ranges.parse ("300-36f 483-489 591-5bd 5bf 5c1-5c2 5c4-5c5 5c7 610-61a 64b-669 670" ++
    " 6d6-6dc 6df-6e4 6e7-6e8 6ea-6ed 6f0-6f9 966-96f 1ab0-1aff 1dc0-1dff 203f-2040 2054" ++
    " 20d0-20f0 fe00-fe0f fe20-fe2f fe33-fe34 fe4d-fe4f ff10-ff19 ff3f")

/-- Whether a character may start a name as far as the scan can tell: an ASCII letter, `_`, or
any character past ASCII (checked afterwards by `nameFault`). -/
def isNameStart (c : Char) : Bool := c.isAlpha || c = '_' || c.toNat ≥ 128

/-- Whether a character may continue a name as far as the scan can tell. -/
def isNameChar (c : Char) : Bool := isNameStart c || c.isDigit

/-- Upper-case hexadecimal digits of `n`, at least four of them. -/
def codeText (n : Nat) : String :=
  let s := String.ofList ((Nat.toDigits 16 n).map Char.toUpper)
  String.ofList (List.replicate (4 - s.length) '0') ++ s

/-- The fault of a name with characters past ASCII: the first character that cannot stand where
it stands. -/
def nameFault (cs : List Char) : Option String :=
  let bad (i : Nat) (c : Char) : Bool :=
    c.toNat ≥ 128 &&
      (notInNames.contains c.toNat || (i = 0 && onlyInsideNames.contains c.toNat))
  match (cs.zipIdx.find? fun (c, i) => bad i c) with
  | none => none
  | some (c, _) =>
    if Text.isPrintable c then
      some ("invalid character '" ++ String.singleton c ++ "' (U+" ++ codeText c.toNat ++ ")")
    else some ("invalid non-printable character U+" ++ codeText c.toNat)

/-- Whether a character is a hexadecimal digit. -/
def isHex (c : Char) : Bool := c.isDigit || ('a' ≤ c && c ≤ 'f') || ('A' ≤ c && c ≤ 'F')

/-- Checks what follows a number. A letter or digit right after it is an error, unless it
starts `and`, `else`, `for`, `if`, `in`, `is`, `not` or `or`. -/
def numberEnd (kind : String) : List Char → Except String Unit
  | [] => .ok ()
  | c :: rest =>
    let keyword := match c with
      | 'a' => rest.take 2 == ['n', 'd']
      | 'e' => rest.take 3 == ['l', 's', 'e']
      | 'f' => rest.take 2 == ['o', 'r']
      | 'i' => rest.head? == some 'f' || rest.head? == some 'n' || rest.head? == some 's'
      | 'o' => rest.head? == some 'r'
      | 'n' => rest.take 2 == ['o', 't']
      | _ => false
    if !keyword && isNameChar c then .error ("invalid " ++ kind ++ " literal") else .ok ()

/-- Reads the digits after a decimal digit: more digits, each underscore followed by a digit.
`none` when an underscore is not. -/
def decimalTail : List Char → Option (List Char)
  | [] => some []
  | c :: cs =>
    if c.isDigit then decimalTail cs
    else if c = '_' then
      match cs with
      | d :: ds => if d.isDigit then decimalTail ds else none
      | [] => none
    else some (c :: cs)

/-- Reads digits of a radix, groups joined by single underscores; `fresh` when a digit must come
next. On failure, gives the text from the character that is not a digit. -/
def radixRun (ok : Char → Bool) : Bool → List Char → Except (List Char) (List Char)
  | true, d :: r => if ok d then radixRun ok false r else .error (d :: r)
  | true, [] => .error []
  | false, d :: r =>
    if ok d then radixRun ok false r
    else if d = '_' then radixRun ok true r
    else .ok (d :: r)
  | false, [] => .ok []

/-- Reads the digits of a hexadecimal, octal or binary number, after its prefix. -/
def radixNumber (ok : Char → Bool) (name : String) (digitsAreErrors : Bool) (cs : List Char) :
    Except String (List Char) :=
  let start := match cs with
    | '_' :: r => r
    | r => r
  let badDigit (r : List Char) : Option String :=
    match r with
    | d :: _ => if digitsAreErrors && d.isDigit then
        some ("invalid digit '" ++ String.singleton d ++ "' in " ++ name ++ " literal")
        else none
    | [] => none
  match radixRun ok true start with
  | .error r => .error ((badDigit r).getD ("invalid " ++ name ++ " literal"))
  | .ok r =>
    match badDigit r with
    | some m => .error m
    | none => (numberEnd name r).map fun _ => r

/-- Reads single underscores and zeros after a leading zero; `none` when an underscore is not
followed by a digit. -/
def zeroRun : List Char → Option (List Char)
  | '_' :: d :: r => if d.isDigit then (if d = '0' then zeroRun r else some (d :: r)) else none
  | ['_'] => none
  | '0' :: r => zeroRun r
  | r => some r

/-- Reads the imaginary mark, if any, after the digits of a number of kind `kind`. -/
def imaginaryPart (kind : NumberKind) : List Char → Except String (NumberKind × List Char)
  | c :: r =>
    if c = 'j' || c = 'J' then (numberEnd "imaginary" r).map fun _ => (.imaginary, r)
    else (numberEnd "decimal" (c :: r)).map fun _ => (kind, c :: r)
  | [] => .ok (kind, [])

/-- Reads an exponent, if any, then the imaginary mark. -/
def exponentPart (kind : NumberKind) : List Char → Except String (NumberKind × List Char)
  | e :: r =>
    if e = 'e' || e = 'E' then
      match r with
      | s :: d :: r' =>
        if s = '+' || s = '-' then
          if d.isDigit then
            match decimalTail r' with
            | some r'' => imaginaryPart .fraction r''
            | none => .error "invalid decimal literal"
          else .error "invalid decimal literal"
        else if s.isDigit then
          match decimalTail (d :: r') with
          | some r'' => imaginaryPart .fraction r''
          | none => .error "invalid decimal literal"
        else (numberEnd "decimal" (e :: r)).map fun _ => (kind, e :: r)
      | [s] =>
        if s = '+' || s = '-' then .error "invalid decimal literal"
        else if s.isDigit then imaginaryPart .fraction []
        else (numberEnd "decimal" (e :: r)).map fun _ => (kind, e :: r)
      | [] => (numberEnd "decimal" (e :: r)).map fun _ => (kind, e :: r)
    else imaginaryPart kind (e :: r)
  | [] => .ok (kind, [])

/-- Reads the fraction of a number, from just after its point. -/
def fractionPart (cs : List Char) : Except String (NumberKind × List Char) :=
  match cs with
  | d :: r =>
    if d.isDigit then
      match decimalTail r with
      | some r' => exponentPart .fraction r'
      | none => .error "invalid decimal literal"
    else exponentPart .fraction cs
  | [] => .ok (.fraction, [])

/-- Reads what follows the whole digits of a decimal number. -/
def afterWhole (cs : List Char) : Except String (NumberKind × List Char) :=
  match cs with
  | '.' :: r => fractionPart r
  | _ => exponentPart .whole cs

/-- Reads a number from its first digit, giving its kind and the text after it. -/
def number (first : Char) (cs : List Char) : Except String (NumberKind × List Char) :=
  if first = '0' then
    match cs with
    | x :: r =>
      if x = 'x' || x = 'X' then (radixNumber isHex "hexadecimal" false r).map (.whole, ·)
      else if x = 'o' || x = 'O' then
        (radixNumber (fun c => '0' ≤ c && c ≤ '7') "octal" true r).map (.whole, ·)
      else if x = 'b' || x = 'B' then
        (radixNumber (fun c => c = '0' || c = '1') "binary" true r).map (.whole, ·)
      else
        match zeroRun cs with
        | none => .error "invalid decimal literal"
        | some r =>
          let (nonzero, tail) := match r with
            | d :: r' => if d.isDigit then (true, decimalTail r') else (false, some r)
            | [] => (false, some r)
          match tail with
          | none => .error "invalid decimal literal"
          | some r =>
            match r with
            | c :: _ =>
              if c = '.' || c = 'e' || c = 'E' || c = 'j' || c = 'J' then afterWhole r
              else if nonzero then .error ("leading zeros in decimal integer literals are not " ++
                "permitted; use an 0o prefix for octal integers")
              else (numberEnd "decimal" r).map fun _ => (.whole, r)
            | [] =>
              if nonzero then .error ("leading zeros in decimal integer literals are not " ++
                "permitted; use an 0o prefix for octal integers")
              else .ok (.whole, [])
    | [] => .ok (.whole, [])
  else
    match decimalTail cs with
    | none => .error "invalid decimal literal"
    | some r => afterWhole r

/-- The prefix letters of a string and the text from its opening quote, when the letters at the
front of `cs` are a valid prefix followed by a quote: at most one of `b`, `u`, `f`, with `r`
beside `b` or `f`, in any order and case. -/
def stringStart (cs : List Char) : Option (String × List Char) :=
  let rec go (seenB seenR seenU seenF : Bool) : List Char → List Char → Option (String × List Char)
    | c :: rest, acc =>
      let l := c.toLower
      let accepted :=
        (l = 'b' && !(seenB || seenU || seenF)) || (l = 'u' && !(seenB || seenU || seenR || seenF))
          || (l = 'r' && !(seenR || seenU)) || (l = 'f' && !(seenF || seenB || seenU))
      if !accepted then none
      else
        match rest with
        | q :: _ =>
          if q = '\'' || q = '"' then some (String.ofList (l :: acc).reverse, rest)
          else go (seenB || l = 'b') (seenR || l = 'r') (seenU || l = 'u') (seenF || l = 'f')
            rest (l :: acc)
        | [] => none
    | [], _ => none
  go false false false false cs []

/-- What ends the body of a string: the text after the closing quotes and the lines the body
spans, or the fault of a string left open (with the line where the text ran out). -/
def stringBody (q : Char) (triple : Bool) (line : Nat) :
    List Char → List Char → Nat → Except (String × Nat) (List Char × List Char × Nat)
  | [], _, _ =>
    .error ((if triple then "unterminated triple-quoted string literal"
      else "unterminated string literal"), line)
  | c :: rest, acc, quotes =>
    if c = '\n' && !triple then .error ("unterminated string literal", line)
    else if c = q then
      if !triple || quotes + 1 = 3 then .ok ((acc.drop quotes).reverse, rest, line)
      else stringBody q triple line rest (c :: acc) (quotes + 1)
    else if c = '\\' then
      match rest with
      | d :: rest' =>
        stringBody q triple (if d = '\n' then line + 1 else line) rest' (d :: c :: acc) 0
      | [] => stringBody q triple line [] (c :: acc) 0
    else stringBody q triple (if c = '\n' then line + 1 else line) rest (c :: acc) 0

/-- The operators of three characters. -/
def threeCharOps : List String := ["**=", "...", "//=", "<<=", ">>="]

/-- The operators of two characters. -/
def twoCharOps : List String :=
  ["!=", "%=", "&=", "**", "*=", "+=", "-=", "->", "//", "/=", ":=", "<<", "<=", "<>", "==",
    ">=", ">>", "@=", "^=", "|="]

/-- The most brackets that may be open at once. -/
def maxLevel : Nat := 200

/-- The state of a scan: the text left, the current line, the open brackets (innermost first,
with their lines), whether a line has just begun, the indentation levels, and the tokens so
far. -/
structure Scanner where
  rest : List Char
  line : Nat := 1
  brackets : List (Char × Nat) := []
  lineStart : Bool := true
  indents : List Nat := [0]
  out : Array Lexeme := #[]

namespace Scanner

/-- Adds a token. -/
def emit (s : Scanner) (t : Tok) : Scanner :=
  { s with out := s.out.push ⟨t, s.line, s.brackets.length⟩ }

/-- The tokens, ended by a fault. -/
def stop (s : Scanner) (message : String) (hard : Bool) : Array Lexeme :=
  (s.emit (.fault ⟨message, hard, s.brackets.head?⟩)).out

/-- The tokens, ended by a soft fault at the end of the text: a bracket left open, or a line
continued past the end. -/
def stopAtEnd (s : Scanner) : Array Lexeme :=
  match s.brackets with
  | (b, _) :: _ => s.stop ("'" ++ String.singleton b ++ "' was never closed") false
  | [] => s.stop "unexpected EOF while parsing" false

end Scanner

/-- The column that blanks at the start of a line reach, and the text after them: tabs go to
the next multiple of eight, a form feed back to zero. -/
def indentation : List Char → Nat → Nat × List Char
  | ' ' :: r, col => indentation r (col + 1)
  | '\t' :: r, col => indentation r ((col / 8 + 1) * 8)
  | '\x0c' :: r, _ => indentation r 0
  | r, col => (col, r)

/-- Drops the indentation levels deeper than `col`, counting them; `none` when `col` is not
one of the levels left. -/
def dedentTo (col : Nat) : List Nat → Nat → Option (List Nat × Nat)
  | [], n => some ([], n)
  | top :: rest, n =>
    if col < top then dedentTo col rest (n + 1)
    else if col = top then some (top :: rest, n)
    else none

/-- Scans a string from its opening quote `q`: the scanner past it, or the tokens ended by its
fault. -/
def stringToken (s : Scanner) (pre : String) (q : Char) (cs : List Char) :
    Except (Array Lexeme) Scanner :=
  let (triple, body) := match cs with
    | a :: b :: r => if a = q && b = q then (true, r) else (false, cs)
    | _ => (false, cs)
  match stringBody q triple s.line body [] 0 with
  | .error (m, seen) => .error (s.stop (m ++ " (detected at line " ++ toString seen ++ ")") true)
  | .ok (text, after, line) => .ok { s.emit (.string pre text) with rest := after, line }

/-- The scanner past a number, or the tokens ended by its fault. -/
def numberToken (s : Scanner) (read : Except String (NumberKind × List Char)) :
    Except (Array Lexeme) Scanner :=
  match read with
  | .error m => .error (s.stop m true)
  | .ok (kind, after) => .ok { s.emit (.number kind) with rest := after }

/-- The scanner with the indentation of a new line read: indent and dedent tokens outside
brackets, and whether the line is blank (only blanks and a comment); or the tokens ended by an
indentation that matches no outer level. -/
def lineStart (s : Scanner) : Except (Array Lexeme) (Scanner × Bool) :=
  if !s.lineStart then .ok (s, false)
  else
    let (col, r) := indentation s.rest 0
    let s := { s with rest := r, lineStart := false }
    let blank := match r with
      | '#' :: _ => true
      | '\n' :: _ => true
      | _ => false
    if blank || !s.brackets.isEmpty then .ok (s, blank)
    else
      let top := s.indents.headD 0
      if col = top then .ok (s, false)
      else if col > top then .ok ({ s.emit .indent with indents := col :: s.indents }, false)
      else
        match dedentTo col s.indents 0 with
        | some (levels, n) =>
          .ok ((List.replicate n ()).foldl (fun s _ => s.emit .dedent)
            { s with indents := levels }, false)
        | none => .error (s.stop "unindent does not match any outer indentation level" false)

/-- One step of the scan: the scanner past the next token, or the finished tokens. -/
def step (s : Scanner) : Except (Array Lexeme) Scanner := do
  let (s, blank) ← lineStart s
  let r := s.rest.dropWhile fun c => c = ' ' || c = '\t' || c = '\x0c'
  let r := match r with
    | '#' :: _ => r.dropWhile (· != '\n')
    | _ => r
  let s := { s with rest := r }
  match r with
  | [] => .error (if s.brackets.isEmpty then (s.emit .endMarker).out else s.stopAtEnd)
  | c :: cs =>
    if c = '\n' then
      let s := if blank || !s.brackets.isEmpty then s else s.emit .newline
      .ok { s with rest := cs, line := s.line + 1, lineStart := true }
    else if isNameStart c then
      match stringStart r with
      | some (pre, q :: body) => stringToken s pre q body
      | _ =>
        let word := r.takeWhile isNameChar
        match nameFault word with
        | some m => .error (s.stop m true)
        | none => .ok { s.emit (.name (String.ofList word)) with rest := r.drop word.length }
    else if c = '\'' || c = '"' then stringToken s "" c cs
    else if c = '.' then
      match cs with
      | d :: _ =>
        if d.isDigit then numberToken s (fractionPart cs)
        else if cs.take 2 == ['.', '.'] then .ok { s.emit (.op "...") with rest := cs.drop 2 }
        else .ok { s.emit (.op ".") with rest := cs }
      | [] => .ok { s.emit (.op ".") with rest := cs }
    else if c.isDigit then numberToken s (number c cs)
    else if c = '\\' then
      match cs with
      | '\n' :: after =>
        let s := { s with line := s.line + 1 }
        if after.isEmpty then .error s.stopAtEnd else .ok { s with rest := after }
      | _ => .error (s.stop "unexpected character after line continuation character" false)
    else
      let three := String.ofList (r.take 3)
      let two := String.ofList (r.take 2)
      if threeCharOps.contains three then .ok { s.emit (.op three) with rest := r.drop 3 }
      else if twoCharOps.contains two then .ok { s.emit (.op two) with rest := r.drop 2 }
      else if c = '(' || c = '[' || c = '\x7b' then
        if s.brackets.length ≥ maxLevel then .error (s.stop "too many nested parentheses" true)
        else
          let s := { s with brackets := (c, s.line) :: s.brackets }
          .ok { s.emit (.op (String.singleton c)) with rest := cs }
      else if c = ')' || c = ']' || c = '\x7d' then
        match s.brackets with
        | [] => .error (s.stop ("unmatched '" ++ String.singleton c ++ "'") true)
        | (b, bline) :: outer =>
          let fits :=
            (b = '(' && c = ')') || (b = '[' && c = ']') || (b = '\x7b' && c = '\x7d')
          if fits then
            let s := { s with brackets := outer }
            .ok { s.emit (.op (String.singleton c)) with rest := cs }
          else
            let text := "closing parenthesis '" ++ String.singleton c ++
              "' does not match opening parenthesis '" ++ String.singleton b ++ "'"
            .error (s.stop (if bline = s.line then text else text ++ " on line " ++ toString bline)
              true)
      else if !Text.isPrintable c then
        .error (s.stop ("invalid non-printable character U+" ++ codeText c.toNat) true)
      else .ok { s.emit (.op (String.singleton c)) with rest := cs }

/-- Scans the tokens of a text, at most `fuel` steps; each step reads at least one character. -/
def scanFrom : Nat → Scanner → Array Lexeme
  | 0, s => s.stop "unexpected EOF while parsing" false
  | fuel + 1, s =>
    match step s with
    | .error out => out
    | .ok s => scanFrom fuel s

/-- Line breaks as the scan sees them: a carriage return, alone or before a line feed, is one
line feed. -/
def unifyBreaks : List Char → List Char
  | '\r' :: '\n' :: r => '\n' :: unifyBreaks r
  | '\r' :: r => '\n' :: unifyBreaks r
  | c :: r => c :: unifyBreaks r
  | [] => []

/-- The tokens of a text, ended by the end marker or by the first fault. Carriage returns count
as line breaks. -/
def tokenize (text : String) : Array Lexeme :=
  let cs := unifyBreaks text.toList
  scanFrom (cs.length + 2) { rest := cs }

end Literal
end EngineFit
