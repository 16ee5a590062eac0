import EngineFit.Value.Literal

/-!
# Writing JSON

A document value becomes JSON text in ASCII: code points outside ASCII are written as `\uXXXX`
escapes (two of them, a surrogate pair, above U+FFFF; a lone surrogate as its own code), quotes
and backslashes take a backslash, and control characters take their short escape or `\u00XX`.
Doubles are written with their shortest digits; NaN and the infinities as `NaN`, `Infinity`,
`-Infinity`; a tuple is an array.

Two layouts. The one-line layout, with `, ` and `: ` between items, writes every value: mapping
keys that are not texts as the text of their JSON spelling, dates and timestamps as texts in
calendar spelling, other values JSON lacks (byte strings, sets) as texts in literal form, and a
collection that contains itself once, with null where it meets itself.

The indented layout, one item per line, is written strictly, as the standard encoder writes it
(`emit`): a byte string, date, timestamp or set has no JSON form, a mapping key must be a text,
number, boolean or null, a collection met again inside itself is a circular reference, and an
integer of more decimal digits than `Number.digitLimit` cannot be written. The encoder writes
piece by piece and stops at the first such fault in document order, so a file being written
keeps what came before it; `dump` gives the text only when there is no fault.
-/

namespace EngineFit
namespace Json

/-- One code point inside a JSON string, in ASCII. -/
def escapeCode (n : Nat) : String :=
  if n = 34 then "\\\""
  else if n = 92 then "\\\\"
  else if n = 10 then "\\n"
  else if n = 13 then "\\r"
  else if n = 9 then "\\t"
  else if n = 8 then "\\b"
  else if n = 12 then "\\f"
  else if n < 0x20 then "\\u" ++ Value.hexDigits 4 n
  else if n < 0x7f + 1 then String.singleton (Char.ofNat n)
  else if n ≤ 0xffff then "\\u" ++ Value.hexDigits 4 n
  else
    let m := n - 0x10000
    "\\u" ++ Value.hexDigits 4 (0xD800 + m / 0x400) ++ "\\u" ++ Value.hexDigits 4 (0xDC00 + m % 0x400)

/-- A JSON string literal for a text. -/
def quoteString (s : String) : String :=
  "\"" ++ (Text.codes s).foldl (fun acc n => acc ++ escapeCode n) "" ++ "\""

/-- The JSON text of a double. -/
def floatText (x : Float) : String :=
  Number.Notation.json.render x

/-- The JSON text of a scalar. -/
def scalarText : Value → String
  | .null => "null"
  | .bool b => if b then "true" else "false"
  | .int n => toString n
  | .float x => floatText x
  | .str s => quoteString s
  | .date d => quoteString (Value.dateText d)
  | .stamp t => quoteString (Value.stampText t)
  | .recur _ => "null"
  | v => quoteString v.literal

/-- The key text of a mapping entry: texts as they are, other scalars by their JSON spelling. -/
def keyText : Value → String
  | .str s => quoteString s
  | v => quoteString (match v with
    | .null => "null"
    | .bool b => if b then "true" else "false"
    | .int n => toString n
    | .float x => floatText x
    | other => Value.plain other)

mutual
/-- One-line JSON text. -/
def compact : Value → String
  | .list xs | .tuple xs => "[" ++ compactItems xs ++ "]"
  | .dict kvs => "\x7b" ++ compactEntries kvs ++ "\x7d"
  | .anchor _ b => compact b
  | v => scalarText v
/-- One-line items. -/
def compactItems : List Value → String
  | [] => ""
  | [x] => compact x
  | x :: xs => compact x ++ ", " ++ compactItems xs
/-- One-line entries. -/
def compactEntries : List (Value × Value) → String
  | [] => ""
  | [(k, v)] => keyText k ++ ": " ++ compact v
  | (k, v) :: rest => keyText k ++ ": " ++ compact v ++ ", " ++ compactEntries rest
end

/-- A line break followed by the indentation of `level`. -/
def breakAt (step level : Nat) : String :=
  "\n" ++ String.ofList (List.replicate (step * level) ' ')

/-- Why a document has no strict JSON form. -/
inductive DumpError where
  /-- A value of a kind JSON lacks, by its kind. -/
  | notSerializable (kind : String)
  /-- A mapping key of a kind JSON keys cannot be, by its kind. -/
  | badKey (kind : String)
  /-- A collection that contains itself. -/
  | circular
  /-- An integer too long to write in decimal. -/
  | tooLong
deriving DecidableEq, Repr

/-- The wording of a dump error. -/
def DumpError.message : DumpError → String
  | .notSerializable k => "Object of type " ++ k ++ " is not JSON serializable"
  | .badKey k => "keys must be str, int, float, bool or None, not " ++ k
  | .circular => "Circular reference detected"
  | .tooLong => Number.DigitLimit.writing.message

/-- The decimal text of an integer, unless it is too long to write. -/
def intText (n : Int) : Except DumpError String :=
  if n.natAbs < Value.tooLongBound then .ok (toString n) else .error .tooLong

/-- The text of a scalar, written in one piece; `none` for a value written in pieces
(collections) or refused as a whole (the kinds JSON lacks). -/
def pieceText? : Value → Option (Except DumpError String)
  | .null => some (.ok "null")
  | .bool b => some (.ok (if b then "true" else "false"))
  | .int n => some (intText n)
  | .float x => some (.ok (floatText x))
  | .str s => some (.ok (quoteString s))
  | _ => none

/-- The text a mapping key is written as, before quoting: a text as it is, another scalar by its
JSON spelling; a key of another kind is refused. -/
def keyPiece : Value → Except DumpError String
  | .str s => .ok s
  | .null => .ok "null"
  | .bool b => .ok (if b then "true" else "false")
  | .int n => intText n
  | .float x => .ok (floatText x)
  | k => .error (.badKey k.kindName)

/-- The fault of a value that has no JSON form as a whole. -/
def kindFault : Value → Option DumpError
  | .bytes _ => some (.notSerializable "bytes")
  | .date _ => some (.notSerializable "date")
  | .stamp _ => some (.notSerializable "datetime")
  | .set _ => some (.notSerializable "set")
  | .recur _ => some .circular
  | _ => none

mutual
/-- Writes a document as indented JSON, `step` spaces per level from `level`, the way a
streaming encoder does: piece by piece, stopping at the first fault in document order. The
result is the text written and that fault, if any. A scalar goes out in one piece with the
comma or bracket before it in a list, but after its key in a mapping; a mapping's key is
checked before anything of its entry is written. -/
def emit (step level : Nat) : Value → String × Option DumpError
  | .list [] | .tuple [] => ("[]", none)
  | .dict [] => ("\x7b\x7d", none)
  | .list (x :: xs) | .tuple (x :: xs) =>
    match emitItems step (level + 1) ("[" ++ breakAt step (level + 1)) (x :: xs) with
    | (body, none) => (body ++ breakAt step level ++ "]", none)
    | stopped => stopped
  | .dict (e :: es) =>
    match emitEntries step (level + 1) "" (e :: es) with
    | (body, none) => ("\x7b" ++ breakAt step (level + 1) ++ body ++ breakAt step level ++ "\x7d", none)
    | (body, fault) => ("\x7b" ++ breakAt step (level + 1) ++ body, fault)
  | .anchor _ b => emit step level b
  | v =>
    match pieceText? v with
    | some (.ok t) => (t, none)
    | some (.error e) => ("", some e)
    | none => ("", kindFault v)
/-- Items at `level`, the first written after `lead` and the others after a comma. -/
def emitItems (step level : Nat) (lead : String) : List Value → String × Option DumpError
  | [] => ("", none)
  | x :: xs =>
    let (t, fault) : String × Option DumpError := match pieceText? x with
      | some (.ok s) => (lead ++ s, none)
      | some (.error e) => ("", some e)
      | none => let (s, e) := emit step level x; (lead ++ s, e)
    match fault with
    | some e => (t, some e)
    | none =>
      let (u, e) := emitItems step level ("," ++ breakAt step level) xs
      (t ++ u, e)
/-- Entries at `level`, the first written after `lead` and the others after a comma. -/
def emitEntries (step level : Nat) (lead : String) : List (Value × Value) → String × Option DumpError
  | [] => ("", none)
  | (k, v) :: rest =>
    match keyPiece k with
    | .error e => ("", some e)
    | .ok key =>
      let head := lead ++ quoteString key ++ ": "
      let (t, fault) : String × Option DumpError := match pieceText? v with
        | some (.ok s) => (head ++ s, none)
        | some (.error e) => (head, some e)
        | none => let (s, e) := emit step level v; (head ++ s, e)
      match fault with
      | some e => (t, some e)
      | none =>
        let (u, e) := emitEntries step level ("," ++ breakAt step level) rest
        (t ++ u, e)
end

/-- A document as indented JSON, `indent` spaces per level, or its first fault. -/
def dump (indent : Nat) (v : Value) : Except DumpError String :=
  match emit indent 0 v with
  | (text, none) => .ok text
  | (_, some e) => .error e

end Json
end EngineFit
