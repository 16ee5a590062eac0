import EngineFit.Value.Basic
import EngineFit.Text.Surrogate
import EngineFit.Number.Notation
import EngineFit.Text.Printable
import EngineFit.Number.Integer

/-!
# Values written in messages

Messages show a value in one of two forms. The *literal* form quotes texts and spells every
value so that its kind can be told (`'4G'`, `True`, `None`, `[1, 'a']`, `{'k': 1}`,
`datetime.date(2020, 1, 1)`); the *plain* form differs only for texts, which stand bare, and for
dates and timestamps, which take their calendar spelling (`2020-01-01`).

A collection that contains itself shows as `[...]` (or `{...}`) where it meets itself
again. A byte string is written `b'...'`, a tuple `(a, b)` (`(a,)` with one item), a set
`{a, b}` or `set()`.

A quoted text uses single quotes, or double quotes when it holds a single quote and no double
quote. Inside, the chosen quote and the backslash take a backslash; tab, line feed and carriage
return are written `\t`, `\n`, `\r`; other control characters and unprintable characters are
written by their code: `\xNN` up to `ff`, `\uNNNN` up to `ffff`, `\UNNNNNNNN` beyond, a lone
surrogate too. Quoting works on the code points that the text holds (`Text.codes`).
-/

namespace EngineFit
namespace Value

/-- Lower-case hexadecimal digits of `n`, at least `width` of them. -/
def hexDigits (width n : Nat) : String :=
  let s := String.ofList (Nat.toDigits 16 n)
  String.ofList (List.replicate (width - s.length) '0') ++ s

/-- One code point inside a quoted text delimited by `q`. -/
def quoteCode (q : Char) (n : Nat) : String :=
  if n = q.toNat ∨ n = 92 then "\\" ++ String.singleton (Char.ofNat n)
  else if n = 9 then "\\t"
  else if n = 10 then "\\n"
  else if n = 13 then "\\r"
  else if n < 0x20 ∨ n = 0x7f then "\\x" ++ hexDigits 2 n
  else if n < 0x7f then String.singleton (Char.ofNat n)
  else if Text.isSurrogateCode n then "\\u" ++ hexDigits 4 n
  else if Text.isPrintable (Char.ofNat n) then String.ofList (Text.spell n)
  else if n ≤ 0xff then "\\x" ++ hexDigits 2 n
  else if n ≤ 0xffff then "\\u" ++ hexDigits 4 n
  else "\\U" ++ hexDigits 8 n

/-- A text in quotes, escaped as described above. -/
def quote (s : String) : String :=
  let q := if s.contains '\'' && !s.contains '"' then '"' else '\''
  let body := (Text.codes s).foldl (fun acc n => acc ++ quoteCode q n) ""
  String.singleton q ++ body ++ String.singleton q

/-- A quoted text cut to its first 200 characters, as messages about a rejected literal show
it. -/
def shortQuote (s : String) : String :=
  String.ofList ((quote s).toList.take 200)

/-- The text of a double: shortest digits, positional between `0.0001` and `1e16`. -/
def floatText (x : Float) : String :=
  Number.Notation.standard.render x

/-- Decimal digits of a natural, at least `width` of them. -/
def padded (width n : Nat) : String :=
  Number.padNat width n

/-- A date in calendar spelling, `YYYY-MM-DD`. -/
def dateText (d : Date) : String :=
  padded 4 d.year ++ "-" ++ padded 2 d.month ++ "-" ++ padded 2 d.day

/-- An offset from UTC as `+HH:MM`, with `:SS` when the seconds are not zero. -/
def offsetText (o : Int) : String :=
  let sign := if o < 0 then "-" else "+"
  let a := o.natAbs
  let hm := padded 2 (a / 3600) ++ ":" ++ padded 2 (a % 3600 / 60)
  sign ++ hm ++ (if a % 60 = 0 then "" else ":" ++ padded 2 (a % 60))

/-- A timestamp in calendar spelling, `YYYY-MM-DD HH:MM:SS[.ffffff][+HH:MM]`. -/
def stampText (t : Stamp) : String :=
  dateText t.date ++ " " ++ padded 2 t.hour ++ ":" ++ padded 2 t.minute ++ ":" ++
    padded 2 t.second ++ (if t.micro = 0 then "" else "." ++ padded 6 t.micro) ++
    (match t.offset with
     | some o => offsetText o
     | none => "")

/-- A signed offset as a span of days and seconds, in the calendar library's spelling. -/
def spanLiteral (o : Int) : String :=
  let days := o / 86400
  let secs := o % 86400
  let parts :=
    (if days ≠ 0 then ["days=" ++ toString days] else []) ++
    (if secs ≠ 0 then ["seconds=" ++ toString secs] else [])
  "datetime.timedelta(" ++ (if parts.isEmpty then "0" else ", ".intercalate parts) ++ ")"

/-- The zone of a timestamp in the calendar library's spelling. -/
def zoneLiteral (o : Int) : String :=
  if o = 0 then "datetime.timezone.utc"
  else "datetime.timezone(" ++ spanLiteral o ++ ")"

/-- A date as the calendar library spells its constructor. -/
def dateLiteral (d : Date) : String :=
  "datetime.date(" ++ toString d.year ++ ", " ++ toString d.month ++ ", " ++
    toString d.day ++ ")"

/-- A timestamp as the calendar library spells its constructor: trailing zero seconds and
microseconds are left out. -/
def stampLiteral (t : Stamp) : String :=
  let fields := [t.date.year, t.date.month, t.date.day, t.hour, t.minute]
  let fields :=
    if t.micro ≠ 0 then fields ++ [t.second, t.micro]
    else if t.second ≠ 0 then fields ++ [t.second]
    else fields
  let zone := match t.offset with
    | some o => ", tzinfo=" ++ zoneLiteral o
    | none => ""
  "datetime.datetime(" ++ ", ".intercalate (fields.map toString) ++ zone ++ ")"

/-- The least magnitude too long to write: the first number of `Number.digitLimit + 1`
digits. -/
def tooLongBound : Nat := Nat.pow 10 Number.digitLimit

/-- One byte inside a quoted byte string delimited by `q`. -/
def quoteByte (q : Char) (b : UInt8) : String :=
  let n := b.toNat
  if n = q.toNat ∨ n = 92 then "\\" ++ String.singleton (Char.ofNat n)
  else if n = 9 then "\\t"
  else if n = 10 then "\\n"
  else if n = 13 then "\\r"
  else if n < 0x20 ∨ n ≥ 0x7f then "\\x" ++ hexDigits 2 n
  else String.singleton (Char.ofNat n)

/-- A byte string in literal form, `b'...'`: single quotes, or double quotes when it holds a
single quote and no double quote; bytes outside printable ASCII are written `\xNN`. -/
def bytesLiteral (bs : List UInt8) : String :=
  let q := if bs.contains 39 && !bs.contains 34 then '"' else '\''
  "b" ++ String.singleton q ++ bs.foldl (fun acc b => acc ++ quoteByte q b) "" ++ String.singleton q

/-- What a collection shows in a place where it is already being written. -/
def placeholder : Value → String
  | .list _ => "[...]"
  | .dict _ => "\x7b...\x7d"
  | .tuple _ => "(...)"
  | .set _ => "set(...)"
  | _ => "..."

mutual
/-- The literal form of a value written inside the anchored collections `active` (each with
its body): such a collection met again inside itself shows as its placeholder. -/
def literalIn (active : List (Nat × Value)) : Value → String
  | .null => "None"
  | .bool b => if b then "True" else "False"
  | .int n => toString n
  | .float x => floatText x
  | .str s => quote s
  | .date d => dateLiteral d
  | .stamp t => stampLiteral t
  | .bytes bs => bytesLiteral bs
  | .tuple [x] => "(" ++ literalIn active x ++ ",)"
  | .tuple xs => "(" ++ literalItems active xs ++ ")"
  | .set [] => "set()"
  | .set xs => "\x7b" ++ literalItems active xs ++ "\x7d"
  | .list xs => "[" ++ literalItems active xs ++ "]"
  | .dict kvs => "\x7b" ++ literalEntries active kvs ++ "\x7d"
  | .anchor id b =>
    match active.find? (·.1 == id) with
    | some (_, body) => placeholder body
    | none => literalIn ((id, b) :: active) b
  | .recur id =>
    match active.find? (·.1 == id) with
    | some (_, body) => placeholder body
    | none => "..."
/-- Literal forms of items, comma-separated. -/
def literalItems (active : List (Nat × Value)) : List Value → String
  | [] => ""
  | [x] => literalIn active x
  | x :: xs => literalIn active x ++ ", " ++ literalItems active xs
/-- Literal forms of mapping entries, `key: value`, comma-separated. -/
def literalEntries (active : List (Nat × Value)) : List (Value × Value) → String
  | [] => ""
  | [(k, v)] => literalIn active k ++ ": " ++ literalIn active v
  | (k, v) :: rest =>
    literalIn active k ++ ": " ++ literalIn active v ++ ", " ++ literalEntries active rest
end

/-- The literal form of a value. -/
def literal (v : Value) : String := literalIn [] v

mutual
/-- Whether every integer within a value has at most `Number.digitLimit` decimal digits, so
that the value's literal and plain forms can be written. -/
def writable : Value → Bool
  | .int n => n.natAbs < tooLongBound
  | .tuple xs | .set xs | .list xs => writableItems xs
  | .dict kvs => writableEntries kvs
  | .anchor _ b => writable b
  | _ => true
/-- Whether every item of a list is writable. -/
def writableItems : List Value → Bool
  | [] => true
  | x :: xs => writable x && writableItems xs
/-- Whether every key and value of a mapping is writable. -/
def writableEntries : List (Value × Value) → Bool
  | [] => true
  | (k, v) :: rest => writable k && writable v && writableEntries rest
end

/-- The plain form of a value: texts bare, dates and timestamps in calendar spelling, all
else literal. -/
def plain : Value → String
  | .str s => s
  | .date d => dateText d
  | .stamp t => stampText t
  | v => literal v

/-- The plain form of a value, unless it holds an integer too long to write. -/
def plainChecked (v : Value) : Except Number.DigitLimit String :=
  if v.writable then .ok v.plain else .error .writing

/-- The literal form of a value, unless it holds an integer too long to write. -/
def literalChecked (v : Value) : Except Number.DigitLimit String :=
  if v.writable then .ok v.literal else .error .writing

end Value
end EngineFit
