import EngineFit.Value.Basic
import EngineFit.Text.Surrogate
import EngineFit.Number.Decimal
import EngineFit.Number.Integer
import EngineFit.Calls

/-!
# Reading JSON

JSON text becomes a document value. Objects keep their keys in order, and a repeated key keeps
its first place and its last value. A number with a fraction or an exponent is a double,
correctly rounded; any other number is an exact integer. The literals `NaN`, `Infinity` and
`-Infinity` are read as the doubles they name. Blanks between tokens are space, tab, line feed
and carriage return.

A text that is no JSON gets the error at the first position where no token can start or
continue, with a fixed wording for each kind of fault; `ReadError.message` adds the line, the
column and the character offset, all counted in code points. The text is read as held
(`Text.codesOf`): escapes add code points by `Text.pushCode`.

Two limits stop the reader even on JSON text: an integer of more than `Number.digitLimit`
digits, and nesting deeper than the call levels left to the reader (`Calls`). Given `room`
levels, the reader spends four on its own calls and one on each array or object it enters, so
the `k`-th nested array or object fails when `k + 4` exceeds `room`.
-/

namespace EngineFit
namespace Json

/-- What went wrong where. -/
inductive Fault where
  | expectingValue
  | expectingPropertyName
  | expectingColon
  | expectingComma
  | unterminatedString
  | invalidControl
  | invalidEscape
  | invalidUnicodeEscape
  | extraData
  | byteOrderMark
  /-- An integer with more digits than are read (`Number.digitLimit`), by their count. -/
  | tooManyDigits (count : Nat)
  /-- An array (`true`) or object nested deeper than the reader has room for. -/
  | tooDeep (array : Bool)
deriving DecidableEq, Repr

/-- Whether a fault is a fault of the syntax. The others are limits of the reader: a number
too long to convert and a nesting too deep to follow. -/
def Fault.isSyntax : Fault → Bool
  | .tooManyDigits _ | .tooDeep _ => false
  | _ => true

/-- The wording of a fault. -/
def Fault.text : Fault → String
  | .expectingValue => "Expecting value"
  | .expectingPropertyName => "Expecting property name enclosed in double quotes"
  | .expectingColon => "Expecting ':' delimiter"
  | .expectingComma => "Expecting ',' delimiter"
  | .unterminatedString => "Unterminated string starting at"
  | .invalidControl => "Invalid control character at"
  | .invalidEscape => "Invalid \\escape"
  | .invalidUnicodeEscape => "Invalid \\uXXXX escape"
  | .extraData => "Extra data"
  | .byteOrderMark => "Unexpected UTF-8 BOM (decode using utf-8-sig)"
  | .tooManyDigits n => (Number.DigitLimit.reading n).message
  | .tooDeep array =>
    "maximum recursion depth exceeded while decoding a JSON " ++
      (if array then "array" else "object") ++ " from a unicode string"

/-- A fault at a character offset of the text. -/
structure ReadError where
  fault : Fault
  pos : Nat
deriving DecidableEq, Repr

/-- The full message: the wording, then for a fault of the syntax `line L column C
(char N)`. -/
def ReadError.message (e : ReadError) (text : String) : String :=
  if !e.fault.isSyntax then e.fault.text else
  let before := Text.codesOf (text.toList.take e.pos)
  let line := before.count 10 + 1
  let lastBreak := (before.reverse.takeWhile (· != 10)).length
  let column := lastBreak + 1
  e.fault.text ++ ": line " ++ toString line ++ " column " ++ toString column ++
    " (char " ++ toString before.length ++ ")"

/-- Whether `c` is a blank between tokens. -/
def isGap (c : Char) : Bool :=
  c = ' ' ∨ c = '\t' ∨ c = '\n' ∨ c = '\r'

/-- The first position at or after `i` that holds no blank. -/
def skipGap (cs : Array Char) (i : Nat) : Nat :=
  if h : i < cs.size then
    if isGap cs[i] then skipGap cs (i + 1) else i
  else i
termination_by cs.size - i

/-- The character at `i`, if any. -/
def at? (cs : Array Char) (i : Nat) : Option Char := cs[i]?

/-- Whether the text at `i` starts with `word`. -/
def hasWord (cs : Array Char) (i : Nat) (word : String) : Bool :=
  (word.toList.zipIdx.all fun (c, k) => at? cs (i + k) == some c)

/-- Whether `c` is an ASCII digit. -/
def isDigit (c : Char) : Bool := '0' ≤ c ∧ c ≤ '9'

/-- The first position at or after `i` that holds no ASCII digit. -/
def skipDigits (cs : Array Char) (i : Nat) : Nat :=
  if h : i < cs.size then
    if isDigit cs[i] then skipDigits cs (i + 1) else i
  else i
termination_by cs.size - i

/-- The value of the ASCII digits of `cs` from `i` to `j`. -/
def digitsValue (cs : Array Char) (i j : Nat) : Nat :=
  ((cs.extract i j).toList).foldl (fun n c => n * 10 + (c.toNat - '0'.toNat)) 0

/-- End of a fraction `.ddd` at `i`, and whether there is one (a point needs a digit). -/
def fractionEnd (cs : Array Char) (i : Nat) : Nat × Bool :=
  match at? cs i, at? cs (i + 1) with
  | some '.', some d => if isDigit d then (skipDigits cs (i + 2), true) else (i, false)
  | _, _ => (i, false)

/-- Position after an optional exponent sign at `i` (a sign needs a character after it). -/
def signEnd (cs : Array Char) (i : Nat) : Nat :=
  match at? cs i, at? cs (i + 1) with
  | some '+', some _ => i + 1
  | some '-', some _ => i + 1
  | _, _ => i

/-- End of an exponent `e±ddd` at `i`, and whether there is one (it needs a digit). -/
def exponentEnd (cs : Array Char) (i : Nat) : Nat × Bool :=
  match at? cs i, at? cs (i + 1) with
  | some e, some _ =>
    if e = 'e' ∨ e = 'E' then
      let afterSign := signEnd cs (i + 1)
      let j := skipDigits cs afterSign
      if afterSign < j then (j, true) else (i, false)
    else (i, false)
  | _, _ => (i, false)

/-- Reads a number at `i`: `-`? integer part, then a fraction and an exponent when complete. -/
def number (cs : Array Char) (i : Nat) : Option (Value × Nat) :=
  let negative := at? cs i == some '-'
  let s := if negative then i + 1 else i
  match at? cs s with
  | some c =>
    if c = '0' ∨ ('1' ≤ c ∧ c ≤ '9') then
      let intEnd := if c = '0' then s + 1 else skipDigits cs (s + 1)
      let (fracEnd, hasFrac) := fractionEnd cs intEnd
      let (expEnd, hasExp) := exponentEnd cs fracEnd
      let whole := digitsValue cs s intEnd
      if !hasFrac && !hasExp then
        some (.int (if negative then -(whole : Int) else whole), intEnd)
      else
        let fracDigits := if hasFrac then fracEnd - (intEnd + 1) else 0
        let frac := if hasFrac then digitsValue cs (intEnd + 1) fracEnd else 0
        let mant := whole * Nat.pow 10 fracDigits + frac
        let e : Int :=
          if hasExp then
            let signPos := fracEnd + 1
            let expNeg := at? cs signPos == some '-'
            let digitStart := if at? cs signPos == some '-' ∨ at? cs signPos == some '+'
              then signPos + 1 else signPos
            let ev := digitsValue cs digitStart expEnd
            if expNeg then -(ev : Int) else ev
          else 0
        let x := Number.decimalToFloat mant (e - fracDigits)
        some (.float (if negative then -x else x), expEnd)
    else none
  | none => none

/-- Value of four hexadecimal digits at `i`. -/
def hex4 (cs : Array Char) (i : Nat) : Option Nat :=
  [0, 1, 2, 3].foldlM (fun acc k => do
    let c ← at? cs (i + k)
    let d ← if '0' ≤ c ∧ c ≤ '9' then some (c.toNat - 48)
      else if 'a' ≤ c ∧ c ≤ 'f' then some (c.toNat - 87)
      else if 'A' ≤ c ∧ c ≤ 'F' then some (c.toNat - 55)
      else none
    pure (acc * 16 + d)) 0

/-- Reads the rest of a string whose opening quote is at `start`; `i` is the next character. -/
def stringBody (cs : Array Char) (start : Nat) (i : Nat) (acc : String) :
    Except ReadError (String × Nat) :=
  if h : i < cs.size then
    let c := cs[i]
    if c = '"' then .ok (acc, i + 1)
    else if c.toNat ≤ 0x1f then .error ⟨.invalidControl, i⟩
    else if c = '\\' then
      match at? cs (i + 1) with
      | none => .error ⟨.unterminatedString, start⟩
      | some 'u' =>
        if i + 6 ≥ cs.size then .error ⟨.invalidUnicodeEscape, i⟩
        else
          match hex4 cs (i + 2) with
          | none => .error ⟨.invalidUnicodeEscape, i⟩
          | some u =>
            -- a high surrogate followed by an escaped low surrogate makes one character
            if 0xD800 ≤ u ∧ u ≤ 0xDBFF ∧ i + 12 < cs.size ∧ at? cs (i + 6) == some '\\'
                ∧ at? cs (i + 7) == some 'u' then
              match hex4 cs (i + 8) with
              | none => .error ⟨.invalidUnicodeEscape, i + 6⟩
              | some l =>
                if 0xDC00 ≤ l ∧ l ≤ 0xDFFF then
                  let code := 0x10000 + (u - 0xD800) * 0x400 + (l - 0xDC00)
                  stringBody cs start (i + 12) (Text.pushCode acc code)
                else stringBody cs start (i + 6) (Text.pushCode acc u)
            else stringBody cs start (i + 6) (Text.pushCode acc u)
      | some e =>
        let decoded : Option Char :=
          if e = '"' then some '"' else if e = '\\' then some '\\' else if e = '/' then some '/'
          else if e = 'b' then some '\x08' else if e = 'f' then some '\x0c'
          else if e = 'n' then some '\n' else if e = 'r' then some '\r'
          else if e = 't' then some '\t' else none
        match decoded with
        | some d => stringBody cs start (i + 2) (acc.push d)
        | none => .error ⟨.invalidEscape, i⟩
    else stringBody cs start (i + 1) (acc.push c)
  else .error ⟨.unterminatedString, start⟩
termination_by cs.size - i

mutual
/-- Reads one value at `i` (no blanks before it), inside `depth` arrays and objects, with `room`
call levels for the whole read. -/
def value (room : Nat) (cs : Array Char) (i depth : Nat) : Nat → Except ReadError (Value × Nat)
  | 0 => .error ⟨.expectingValue, i⟩
  | fuel + 1 =>
    match at? cs i with
    | some '"' => (stringBody cs i (i + 1) "").map fun (s, j) => (.str s, j)
    | some '{' =>
      if depth + 5 > room then .error ⟨.tooDeep false, i⟩ else
      let j := skipGap cs (i + 1)
      if at? cs j == some '}' then .ok (.dict [], j + 1) else members room cs j (depth + 1) [] fuel
    | some '[' =>
      if depth + 5 > room then .error ⟨.tooDeep true, i⟩ else
      let j := skipGap cs (i + 1)
      if at? cs j == some ']' then .ok (.list [], j + 1) else elements room cs j (depth + 1) [] fuel
    | some c =>
      if c = 'n' ∧ hasWord cs i "null" then .ok (.null, i + 4)
      else if c = 't' ∧ hasWord cs i "true" then .ok (.bool true, i + 4)
      else if c = 'f' ∧ hasWord cs i "false" then .ok (.bool false, i + 5)
      else if c = 'N' ∧ hasWord cs i "NaN" then .ok (.float (0.0 / 0.0), i + 3)
      else if c = 'I' ∧ hasWord cs i "Infinity" then .ok (.float (1.0 / 0.0), i + 8)
      else if c = '-' ∧ hasWord cs i "-Infinity" then .ok (.float (-1.0 / 0.0), i + 9)
      else match number cs i with
        | some (.int n, j) =>
          let count := j - i - (if c = '-' then 1 else 0)
          if count > Number.digitLimit then .error ⟨.tooManyDigits count, i⟩ else .ok (.int n, j)
        | some r => .ok r
        | none => .error ⟨.expectingValue, i⟩
    | none => .error ⟨.expectingValue, i⟩
termination_by structural fuel => fuel
/-- Reads the members of an object from `i`, the position of a key. -/
def members (room : Nat) (cs : Array Char) (i depth : Nat) (acc : List (Value × Value)) :
    Nat → Except ReadError (Value × Nat)
  | 0 => .error ⟨.expectingPropertyName, i⟩
  | fuel + 1 =>
    if at? cs i != some '"' then .error ⟨.expectingPropertyName, i⟩
    else
      match stringBody cs i (i + 1) "" with
      | .error e => .error e
      | .ok (key, j) =>
        let j := skipGap cs j
        if at? cs j != some ':' then .error ⟨.expectingColon, j⟩
        else
          let j := skipGap cs (j + 1)
          match value room cs j depth fuel with
          | .error e => .error e
          | .ok (v, k) =>
            let acc := Value.insertEntry acc (.str key) v
            let k := skipGap cs k
            if at? cs k == some '}' then .ok (.dict acc, k + 1)
            else if at? cs k != some ',' then .error ⟨.expectingComma, k⟩
            else members room cs (skipGap cs (k + 1)) depth acc fuel
termination_by structural fuel => fuel
/-- Reads the elements of an array from `i`, the position of an element; `acc` holds the elements
read so far, latest first. -/
def elements (room : Nat) (cs : Array Char) (i depth : Nat) (acc : List Value) :
    Nat → Except ReadError (Value × Nat)
  | 0 => .error ⟨.expectingValue, i⟩
  | fuel + 1 =>
    match value room cs i depth fuel with
    | .error e => .error e
    | .ok (v, k) =>
      let acc := v :: acc
      let k := skipGap cs k
      if at? cs k == some ']' then .ok (.list acc.reverse, k + 1)
      else if at? cs k != some ',' then .error ⟨.expectingComma, k⟩
      else elements room cs (skipGap cs (k + 1)) depth acc fuel
termination_by structural fuel => fuel
end

/-- Reads a whole JSON text, one value between optional blanks, with `room` call levels. -/
def read (room : Nat) (text : String) : Except ReadError Value :=
  let cs := text.toList.toArray
  if at? cs 0 == some '\uFEFF' then .error ⟨.byteOrderMark, 0⟩
  else
    let i := skipGap cs 0
    match value room cs i 0 (2 * cs.size + 2) with
    | .error e => .error e
    | .ok (v, j) =>
      let j := skipGap cs j
      if j < cs.size then .error ⟨.extraData, j⟩ else .ok v

end Json
end EngineFit
