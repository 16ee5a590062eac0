import EngineFit.Text.Digit
import EngineFit.Text.Blank

/-!
# Integer literals

An integer literal is optional blanks, an optional sign, digits, optional blanks. Digits may be
of any script (each decimal digit counts as its value) and may be grouped by single
underscores between digits. A radix is either fixed (two to sixteen, where two, eight and
sixteen also take their prefix `0b`, `0o`, `0x`), or read from a prefix: `0x`, `0o`, `0b`,
else ten, where a decimal literal may not start with `0` unless its value is zero. One
underscore may follow a prefix.

In a radix that is not a power of two, at most `digitLimit` digits are read, and at most as
many written.
-/

namespace EngineFit
namespace Number

/-- How the radix of an integer literal is chosen. -/
inductive Radix where
  | fixed (base : Nat)
  | fromPrefix
deriving DecidableEq, Repr

/-- Radix ten. -/
def Radix.ten : Radix := .fixed 10

/-- Radix sixteen. -/
def Radix.sixteen : Radix := .fixed 16

/-- The number this radix is named by in messages (`0` when it comes from a prefix). -/
def Radix.number : Radix → Nat
  | .fixed b => b
  | .fromPrefix => 0

/-- A character as the literal reader sees it: blanks become a space, decimal digits of any
script their ASCII digit, other characters outside ASCII a `?` that no rule accepts. -/
def normalizeChar (c : Char) : Char :=
  if Text.isBlank c then ' '
  else match Text.digitValue? c with
    | some d => Char.ofNat ('0'.toNat + d)
    | none => if c.toNat < 128 then c else '?'

/-- Value of `c` as a digit below `base`. -/
def digitIn (base : Nat) (c : Char) : Option Nat :=
  match Text.hexDigit? c with
  | some d => if d < base then some d else none
  | none => none

/-- Reads digits in `base` with single underscores between digits; `acc` is the value so far
and `afterDigit` tells whether an underscore may come next. Needs at least one digit. -/
def readDigits (base : Nat) : List Char → Nat → Bool → Option Nat
  | [], acc, afterDigit => if afterDigit then some acc else none
  | '_' :: c :: rest, acc, true =>
    match digitIn base c with
    | some d => readDigits base rest (acc * base + d) true
    | none => none
  | c :: rest, acc, _ =>
    match digitIn base c with
    | some d => readDigits base rest (acc * base + d) true
    | none => none

/-- Splits a radix prefix `0x`, `0o`, `0b` (either case) off the digits. -/
def prefixBase : List Char → Option (Nat × List Char)
  | '0' :: x :: rest =>
    if x = 'x' ∨ x = 'X' then some (16, rest)
    else if x = 'o' ∨ x = 'O' then some (8, rest)
    else if x = 'b' ∨ x = 'B' then some (2, rest)
    else none
  | _ => none

/-- Reads the digits after an optional prefix: one underscore may follow the prefix. -/
def readAfterPrefix (base : Nat) : List Char → Option Nat
  | '_' :: rest => readDigits base rest 0 false
  | cs => readDigits base cs 0 false

/-- Reads the unsigned part of a literal in the given radix. -/
def readMagnitude (radix : Radix) (cs : List Char) : Option Nat :=
  match radix with
  | .fixed b =>
    match prefixBase cs with
    | some (p, rest) => if p = b then readAfterPrefix b rest else readDigits b cs 0 false
    | none => readDigits b cs 0 false
  | .fromPrefix =>
    match prefixBase cs with
    | some (b, rest) => readAfterPrefix b rest
    | none =>
      match cs with
      | '0' :: _ =>
        match readDigits 10 cs 0 false with
        | some 0 => some 0
        | _ => none
      | _ => readDigits 10 cs 0 false

/-- Drops spaces at both ends of a normalized literal. -/
def trimSpaces (cs : List Char) : List Char :=
  ((cs.dropWhile (· == ' ')).reverse.dropWhile (· == ' ')).reverse

/-- The most decimal digits an integer is read from or written with. Reading and writing in a
radix that is not a power of two takes time that grows faster than the number of digits, so
longer conversions are refused. -/
def digitLimit : Nat := 4300

/-- A decimal conversion refused for its length: reading a text with more than `digitLimit`
digits (their count), or writing a number that would need more. -/
inductive DigitLimit where
  | reading (count : Nat)
  | writing
deriving DecidableEq, Repr

/-- The wording of a refused conversion. -/
def DigitLimit.message : DigitLimit → String
  | .reading n => "Exceeds the limit (4300 digits) for integer string conversion: value has " ++
    toString n ++ " digits; use sys.set_int_max_str_digits() to increase the limit"
  | .writing =>
    "Exceeds the limit (4300 digits) for integer string conversion; use " ++
      "sys.set_int_max_str_digits() to increase the limit"

/-- The decimal digits of an integer with its sign, unless it has more than `digitLimit`
digits. -/
def decimalText (n : Int) : Except DigitLimit String :=
  if n.natAbs < Nat.pow 10 digitLimit then .ok (toString n) else .error .writing

/-- Refuses a run of `count` decimal digits that is too long to read. -/
def checkDigitCount (count : Nat) : Except DigitLimit Unit :=
  if count > digitLimit then .error (.reading count) else .ok ()

/-- The number of digits in the run of ASCII digits and underscores that `cs` starts with;
`none` when the run has two underscores in a row or ends with one, which makes the literal
invalid before its length is looked at. `prev` is the character before `cs`. -/
def decimalRun : List Char → Char → Nat → Option Nat
  | [], prev, n => if prev = '_' then none else some n
  | c :: rest, prev, n =>
    if '0' ≤ c ∧ c ≤ '9' then decimalRun rest c (n + 1)
    else if c = '_' then (if prev = '_' then none else decimalRun rest '_' n)
    else if prev = '_' then none else some n

/-- Whether the digits after the sign are read in a radix that is not a power of two, whose
length is limited. -/
def limitedRadix (radix : Radix) (cs : List Char) : Bool :=
  match radix with
  | .fixed b => b &&& (b - 1) != 0
  | .fromPrefix => (prefixBase cs).isNone

/-- Why an integer literal was not read. -/
inductive IntError where
  /-- The text is no literal of the radix. -/
  | invalid
  /-- The literal is too long to read. -/
  | tooLong (e : DigitLimit)
deriving DecidableEq, Repr

/-- The integer a literal denotes. The length of the leading run of digits is checked first,
in a radix whose length is limited: a run that is too long is refused even when the text is
no literal after it. -/
def readInt (radix : Radix) (s : String) : Except IntError Int :=
  let cs := trimSpaces (s.toList.map normalizeChar)
  let (negative, body) := match cs with
    | '-' :: rest => (true, rest)
    | '+' :: rest => (false, rest)
    | _ => (false, cs)
  let count := if limitedRadix radix body && body.head? != some '_' then decimalRun body ' ' 0
    else none
  match count.map checkDigitCount with
  | some (.error e) => .error (.tooLong e)
  | _ =>
    match readMagnitude radix body with
    | some n => .ok (if negative then -(n : Int) else n)
    | none => .error .invalid

/-- The integer a literal denotes, or `none` when it is none or too long to read. -/
def readInt? (radix : Radix) (s : String) : Option Int :=
  (readInt radix s).toOption

end Number
end EngineFit
