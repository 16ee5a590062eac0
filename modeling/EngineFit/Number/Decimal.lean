import EngineFit.Number.Integer

/-!
# Decimal literals of doubles

A decimal literal is optional blanks, an optional sign, then a number, then optional blanks.
The number is either a word, `inf`, `infinity` or `nan` in any mix of cases, or digits with
an optional point and an optional exponent: `12`, `12.`, `.5`, `1.5e-3`. Digits may be of any
script, and a single underscore may stand between two digits. The value is the double nearest
to the decimal number (`decimalToFloat`), so a literal too large for a double is infinite and
one too small is zero.
-/

namespace EngineFit
namespace Number

/-- The double nearest to `digits * 10^exp`, with a quick answer far outside the range of
doubles: a number of more than 310 digits before the point is infinite, and one that starts
330 places after the point is zero. -/
def decimalToFloat (digits : Nat) (exp : Int) : Float :=
  if digits = 0 then 0.0
  else
    let len := (toString digits).length
    if exp + len > 310 then Float.ofScientific 1 false 400
    else if exp + len < -330 then 0.0
    else if exp ≥ 0 then Float.ofScientific digits false exp.toNat
    else Float.ofScientific digits true (-exp).toNat

/-- Whether a (normalized) character is an ASCII digit. -/
def isAsciiDigit (c : Char) : Bool := '0' ≤ c && c ≤ '9'

/-- The digits that continue a run: a digit, or an underscore followed by a digit. Returns the
digits read, without underscores, and the rest. -/
def digitRunTail : List Char → List Char × List Char
  | '_' :: c :: rest =>
    if isAsciiDigit c then
      let (ds, r) := digitRunTail rest
      (c :: ds, r)
    else ([], '_' :: c :: rest)
  | c :: rest =>
    if isAsciiDigit c then
      let (ds, r) := digitRunTail rest
      (c :: ds, r)
    else ([], c :: rest)
  | [] => ([], [])

/-- A run of digits with single underscores between digits; empty when the text does not
start with a digit. -/
def digitRun : List Char → List Char × List Char
  | c :: rest =>
    if isAsciiDigit c then
      let (ds, r) := digitRunTail rest
      (c :: ds, r)
    else ([], c :: rest)
  | [] => ([], [])

/-- The value of ASCII digits. -/
def digitsNat (ds : List Char) : Nat :=
  ds.foldl (fun n c => n * 10 + (c.toNat - '0'.toNat)) 0

/-- Reads an exponent after its letter: an optional sign and a run of digits. -/
def exponentOf (cs : List Char) : Option Int :=
  let (negative, body) := match cs with
    | '-' :: r => (true, r)
    | '+' :: r => (false, r)
    | r => (false, r)
  match digitRun body with
  | ([], _) => none
  | (ds, []) => some (if negative then -(digitsNat ds : Int) else digitsNat ds)
  | _ => none

/-- Reads an unsigned number: digits, a point and digits (one side may be empty, not both),
and an optional exponent; nothing may follow. -/
def unsignedDecimal (cs : List Char) : Option Float :=
  let (whole, r1) := digitRun cs
  let (frac, r2) := match r1 with
    | '.' :: r => digitRun r
    | r => ([], r)
  if whole.isEmpty && frac.isEmpty then none
  else
    let exp : Option Int := match r2 with
      | [] => some 0
      | e :: r => if e = 'e' || e = 'E' then exponentOf r else none
    exp.map fun e => decimalToFloat (digitsNat (whole ++ frac)) (e - frac.length)

/-- Reads an unsigned word for infinity or not-a-number, in any case. -/
def specialFloat (cs : List Char) : Option Float :=
  let w := String.ofList (cs.map Char.toLower)
  if w = "inf" || w = "infinity" then some (Float.ofScientific 1 false 400)
  else if w = "nan" then some (0.0 / 0.0)
  else none

/-- The double a decimal literal denotes, or `none` when the text is no decimal literal. -/
def readFloat (s : String) : Option Float :=
  let cs := trimSpaces (s.toList.map normalizeChar)
  let (negative, body) := match cs with
    | '-' :: r => (true, r)
    | '+' :: r => (false, r)
    | r => (false, r)
  let x := match specialFloat body with
    | some x => some x
    | none => unsignedDecimal body
  x.map fun x => if negative then -x else x

end Number
end EngineFit
