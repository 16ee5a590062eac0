import EngineFit.Yaml.Error

/-!
# Written timestamps

The spelling of a timestamp in YAML 1.1: a date `YYYY-M-D` (month and day of one or two
digits), optionally followed by `T`, `t` or blanks and a time `H:MM:SS` (hour of one or two
digits), an optional fraction of a second after a point, and an optional zone after optional
blanks: `Z`, or a sign, an hour of one or two digits and optionally `:MM`.

`DateText.parse` splits such a text into its written parts; it does not check that the parts
name a real date or time (`2021-02-30` parses).
-/

namespace EngineFit
namespace Yaml

/-- A zone as written: `Z`, or a signed offset in hours and minutes. -/
inductive ZoneText where
  | utc
  | offset (negative : Bool) (hours minutes : Nat)
deriving Repr, DecidableEq

/-- A time of day as written; `fraction` holds the digits after the point. -/
structure TimeText where
  hour : Nat
  minute : Nat
  second : Nat
  fraction : List Char
  zone : Option ZoneText
deriving Repr, DecidableEq

/-- A date, with an optional time, as written. -/
structure DateText where
  year : Nat
  month : Nat
  day : Nat
  time : Option TimeText
deriving Repr, DecidableEq

/-- An ASCII digit. -/
def isDigitChar (c : Char) : Bool := '0' ≤ c && c ≤ '9'

/-- A blank: space or tab. -/
def isBlankChar (c : Char) : Bool := c = ' ' || c = '\t'

/-- The value of ASCII digits. -/
def digitsValue (ds : List Char) : Nat :=
  ds.foldl (fun n d => n * 10 + (d.toNat - 48)) 0

/-- Exactly `n` digits. -/
def takeDigits (n : Nat) (cs : List Char) : Option (Nat × List Char) :=
  let ds := cs.take n
  if ds.length = n && ds.all isDigitChar then some (digitsValue ds, cs.drop n) else none

/-- One or two digits, two when there are two. -/
def takeOneOrTwo : List Char → Option (Nat × List Char)
  | a :: b :: rest =>
    if isDigitChar a && isDigitChar b then some (digitsValue [a, b], rest)
    else if isDigitChar a then some (digitsValue [a], b :: rest)
    else none
  | [a] => if isDigitChar a then some (digitsValue [a], []) else none
  | [] => none

/-- The character `c`. -/
def expectChar (c : Char) : List Char → Option (List Char)
  | d :: rest => if d = c then some rest else none
  | [] => none

/-- A zone, to the end of the text. -/
def zoneText? : List Char → Option ZoneText
  | ['Z'] => some .utc
  | s :: rest =>
    if s = '-' || s = '+' then do
      let (h, rest) ← takeOneOrTwo rest
      match rest with
      | [] => some (.offset (s = '-') h 0)
      | _ => do
        let rest ← expectChar ':' rest
        let (m, rest) ← takeDigits 2 rest
        if rest.isEmpty then some (.offset (s = '-') h m) else none
    else none
  | [] => none

/-- A time after its separator, to the end of the text. -/
def timeText? (cs : List Char) : Option TimeText := do
  let (hour, r) ← takeOneOrTwo cs
  let r ← expectChar ':' r
  let (minute, r) ← takeDigits 2 r
  let r ← expectChar ':' r
  let (second, r) ← takeDigits 2 r
  let (fraction, r) := match r with
    | '.' :: r => (r.takeWhile isDigitChar, r.dropWhile isDigitChar)
    | r => ([], r)
  if r.isEmpty then some { hour, minute, second, fraction, zone := none }
  else
    let zone ← zoneText? (r.dropWhile isBlankChar)
    some { hour, minute, second, fraction, zone := some zone }

/-- Splits a written timestamp into its parts; `none` when the text is no timestamp. -/
def DateText.parse (cs : List Char) : Option DateText := do
  let (year, r) ← takeDigits 4 cs
  let r ← expectChar '-' r
  let (month, r) ← takeOneOrTwo r
  let r ← expectChar '-' r
  let (day, r) ← takeOneOrTwo r
  match r with
  | [] => some { year, month, day, time := none }
  | c :: rest =>
    let afterSeparator ←
      if c = 'T' || c = 't' then some rest
      else if isBlankChar c then some (rest.dropWhile isBlankChar)
      else none
    let time ← timeText? afterSeparator
    some { year, month, day, time := some time }

end Yaml
end EngineFit
