import EngineFit.Yaml.Tag
import EngineFit.Number.Decimal
import EngineFit.Text.Case
import EngineFit.Value.Basic

/-!
# The values of scalars

How the text of a scalar becomes a value of its tag, for the tags of YAML 1.1 that carry numbers,
truth values and dates. These rules also serve explicitly tagged scalars (`!!int abc`), so a
text may fail them; each failure is a `ScalarError`.

* **Booleans**: the lower-cased text is `yes`, `true`, `on` or `no`, `false`, `off`.
* **Integers**: underscores are dropped; after an optional sign, `0` is zero, `0b` starts
  binary digits, `0x` hexadecimal ones, another leading `0` octal ones; parts separated by `:`
  are sexagesimal digits; anything else is decimal. Digits are read by the integer literal rule
  of `Number.readInt`, in the base the form gives.
* **Floats**: underscores are dropped and the text lower-cased; after an optional sign,
  `.inf` and `.nan` are infinity and not-a-number; parts separated by `:` are sexagesimal,
  summed from the last part up in doubles, and more than `sexagesimalParts` of them overflow
  the weight of the first; anything else is a decimal literal
  (`Number.readFloat`).
* **Timestamps**: a date alone is a date; with a time it is a timestamp, with microseconds from
  the first six digits of the fraction, and a zone when one is written. The date must be a day
  of the calendar between years 1 and 9999, the time a time of day, the zone less than a day
  away from UTC.
-/

namespace EngineFit
namespace Yaml

/-- The truth value a word names. -/
def boolOfText (s : String) : Except ScalarError Bool :=
  let w := Text.lower s
  if w = "yes" || w = "true" || w = "on" then .ok true
  else if w = "no" || w = "false" || w = "off" then .ok false
  else .error (.notBoolean w)

/-- Reads an integer literal in a base. -/
def intIn (base : Nat) (cs : List Char) : Except ScalarError Int :=
  let s := String.ofList cs
  match Number.readInt (.fixed base) s with
  | .ok n => .ok n
  | .error .invalid => .error (.notInteger base s)
  | .error (.tooLong e) => .error (.tooLong e)

/-- The integer a YAML 1.1 integer text denotes. -/
def intOfText (s : String) : Except ScalarError Int := do
  let v := s.toList.filter (· != '_')
  match v with
  | [] => throw .emptyNumber
  | c :: _ =>
    let sign : Int := if c = '-' then -1 else 1
    let v := if c = '-' || c = '+' then v.drop 1 else v
    match v with
    | ['0'] => pure 0
    | '0' :: 'b' :: digits => (sign * ·) <$> intIn 2 digits
    | '0' :: 'x' :: digits => (sign * ·) <$> intIn 16 digits
    | '0' :: _ => (sign * ·) <$> intIn 8 v
    | [] => throw .emptyNumber
    | _ =>
      if v.contains ':' then do
        let parts ← ((String.ofList v).splitOn ":").mapM fun p => intIn 10 p.toList
        pure (sign * parts.foldl (fun acc d => acc * 60 + d) 0)
      else (sign * ·) <$> intIn 10 v

/-- The most parts a sexagesimal float may have: the weight of a further part, 60 to the power
174, lies beyond the range of doubles. -/
def sexagesimalParts : Nat := 174

/-- Sums sexagesimal parts in doubles, from the last part up: the last counts once, the one
before it sixty times, and so on. -/
def sexagesimalFloat (parts : List Float) : Float :=
  (parts.reverse.foldl (fun (acc : Float × Nat) d => (acc.1 + d * Float.ofNat acc.2, acc.2 * 60))
    (0.0, 1)).1

/-- Reads a decimal literal. -/
def decimalOf (s : String) : Except ScalarError Float :=
  match Number.readFloat s with
  | some x => .ok x
  | none => .error (.notFloat s)

/-- The double a YAML 1.1 float text denotes. -/
def floatOfText (s : String) : Except ScalarError Float := do
  let v := Text.lower (String.ofList (s.toList.filter (· != '_')))
  match v.toList with
  | [] => throw .emptyNumber
  | c :: rest =>
    let negative := c = '-'
    let body := if c = '-' || c = '+' then String.ofList rest else v
    let signed (x : Float) : Float := if negative then -x else x
    if body = ".inf" then pure (signed (Float.ofScientific 1 false 400))
    else if body = ".nan" then pure (0.0 / 0.0)
    else if body.toList.contains ':' then do
      let parts ← (body.splitOn ":").mapM decimalOf
      if parts.length > sexagesimalParts then throw .floatOverflow
      pure (signed (sexagesimalFloat parts))
    else signed <$> decimalOf body

/-- A day of the calendar, checked: year 1 to 9999, month 1 to 12, day within the month. -/
def dateOf (year month day : Nat) : Except ScalarError Date :=
  if year < 1 || year > 9999 then .error (.yearOutOfRange year)
  else if month < 1 || month > 12 then .error .monthOutOfRange
  else if day < 1 || day > Date.daysIn year month then .error .dayOutOfRange
  else .ok { year, month, day }

/-- An offset from UTC in seconds, checked to be less than a day either way. -/
def offsetOf : Option ZoneText → Except ScalarError (Option Int)
  | none => .ok none
  | some .utc => .ok (some 0)
  | some (.offset negative h m) =>
    let magnitude : Int := h * 3600 + m * 60
    let delta := if negative then -magnitude else magnitude
    if delta ≤ -86400 || delta ≥ 86400 then .error (.offsetOutOfRange delta) else .ok (some delta)

/-- Microseconds from the digits of a fraction of a second: the first six, padded with zeros. -/
def microsOf (fraction : List Char) : Nat :=
  let ds := fraction.take 6
  digitsValue (ds ++ List.replicate (6 - ds.length) '0')

/-- The date or timestamp a YAML 1.1 timestamp text denotes. -/
def stampOfText (s : String) : Except ScalarError Value := do
  let cs := s.toList
  let cs := if cs.getLast? == some '\n' then cs.dropLast else cs
  match DateText.parse cs with
  | none => throw .notTimestamp
  | some d =>
    match d.time with
    | none => .date <$> dateOf d.year d.month d.day
    | some t =>
      let offset ← offsetOf t.zone
      let date ← dateOf d.year d.month d.day
      if t.hour > 23 then throw .hourOutOfRange
      if t.minute > 59 then throw .minuteOutOfRange
      if t.second > 59 then throw .secondOutOfRange
      let stamp : Stamp :=
        { date := date, hour := t.hour, minute := t.minute, second := t.second,
          micro := microsOf t.fraction, offset := offset }
      pure (.stamp stamp)

end Yaml
end EngineFit
