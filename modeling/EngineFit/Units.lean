import EngineFit.Value.Literal
import EngineFit.Number.Integer
import EngineFit.Number.Fixed
import EngineFit.Text.Case

/-!
# Sizes, hexadecimal identifiers and compute capabilities

Manifests and snapshots write three kinds of quantities:

* a byte size is a natural number, or decimal digits with an optional `M` (mebibytes) or `G`
  (gibibytes) suffix, and one optional line feed at the very end;
* a hexadecimal identifier is a natural number, or hexadecimal digits with an optional `0x`
  prefix, blanks around allowed;
* a compute capability is `major` or `major.minor`, both decimal, blanks around allowed; a
  number stands for its own text.

Digits of a size or a capability may be decimal digits of any script, at most
`Number.digitLimit` of them in a run. Each rule rejects a value with an error that shows the
value in literal form.
-/

namespace EngineFit

/-- A value that is no quantity of the expected kind. -/
inductive UnitError where
  | invalidSize (v : Value)
  | invalidHex (v : Value)
  | invalidCapability (v : Value)
  /-- A number too long to read or to write in decimal. -/
  | digits (e : Number.DigitLimit)
deriving Inhabited

/-- The wording of a unit error. -/
def UnitError.message : UnitError → String
  | .invalidSize v => "invalid size: " ++ v.literal
  | .invalidHex v => "invalid hex value: " ++ v.literal
  | .invalidCapability v => "invalid compute capability: " ++ v.literal
  | .digits e => e.message

/-- The error of a rule that shows the rejected value in literal form: a value that holds an
integer too long to write in decimal cannot be shown, and that is the error instead. -/
def rejected (mk : Value → UnitError) (v : Value) : UnitError :=
  match v.literalChecked with
  | .ok _ => mk v
  | .error e => .digits e

/-- One mebibyte. -/
def mebibyte : Nat := 1024 * 1024

/-- One gibibyte. -/
def gibibyte : Nat := 1024 * 1024 * 1024

/-- Whether `cs` is a nonempty run of decimal digits of any script. -/
def isDecimalRun (cs : List Char) : Bool :=
  !cs.isEmpty && cs.all fun c => (Text.digitValue? c).isSome

/-- The value of a run of decimal digits of any script, unless it is too long to read. -/
def readDecimal (cs : List Char) : Except Number.DigitLimit Nat := do
  Number.checkDigitCount cs.length
  pure (cs.foldl (fun n c => n * 10 + (Text.digitValue? c).getD 0) 0)

/-- The digits and the scale of a size text: digits, then `M`, `G` or nothing, then at most
one final line feed; `none` for a text of another shape. -/
def sizeParts? (s : String) : Option (List Char × Nat) :=
  let cs := s.toList
  let cs := if cs.getLast? == some '\n' then cs.dropLast else cs
  let (cs, scale) :=
    match cs.getLast? with
    | some 'M' => (cs.dropLast, mebibyte)
    | some 'G' => (cs.dropLast, gibibyte)
    | _ => (cs, 1)
  if isDecimalRun cs then some (cs, scale) else none

/-- A byte size: a natural number (not a boolean), or a size text whose digits are not too
many to read. -/
def parseSize (v : Value) : Except UnitError Nat :=
  match v with
  | .int n => if n < 0 then .error (rejected .invalidSize v) else .ok n.toNat
  | .str s =>
    match sizeParts? s with
    | some (ds, scale) =>
      match readDecimal ds with
      | .ok n => .ok (n * scale)
      | .error e => .error (.digits e)
    | none => .error (.invalidSize v)
  | _ => .error (rejected .invalidSize v)

/-- Value of a nonempty run of ASCII hexadecimal digits. -/
def hexValue? (cs : List Char) : Option Nat :=
  Text.hexNat? cs

/-- A hexadecimal identifier: a natural number (not a boolean), or hexadecimal digits with an
optional `0x`/`0X` prefix after blanks are stripped. -/
def parseHex (v : Value) : Except UnitError Nat :=
  match v with
  | .int n => if n < 0 then .error (rejected .invalidHex v) else .ok n.toNat
  | .str s =>
    let cs := (Text.strip s).toList
    let cs := match cs with
      | '0' :: x :: rest => if x = 'x' ∨ x = 'X' then rest else cs
      | _ => cs
    match hexValue? cs with
    | some n => .ok n
    | none => .error (.invalidHex v)
  | _ => .error (rejected .invalidHex v)

/-- A compute capability, compared first by major, then by minor version. -/
structure Capability where
  major : Nat
  minor : Nat
deriving DecidableEq, Repr

/-- Capabilities are ordered lexicographically. -/
def Capability.lt (a b : Capability) : Bool :=
  a.major < b.major || (a.major == b.major && a.minor < b.minor)

/-- Reads `major` or `major.minor` from a text, after stripping blanks; `none` for a text of
another shape, and the refused conversion when a part is too long to read. -/
def capabilityOfText? (s : String) : Option (Except Number.DigitLimit Capability) :=
  let cs := (Text.strip s).toList
  match cs.splitOn '.' with
  | [a] => if isDecimalRun a then some ((readDecimal a).map fun m => ⟨m, 0⟩) else none
  | [a, b] =>
    if isDecimalRun a && isDecimalRun b then
      some (do
        let m ← readDecimal a
        let n ← readDecimal b
        pure ⟨m, n⟩)
    else none
  | _ => none

/-- The text a compute capability is read from: the plain text of any value but a boolean,
unless the value holds an integer too long to write. -/
def capabilityText (v : Value) : Except UnitError String :=
  match v with
  | .bool _ => .error (.invalidCapability v)
  | v =>
    match v.plainChecked with
    | .ok t => .ok t
    | .error e => .error (.digits e)

/-- The capability `text` reads as; an error shows `v`, the value the text came from. -/
def readCapabilityText (v : Value) (text : String) : Except UnitError Capability :=
  match capabilityOfText? text with
  | some (.ok c) => .ok c
  | some (.error e) => .error (.digits e)
  | none => .error (.invalidCapability v)

/-- A compute capability: any value but a boolean, by its plain text (an integer by its
decimal digits), which must be writable. -/
def parseCapability (v : Value) : Except UnitError Capability := do
  readCapabilityText v (← capabilityText v)

/-- Whether a value is a scalar a configuration may hold: a boolean, number or text. -/
def isPrimitive : Value → Bool
  | .bool _ | .int _ | .float _ | .str _ => true
  | _ => false

/-- The display units, largest first: each unit's size in bytes and its name. -/
def byteUnits : List (Nat × String) :=
  [(1024 * gibibyte, "TiB"), (gibibyte, "GiB"), (mebibyte, "MiB"), (1024, "KiB")]

/-- A double byte count for display, by the same rule: the count is divided exactly by its unit
(units are powers of two) and an infinite count stays `inf`; a count that exceeds no unit, NaN
included, is written as the double it is. -/
def formatDoubleBytes (x : Float) : String :=
  match byteUnits.find? fun (u, _) => x > u.toFloat with
  | some (u, name) =>
    if x.isInf then "inf" ++ name
    else
      let b := Number.Binary.ofBits x.toBits
      { b with q := b.q - (Nat.log2 u : Int) }.fixed 1 ++ name
  | none => Value.literal (.float x)

/-- Why a size cannot be formatted. -/
inductive SizeTextError where
  /-- The quotient of an integer count is too large for a double. -/
  | tooLarge
  /-- The size is no number, so it cannot be compared with a unit; the kind of the size. -/
  | notComparable (kind : String)
  /-- A count shown in plain digits has too many of them. -/
  | digits (e : Number.DigitLimit)
deriving DecidableEq, Repr

/-- The wording of a size text error. -/
def SizeTextError.message : SizeTextError → String
  | .tooLarge => "integer division result too large for a float"
  | .notComparable k => "'>' not supported between instances of '" ++ k ++ "' and 'int'"
  | .digits e => e.message

/-- `n / unit` as a double, written with one decimal place, followed by the unit's name. -/
def scaledText (n unit : Nat) (name : String) : Except SizeTextError String :=
  match Number.nearestBinary n unit with
  | some b => .ok (b.fixed 1 ++ name)
  | none => .error .tooLarge

/-- A byte count for display: in the largest binary unit that the count exceeds, with one
decimal place; counts up to 1024, and negative counts, as plain integers. -/
def formatBytes (n : Int) : Except SizeTextError String :=
  match byteUnits.find? fun (u, _) => n > (u : Int) with
  | some (u, name) => scaledText n.toNat u name
  | none => (Number.decimalText n).mapError .digits

/-- A byte count of any numeric kind for display: integers and doubles as above, a truth value
as its name. -/
def formatSize : Value → Except SizeTextError String
  | .int n => formatBytes n
  | .float x => .ok (formatDoubleBytes x)
  | .bool b => .ok (if b then "True" else "False")
  | v => .error (.notComparable v.kindName)

end EngineFit
