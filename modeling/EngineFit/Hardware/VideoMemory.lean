import EngineFit.Value.Literal
import EngineFit.Number.Integer
import EngineFit.Number.Whole
import EngineFit.Json.Read

/-!
# Reports of video memory

Vendor tools report the memory of a graphics device in two forms, read here into bytes.

**Memory totals.** A total is a decimal integer, optionally followed by one space and a unit
`KiB`, `MiB` or `GiB` (`4096 MiB`); blanks around the whole report are ignored. A negative total
or another unit is rejected.

**Device reports.** A device report is a JSON object whose `devices` lists platforms, each an
object whose `online` lists devices. The size of the device at a PCI slot is the
`CL_DEVICE_GLOBAL_MEM_SIZE` of the first device, in order, whose `CL_DEVICE_PCI_BUS_INFO_KHR`
written as text contains the slot. The lists are walked as a dynamic language walks
containers: an absent, null or empty list lists nothing, an object lists its keys and a text
its characters (none of them a platform or device), and a number or truth value is an error;
the walk stops at the first match, so what follows it is never looked at. A size is an
integer, a double (its whole part) or a decimal text; a truth value, a negative size, an
infinite or NaN double and other kinds are rejected. An infinite size, and a report nested too
deep to read, abort a probe: the other rejections only leave the size unknown.
-/

namespace EngineFit

/-- Why a report of video memory gives no size. -/
inductive SizeError where
  /-- The number of a memory total is no decimal integer literal. -/
  | notInteger (text : String)
  /-- A memory total with a negative number; the report as written. -/
  | negativeTotal (report : String)
  /-- A memory total with a unit other than `KiB`, `MiB`, `GiB`. -/
  | unknownUnit (unit : String)
  /-- A device report that is no JSON text, with the reader's message. -/
  | unreadable (message : String)
  /-- A device report that is JSON but no object. -/
  | notObject
  /-- A size given as a truth value. -/
  | truthSize (b : Bool)
  /-- A negative size. -/
  | negativeSize (n : Int)
  /-- A size of a kind with no integer value (null, list, object), by its kind's name. -/
  | notNumber (kind : String)
  /-- A list given as a number or a truth value, by its kind's name. -/
  | notIterable (kind : String)
  /-- An infinite size. -/
  | infiniteSize
  /-- A NaN size. -/
  | nanSize
  /-- A number too long to read or to write in decimal. -/
  | digits (e : Number.DigitLimit)
  /-- A device report nested too deep to read: the reader's fault. -/
  | tooDeep (f : Json.Fault)
deriving DecidableEq, Repr

/-- The wording of a size error. -/
def SizeError.message : SizeError → String
  | .notInteger t => "invalid literal for int() with base 10: " ++ Value.shortQuote t
  | .negativeTotal r => "negative memory size: " ++ Value.quote r
  | .unknownUnit u => "unknown memory unit: " ++ u
  | .unreadable m => "invalid clinfo json: " ++ m
  | .notObject => "clinfo json is not an object"
  | .truthSize b => "invalid memory size: " ++ Value.literal (.bool b)
  | .negativeSize n => "negative memory size: " ++ toString n
  | .notNumber k =>
    "int() argument must be a string, a bytes-like object or a real number, not '" ++ k ++ "'"
  | .notIterable k => "'" ++ k ++ "' object is not iterable"
  | .infiniteSize => "cannot convert float infinity to integer"
  | .nanSize => "cannot convert float NaN to integer"
  | .digits e => e.message
  | .tooDeep f => f.text

/-- Whether a size error aborts a probe instead of leaving the size unknown. -/
def SizeError.aborts : SizeError → Bool
  | .infiniteSize | .tooDeep _ => true
  | _ => false

/-- The bytes of a memory unit. -/
def unitBytes? : String → Option Nat
  | "KiB" => some 1024
  | "MiB" => some (1024 * 1024)
  | "GiB" => some (1024 * 1024 * 1024)
  | _ => none

/-- The bytes of a memory total. -/
def memoryTotal (report : String) : Except SizeError Int :=
  let (number, unit) := match (Text.strip report).toList.span (· != ' ') with
    | (n, _ :: u) => (String.ofList n, String.ofList u)
    | (n, []) => (String.ofList n, "")
  match Number.readInt .ten number with
  | .error .invalid => .error (.notInteger number)
  | .error (.tooLong e) => .error (.digits e)
  | .ok n =>
    if n < 0 then .error (.negativeTotal report)
    else if unit.isEmpty then .ok n
    else
      match unitBytes? unit with
      | some b => .ok (n * b)
      | none => .error (.unknownUnit unit)

/-- Whether `needle` occurs in `hay` as a run of consecutive characters. -/
def occursIn (needle : List Char) : List Char → Bool
  | [] => needle.isEmpty
  | c :: cs => needle.isPrefixOf (c :: cs) || occursIn needle cs

/-- The items a container yields when walked: nothing for a false value, the items of a
list, the keys of an object, the characters of a text; a number or truth value cannot be
walked. -/
def walkItems (v : Value) : Except SizeError (List Value) :=
  if !v.truthy then .ok []
  else
    match v with
    | .list xs => .ok xs
    | .dict kvs => .ok (kvs.map (·.1))
    | .str s => .ok (s.toList.map fun c => .str (String.singleton c))
    | v => .error (.notIterable v.kindName)

/-- The size a device reports, in bytes. -/
def sizeOf (v : Value) : Except SizeError Int := do
  let n ← match v with
    | .bool b => throw (.truthSize b)
    | .int n => pure n
    | .float x =>
      match Number.Whole.ofFloat x with
      | .int n => pure n
      | .infinite => throw .infiniteSize
      | .notANumber => throw .nanSize
    | .str s =>
      match Number.readInt .ten s with
      | .ok n => pure n
      | .error .invalid => throw (.notInteger s)
      | .error (.tooLong e) => throw (.digits e)
    | v => throw (.notNumber v.kindName)
  if n < 0 then throw (.negativeSize n) else pure n

/-- Whether a device sits at a PCI slot: its bus information, as text, contains the slot. -/
def atSlot (slot : String) (device : Value) : Bool :=
  let info := match device.get? "CL_DEVICE_PCI_BUS_INFO_KHR" with
    | some v => v.plain
    | none => ""
  occursIn slot.toList info.toList

/-- The size of the first device at a slot, if any device is there. -/
def slotSize? (slot : String) (devices : List Value) : Option (Except SizeError Int) :=
  match devices.find? fun d => (match d with | .dict _ => true | _ => false) && atSlot slot d with
  | some d => some (sizeOf (d.getD "CL_DEVICE_GLOBAL_MEM_SIZE"))
  | none => none

/-- The size of the first device at a slot, walking platforms in order. -/
def platformsSize (slot : String) : List Value → Except SizeError (Option Int)
  | [] => .ok none
  | p@(.dict _) :: ps => do
    let devices ← walkItems (p.getD "online")
    match slotSize? slot devices with
    | some r => some <$> r
    | none => platformsSize slot ps
  | _ :: ps => platformsSize slot ps

/-- The size in bytes of the device at a PCI slot, from a device report; none when no device
of the report sits there. The report is read at call level `level` (`Calls`). -/
def reportedSize (level : Nat) (report slot : String) : Except SizeError (Option Int) := do
  let doc ← match Json.read (roomAbove level) report with
    | .ok v => pure v
    | .error ⟨.tooManyDigits n, _⟩ => throw (.digits (.reading n))
    | .error e@⟨.tooDeep _, _⟩ => throw (.tooDeep e.fault)
    | .error e => throw (.unreadable (e.message report))
  match doc with
  | .dict _ => platformsSize slot (← walkItems (doc.getD "devices"))
  | _ => throw .notObject

end EngineFit
