import EngineFit.Requirement.Basic
import EngineFit.Units

/-!
# Reading a device requirement

A requirement document is a mapping whose keys are among the thirteen device fields. Its
`type` (unset means no declared type) chooses the rules:

* `cpu` needs an `architecture` of `amd64` or `arm64`, and allows the fields of that
  architecture only;
* any other type is a bus device: `bus` is `pci` (the default) or `usb`, a GPU allows memory
  and compute capability besides the ids and connections of every bus device.

The field check walks the device fields in their fixed order and reports the first one that is
set but not allowed. Checks run in a fixed order, so a document with two faults always reports
the same one.
-/

namespace EngineFit

/-- Why a requirement document is rejected. -/
inductive DeviceError where
  | notMapping
  | unknownField (key : Value)
  | invalidType (v : Value)
  | architectureMissing
  | invalidArchitecture (v : Value)
  | illegalField (label field : String)
  | manufacturerNotText
  | notTextList (field : String)
  | badHex (field : String) (e : UnitError)
  | invalidBus (label : String) (v : Value)
  | badVram (e : UnitError)
  | badCapability (e : UnitError)
deriving Inhabited

/-- The wording of a requirement error. -/
def DeviceError.message : DeviceError → String
  | .notMapping => "device must be a mapping"
  | .unknownField k => "unknown field: " ++ k.plain
  | .invalidType v => "invalid device type: " ++ v.plain
  | .architectureMissing => "cpu: architecture field required"
  | .invalidArchitecture v => "cpu: invalid architecture: " ++ v.plain
  | .illegalField label field => label ++ ": invalid field: " ++ field
  | .manufacturerNotText => "manufacturer-id must be a string"
  | .notTextList field => field ++ " must be a list of strings"
  | .badHex field e => field ++ ": " ++ e.message
  | .invalidBus label v => label ++ ": invalid bus: " ++ v.plain
  | .badVram e => "gpu: error parsing vram: " ++ e.message
  | .badCapability e => "gpu: " ++ e.message

/-- The device fields, in the order the field check walks them. -/
def deviceFields : List String :=
  ["type", "bus", "architecture", "manufacturer-id", "flags", "implementer-id", "part-number",
   "features", "vendor-id", "device-id", "vram", "compute-capability", "snap-connections"]

/-- Whether a key names a device field. -/
def isDeviceField : Value → Bool
  | .str key => deviceFields.contains key
  | _ => false

/-- Fields an x86-64 CPU requirement may set. -/
def amd64Fields : List String := ["type", "architecture", "manufacturer-id", "flags"]

/-- Fields an ARM64 CPU requirement may set. -/
def arm64Fields : List String :=
  ["type", "architecture", "implementer-id", "part-number", "features"]

/-- Fields every bus device may set. -/
def busFields : List String := ["type", "bus", "vendor-id", "device-id", "snap-connections"]

/-- Fields a GPU may set. -/
def gpuFields : List String := busFields ++ ["vram", "compute-capability"]

/-- The first device field that is set in `doc` but not in `legal`. -/
def firstIllegal (doc : Value) (legal : List String) : Option String :=
  deviceFields.find? fun f => (doc.getD f).isSet && !legal.contains f

/-- Rejects the first set field outside `legal`. -/
def checkFields (doc : Value) (legal : List String) (label : String) : Except DeviceError Unit :=
  match firstIllegal doc legal with
  | some f => .error (.illegalField label f)
  | none => .ok ()

/-- The texts of a list of texts; null means none. -/
def textList (v : Value) (field : String) : Except DeviceError (List String) :=
  match v.view with
  | .null => .ok []
  | .list xs =>
    xs.mapM fun
      | .str s => .ok s
      | _ => .error (.notTextList field)
  | _ => .error (.notTextList field)

/-- An optional quantity read by `read`: null gives none, a value that `read` accepts gives
`keep` of the value and its reading, and any other value fails with `wrap` of the error. -/
def optionalField {α β : Type} (read : Value → Except UnitError α) (keep : Value → α → β)
    (wrap : UnitError → DeviceError) (v : Value) : Except DeviceError (Option β) :=
  match v with
  | .null => .ok none
  | v =>
    match read v with
    | .ok a => .ok (some (keep v a))
    | .error e => .error (wrap e)

/-- An optional hexadecimal id under `field`. -/
def hexField (doc : Value) (field : String) : Except DeviceError (Option Nat) :=
  optionalField parseHex (fun _ n => n) (.badHex field) (doc.getD field)

/-- An optional manufacturer: null or a text, the empty text meaning none. -/
def manufacturerField (v : Value) : Except DeviceError (Option String) :=
  match v with
  | .null => .ok none
  | .str s => .ok (if s.isEmpty then none else some s)
  | _ => .error .manufacturerNotText

/-- Reads a CPU requirement. -/
def parseCpu (doc : Value) : Except DeviceError Requirement := do
  let arch := doc.getD "architecture"
  if !arch.isSet then throw .architectureMissing
  match arch with
  | .str "amd64" =>
    checkFields doc amd64Fields "cpu amd64"
    let manufacturer ← manufacturerField (doc.getD "manufacturer-id")
    let flags ← textList (doc.getD "flags") "flags"
    pure (.amd64 { manufacturer, flags := flags.map Text.lower })
  | .str "arm64" =>
    checkFields doc arm64Fields "cpu arm64"
    let implementer ← hexField doc "implementer-id"
    let part ← hexField doc "part-number"
    let features ← textList (doc.getD "features") "features"
    pure (.arm64 { implementer, part, features })
  | v => throw (.invalidArchitecture v)

/-- The bus a bus device names: a falsy value means PCI. -/
inductive Bus where
  | pci
  | usb
deriving DecidableEq, Repr

/-- The name of a bus. -/
def Bus.name : Bus → String
  | .pci => "pci"
  | .usb => "usb"

/-- The bus a `bus` value names, for a device labelled `label`: a falsy value names PCI. -/
def declaredBus (label : String) (v : Value) : Except DeviceError Bus :=
  if !v.truthy then .ok .pci
  else
    match v with
    | .str "pci" => .ok .pci
    | .str "usb" => .ok .usb
    | v => .error (.invalidBus label v)

/-- The set fields of a USB requirement besides its type and bus, as written. -/
def usbFields (doc : Value) : List (String × Value) :=
  match doc.view with
  | .dict kvs => kvs.filterMap fun (k, v) =>
      match k with
      | .str key => if key != "type" && key != "bus" && v.isSet then some (key, v) else none
      | _ => none
  | _ => []

/-- The memory a GPU requirement asks for, in bytes; null asks for none. -/
def vramField (v : Value) : Except DeviceError (Option Nat) :=
  optionalField parseSize (fun _ n => n) .badVram v

/-- The compute capability a GPU requirement asks for, kept as its plain text; null asks for
none. -/
def capabilityField (v : Value) : Except DeviceError (Option String) :=
  optionalField parseCapability (fun v _ => v.plain) .badCapability v

/-- Reads a requirement for a device on a bus; `kind` is its declared type, not a CPU. -/
def parseBusDevice (doc : Value) (kind : Option DeviceKind) : Except DeviceError Requirement := do
  let label := match kind with
    | some k => k.name
    | none => "typeless"
  let bus ← declaredBus label (doc.getD "bus")
  let legal := if kind == some .gpu then gpuFields else busFields
  checkFields doc legal (label ++ ": " ++ bus.name ++ " device")
  match bus with
  | .usb => pure (.usb { kind, fields := usbFields doc })
  | .pci =>
    let vendor ← hexField doc "vendor-id"
    let device ← hexField doc "device-id"
    let connections ← textList (doc.getD "snap-connections") "snap-connections"
    if kind != some .gpu then
      pure (.pci { kind, vendor, device, connections })
    else
      let vram ← vramField (doc.getD "vram")
      let capability ← capabilityField (doc.getD "compute-capability")
      pure (.gpu { vendor, device, vram, capability, connections })

/-- Checks that a document is a mapping whose keys pass `isField`; the error names the first
key that does not. -/
def checkKeys {ε : Type} (doc : Value) (isField : Value → Bool) (notMapping : ε)
    (unknown : Value → ε) : Except ε Unit :=
  match doc.view with
  | .dict kvs =>
    match kvs.find? (fun p => !isField p.1) with
    | some (k, _) => .error (unknown k)
    | none => .ok ()
  | _ => .error notMapping

/-- Checks that a requirement document is a mapping whose keys are device fields. -/
def checkDeviceKeys (doc : Value) : Except DeviceError Unit :=
  checkKeys doc isDeviceField .notMapping .unknownField

/-- The device kind a `type` value declares: a falsy value declares none, a text must name a
kind. -/
def declaredKind (v : Value) : Except DeviceError (Option DeviceKind) :=
  if !v.truthy then .ok none
  else
    match v with
    | .str s =>
      match DeviceKind.ofName? s with
      | some k => .ok (some k)
      | none => .error (.invalidType v)
    | v => .error (.invalidType v)

/-- Reads a device requirement document. -/
def Requirement.parse (doc : Value) : Except DeviceError Requirement := do
  checkDeviceKeys doc
  let kind ← declaredKind (doc.getD "type")
  if kind == some .cpu then parseCpu doc else parseBusDevice doc kind

end EngineFit
