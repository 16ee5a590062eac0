import EngineFit.Value.Literal

/-!
# Device requirements

An engine asks for devices. A requirement is one of five kinds, each holding only the fields
that its kind can use:

* an x86-64 CPU, with an optional manufacturer and instruction-set flags (lower case);
* an ARM64 CPU, with optional implementer and part numbers and feature names;
* a GPU on the PCI bus, with optional vendor and device ids, memory in bytes, a compute
  capability as written, and snap connections it needs;
* another PCI device (an NPU, a TPU, or of no declared type), with ids and connections;
* a USB device, whose fields are kept as written and never matched.

`Requirement.toValue` writes a requirement back as a document: fields in a fixed order, ids as
`0x` and four or more hexadecimal digits, unset fields and empty lists left out.
-/

namespace EngineFit

/-- The kinds of device a requirement can name. -/
inductive DeviceKind where
  | cpu
  | gpu
  | npu
  | tpu
deriving DecidableEq, Repr

/-- The name of a device kind in documents. -/
def DeviceKind.name : DeviceKind → String
  | .cpu => "cpu"
  | .gpu => "gpu"
  | .npu => "npu"
  | .tpu => "tpu"

/-- The device kind a name stands for. -/
def DeviceKind.ofName? : String → Option DeviceKind
  | "cpu" => some .cpu
  | "gpu" => some .gpu
  | "npu" => some .npu
  | "tpu" => some .tpu
  | _ => none

/-- An x86-64 CPU requirement. -/
structure Amd64Need where
  manufacturer : Option String := none
  flags : List String := []
deriving DecidableEq, Repr

/-- An ARM64 CPU requirement. -/
structure Arm64Need where
  implementer : Option Nat := none
  part : Option Nat := none
  features : List String := []
deriving DecidableEq, Repr

/-- A PCI GPU requirement. -/
structure GpuNeed where
  vendor : Option Nat := none
  device : Option Nat := none
  vram : Option Nat := none
  capability : Option String := none
  connections : List String := []
deriving DecidableEq, Repr

/-- A PCI requirement for an accelerator (`npu`, `tpu`) or a device of no declared type. -/
structure PciNeed where
  kind : Option DeviceKind := none
  vendor : Option Nat := none
  device : Option Nat := none
  connections : List String := []
deriving DecidableEq, Repr

/-- A USB requirement: its declared type and its other set fields, as written. -/
structure UsbNeed where
  kind : Option DeviceKind := none
  fields : List (String × Value) := []

/-- A device requirement of an engine. -/
inductive Requirement where
  | amd64 (need : Amd64Need)
  | arm64 (need : Arm64Need)
  | gpu (need : GpuNeed)
  | pci (need : PciNeed)
  | usb (need : UsbNeed)

/-- `0x` and the hexadecimal digits of `n`, at least `width` characters after `0x`; a negative
number puts its sign inside the width. -/
def hexText (width : Nat) (n : Int) : String :=
  if n < 0 then "0x-" ++ Value.hexDigits (width - 1) n.natAbs
  else "0x" ++ Value.hexDigits width n.toNat

/-- An entry that is present only when the value is. -/
def optEntry {α : Type} (key : String) (f : α → Value) : Option α → List (String × Value)
  | some a => [(key, f a)]
  | none => []

/-- A list entry that is present only when the list is not empty. -/
def listEntry (key : String) (xs : List String) : List (String × Value) :=
  if xs.isEmpty then [] else [(key, .list (xs.map .str))]

/-- An id written with at least four hexadecimal digits. -/
def idValue (n : Nat) : Value :=
  .str (hexText 4 n)

namespace Requirement

/-- The device kind a requirement asks for, if it declares one. -/
def kind : Requirement → Option DeviceKind
  | .amd64 _ | .arm64 _ => some .cpu
  | .gpu _ => some .gpu
  | .pci r => r.kind
  | .usb r => r.kind

/-- The requirement as a document. -/
def toValue : Requirement → Value
  | .amd64 r => Value.obj <|
      [("type", .str "cpu"), ("architecture", .str "amd64")] ++
      optEntry "manufacturer-id" .str r.manufacturer ++ listEntry "flags" r.flags
  | .arm64 r => Value.obj <|
      [("type", .str "cpu"), ("architecture", .str "arm64")] ++
      optEntry "implementer-id" idValue r.implementer ++ optEntry "part-number" idValue r.part ++
      listEntry "features" r.features
  | .gpu r => Value.obj <|
      [("type", .str "gpu"), ("bus", .str "pci")] ++
      optEntry "vendor-id" idValue r.vendor ++ optEntry "device-id" idValue r.device ++
      optEntry "vram" (fun n => .int n) r.vram ++
      optEntry "compute-capability" .str r.capability ++
      listEntry "snap-connections" r.connections
  | .pci r => Value.obj <|
      optEntry "type" (fun k => .str k.name) r.kind ++ [("bus", .str "pci")] ++
      optEntry "vendor-id" idValue r.vendor ++ optEntry "device-id" idValue r.device ++
      listEntry "snap-connections" r.connections
  | .usb r => Value.obj <|
      optEntry "type" (fun k => .str k.name) r.kind ++ [("bus", .str "usb")] ++ r.fields

end Requirement

end EngineFit
