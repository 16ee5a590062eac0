import EngineFit.Hardware.Gpu
import EngineFit.Number.Integer

/-!
# The kernel's PCI device directory

The kernel lists the PCI devices of a Linux machine as a directory with one entry per slot
(`0000:01:00.0`, domain, bus, device and function), each holding one file per attribute. The
attributes read here are hexadecimal numbers: `class`, `vendor`, `device`, `subsystem_vendor`
and `subsystem_device`.

`PciDirectory.devices` lists the devices of such a directory, slots in code-point order.

* An attribute is its file's text, stripped, read as a hexadecimal integer literal; a missing
  or unreadable file has none.
* A slot without a class, vendor or device is no device.
* The class file holds the class and subclass above the programming interface:
  `0xCCSSPP` is class `0xCCSS` and interface `0xPP`.
* The bus number is the second `:`-separated part of the slot, hexadecimal; a slot of fewer
  than three parts, or with an unreadable bus, is on bus 0.
* A graphics device of NVIDIA or Intel gets the properties its vendor's tool reports
  (`Hardware.Gpu`).
-/

namespace EngineFit

/-- The PCI device directory of a machine: for each slot, the readable files of the device and
their texts. -/
structure PciDirectory where
  slots : List (String × List (String × String)) := []
deriving DecidableEq, Repr

/-- The bus number written in a slot name. -/
def busOfSlot (slot : String) : Int :=
  match slot.splitOn ":" with
  | _ :: bus :: _ :: _ => (Number.readInt? .sixteen bus).getD 0
  | _ => 0

/-- A class file's number split into the class with subclass and the programming interface. -/
def splitClass (raw : Int) : Int × Int :=
  (raw / 256, raw % 256)

namespace PciDirectory

/-- The hexadecimal number a device file holds. -/
def hexFile? (files : List (String × String)) (name : String) : Option Int :=
  (files.find? (·.1 == name)).bind fun (_, text) => Number.readInt? .sixteen (Text.strip text)

/-- The device at a slot, without tool-reported properties; none when its class, vendor or
device is missing. -/
def device? (slot : String) (files : List (String × String)) : Option PciDevice := do
  let raw ← hexFile? files "class"
  let vendor ← hexFile? files "vendor"
  let device ← hexFile? files "device"
  let (deviceClass, interface) := splitClass raw
  some { slot, bus := busOfSlot slot, deviceClass, programmingInterface := some interface,
         vendor, device, subvendor := hexFile? files "subsystem_vendor"
         subdevice := hexFile? files "subsystem_device" }

/-- A device with the properties its vendor's tool reports, if it is a graphics device of
NVIDIA or Intel; the tool is asked at call level `level`. -/
def withProperties (level : Nat) (tb : Toolbox) (d : PciDevice) : Except GpuProbeError PciDevice :=
  match [GpuVendor.nvidia, GpuVendor.intel].find? d.isGpuOf with
  | some v => (fun ps => { d with properties := ps }) <$> v.properties level tb d.slot
  | none => .ok d

/-- The devices of a directory, slots in code-point order, listed at call level `level`
(`Calls`). -/
def devices (dir : PciDirectory) (level : Nat) (tb : Toolbox) :
    Except GpuProbeError (List PciDevice) :=
  let sorted := dir.slots.mergeSort fun a b => decide (a.1 ≤ b.1)
  (sorted.filterMap fun (slot, files) => device? slot files).mapM (withProperties (level + 1) tb)

end PciDirectory

end EngineFit
