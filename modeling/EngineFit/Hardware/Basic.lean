import EngineFit.Requirement.Basic

/-!
# Hardware snapshots

A snapshot records one machine: its CPUs, its PCI devices, its memory and swap, and the space
of the file systems that hold some directories. It is read once and never changed.

A CPU has an architecture name; x86-64 CPUs carry a manufacturer and lower-case flags, ARM64
CPUs an implementer, a part number and features. A PCI device has a slot, a bus number, a
class, vendor and device ids, optional subsystem ids and names, and properties that vendor
tools report (`vram`, `compute-capability`). A device behind bus 0 counts as integrated, any
other as discrete.

`Snapshot.toValue` writes a snapshot as a document: ids in hexadecimal (bus numbers and
programming interfaces with two digits, implementers with two, part numbers with three, other
ids with four), unset fields and empty lists left out.
-/

namespace EngineFit

/-- One CPU of a machine. The manufacturer is kept as the document wrote it. -/
structure Cpu where
  architecture : String
  manufacturer : Option Value := none
  flags : List String := []
  implementer : Option Int := none
  part : Option Int := none
  features : List String := []

/-- One PCI device of a machine. Names are kept as the document wrote them. -/
structure PciDevice where
  slot : String
  bus : Int := 0
  deviceClass : Int := 0
  vendor : Int := 0
  device : Int := 0
  programmingInterface : Option Int := none
  subvendor : Option Int := none
  subdevice : Option Int := none
  vendorName : Option Value := none
  deviceName : Option Value := none
  subvendorName : Option Value := none
  subdeviceName : Option Value := none
  properties : List (String × String) := []

/-- Memory and swap in bytes; no memory means it was not measured. -/
structure Memory where
  ram : Nat := 0
  swap : Nat := 0
deriving DecidableEq, Repr

/-- Total and available bytes of the file system that holds a directory. -/
structure DiskSpace where
  total : Nat := 0
  avail : Nat := 0
deriving DecidableEq, Repr

/-- The hardware of one machine. -/
structure Snapshot where
  cpus : List Cpu := []
  pci : List PciDevice := []
  memory : Memory := {}
  disk : List (String × DiskSpace) := []

/-- Why the hardware of the machine could not be measured. -/
inductive DetectionError where
  /-- The CPU table lists no processor. -/
  | noProcessors
  /-- A component could not be measured, for a reason. -/
  | failed (component reason : String)
deriving DecidableEq, Repr

/-- The wording of a detection error: the component and the reason. -/
def DetectionError.message : DetectionError → String
  | .noProcessors => "Failed to detect CPU: no processors listed in cpuinfo"
  | .failed c r => "Failed to detect " ++ c ++ ": " ++ r

/-- The path whose disk space counts by default: where snaps are stored. -/
def defaultStoragePath : String := "/var/lib/snapd"

/-- The disk entries a snapshot records for a directory: the space of the file system that holds
it, taken from the spaces of the directories that exist; none for a directory that does not
exist, so that a requirement on its space cannot pass unmeasured. -/
def diskEntriesAt (spaces : List (String × DiskSpace)) (path : String) :
    List (String × DiskSpace) :=
  (spaces.find? (·.1 == path)).toList

/-- The bits `0xFF00` of a device class, as two's complement: the base class without its
subclass. -/
def classHigh (c : Int) : Nat :=
  (c % 65536).toNat &&& 0xFF00

namespace PciDevice

/-- Whether the device sits behind a bus other than 0. -/
def isDiscrete (d : PciDevice) : Bool := d.bus > 0

/-- A property reported for the device. -/
def property? (d : PciDevice) (key : String) : Option String :=
  (d.properties.find? (·.1 == key)).map (·.2)

/-- The device as a document. -/
def toValue (d : PciDevice) : Value :=
  Value.obj <|
    [("slot", .str d.slot), ("bus-number", .str (hexText 2 d.bus)),
     ("device-class", .str (hexText 4 d.deviceClass))] ++
    optEntry "programming-interface" (fun n => .str (hexText 2 n)) d.programmingInterface ++
    [("vendor-id", .str (hexText 4 d.vendor)), ("device-id", .str (hexText 4 d.device))] ++
    optEntry "subvendor-id" (fun n => .str (hexText 4 n)) d.subvendor ++
    optEntry "subdevice-id" (fun n => .str (hexText 4 n)) d.subdevice ++
    optEntry "vendor-name" id d.vendorName ++ optEntry "device-name" id d.deviceName ++
    optEntry "subvendor-name" id d.subvendorName ++
    optEntry "subdevice-name" id d.subdeviceName ++
    (if d.properties.isEmpty then []
     else [("additional-properties", Value.obj (d.properties.map fun (k, v) => (k, .str v)))])

end PciDevice

/-- The CPU as a document. -/
def Cpu.toValue (c : Cpu) : Value :=
  Value.obj <|
    [("architecture", .str c.architecture)] ++ optEntry "manufacturer-id" id c.manufacturer ++
    listEntry "flags" c.flags ++
    optEntry "implementer-id" (fun n => .str (hexText 2 n)) c.implementer ++
    optEntry "part-number" (fun n => .str (hexText 3 n)) c.part ++
    listEntry "features" c.features

/-- The snapshot as a document. -/
def Snapshot.toValue (s : Snapshot) : Value :=
  Value.obj
    [("cpus", .list (s.cpus.map Cpu.toValue)),
     ("memory", Value.obj [("total-ram", .int s.memory.ram), ("total-swap", .int s.memory.swap)]),
     ("disk", Value.obj (s.disk.map fun (p, d) =>
        (p, Value.obj [("total", .int d.total), ("avail", .int d.avail)]))),
     ("pci", .list (s.pci.map PciDevice.toValue))]

end EngineFit
