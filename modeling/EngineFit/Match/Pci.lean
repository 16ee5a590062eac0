import EngineFit.Match.Basic
import EngineFit.Units

/-!
# Matching PCI requirements

The machine's PCI devices are first filtered by vendor id, then by device id; an unset id lets
every device through, and filtered-out devices cause no issue. Each remaining device is scored:
its class must fit the declared type (then it earns the type weight), a discrete device earns
the discrete weight, a GPU requirement checks the memory and compute capability that vendor
tools reported, and every snap connection must be in place. A device passes when no check
failed, even with a score of 0; the requirement is matched when some device passes, and scores
the best of them.
-/

namespace EngineFit

/-- A PCI requirement: a GPU, or another device on the PCI bus. -/
inductive PciNeedKind where
  | gpu (need : GpuNeed)
  | other (need : PciNeed)

namespace PciNeedKind

/-- The declared device type. -/
def kind : PciNeedKind → Option DeviceKind
  | .gpu _ => some .gpu
  | .other r => r.kind

/-- The required vendor id. -/
def vendor : PciNeedKind → Option Nat
  | .gpu r => r.vendor
  | .other r => r.vendor

/-- The required device id. -/
def device : PciNeedKind → Option Nat
  | .gpu r => r.device
  | .other r => r.device

/-- The snap connections the device needs. -/
def connections : PciNeedKind → List String
  | .gpu r => r.connections
  | .other r => r.connections

end PciNeedKind

/-- The devices whose vendor id, then device id, equal the required ones where those are set. -/
def filterDevices (devices : List PciDevice) (vendor device : Option Nat) : List PciDevice :=
  devices.filter fun d =>
    (match vendor with
     | some v => d.vendor == (v : Int)
     | none => true) &&
    (match device with
     | some i => d.device == (i : Int)
     | none => true)

/-- Whether a device class fits a device type: a GPU is a legacy VGA device (`0x0001`) or a
display controller (`0x03xx`); an NPU or TPU is a processing accelerator (`0x12xx`) or a
co-processor (`0x0b40`); no other type fits. -/
def classFits (kind : DeviceKind) (c : Int) : Bool :=
  match kind with
  | .gpu => c == 0x0001 || classHigh c == 0x0300
  | .npu | .tpu => classHigh c == 0x1200 || c == 0x0b40
  | .cpu => false

/-- Why a device check fails: an issue to report against the device, or a breakdown that stops
the matching. -/
inductive CheckFault where
  | issue (text : String)
  | broken (b : Breakdown)

/-- The GPU memory check: the points it earns, or the issue. The issue of too little memory
shows the available size in decimal, which breaks down for a size too long to write. -/
def checkVram (required : Nat) (d : PciDevice) : Except CheckFault Nat :=
  match d.property? "vram" with
  | none => .error (.issue "unable to detect vRAM")
  | some text =>
    match parseSize (.str text) with
    | .error e => .error (.issue ("error parsing vRAM: " ++ e.message))
    | .ok available =>
      if available < required then
        match Number.decimalText available with
        | .ok shown => .error (.issue ("not enough vRAM: " ++ shown))
        | .error e => .error (.broken (.digits e))
      else .ok weights.gpuVram

/-- The compute capability check: the points it earns, or the issue. -/
def checkCapability (required : String) (d : PciDevice) : Except CheckFault Nat :=
  match d.property? "compute-capability" with
  | none => .error (.issue "unable to detect compute capability")
  | some text =>
    match parseCapability (.str text) with
    | .error e => .error (.issue ("error parsing compute capability: " ++ e.message))
    | .ok available =>
      match parseCapability (.str required) with
      | .ok need =>
        if available.lt need then .error (.issue ("compute capability too low: " ++ text))
        else .ok weights.gpuCapability
      | .error e => .error (.issue ("error parsing compute capability: " ++ e.message))

/-- The property checks of a GPU requirement, memory first. -/
def checkProperties (need : PciNeedKind) (d : PciDevice) : Except CheckFault Nat :=
  match need with
  | .other _ => .ok 0
  | .gpu r => do
    let v ← match r.vram with
      | some n => checkVram n d
      | none => pure 0
    let c ← match r.capability with
      | some s => checkCapability s d
      | none => pure 0
    pure (v + c)

/-- The first connection that is not in place, as an issue, checked in order; a check that
breaks down stops the matching. -/
def checkConnections (conns : Connections) : List String → Except Breakdown (Option String)
  | [] => .ok none
  | c :: rest =>
    match conns c with
    | .error (.unknown msg) => .ok (some ("error checking snap connection \"" ++ c ++ "\": " ++ msg))
    | .error (.broken b) => .error b
    | .ok false => .ok (some ("\"" ++ c ++ "\" is not connected"))
    | .ok true => checkConnections conns rest

/-- Scores the type and properties of a device that passed the id filter: its score, or its
single fault. -/
def deviceScore (need : PciNeedKind) (d : PciDevice) : Except CheckFault Nat := do
  let typeScore ← match need.kind with
    | some k =>
      if classFits k d.deviceClass then pure weights.pciType
      else throw (.issue ("device class " ++ hexText 4 d.deviceClass ++ " not of required type " ++ k.name))
    | none => pure 0
  let discrete := if d.isDiscrete then weights.pciDiscrete else 0
  let props ← checkProperties need d
  pure (typeScore + discrete + props)

/-- Scores one device that passed the id filter: its score, or its single issue; the connections
are checked only for a device that fits otherwise. -/
def scoreDevice (need : PciNeedKind) (d : PciDevice) (conns : Connections) :
    Except Breakdown (Except String Nat) :=
  match deviceScore need d with
  | .error (.issue issue) => .ok (.error issue)
  | .error (.broken b) => .error b
  | .ok score =>
    match checkConnections conns need.connections with
    | .error b => .error b
    | .ok (some issue) => .ok (.error issue)
    | .ok none => .ok (.ok score)

/-- Matches a PCI requirement against the machine's PCI devices; issues name the device's
slot. -/
def matchPci (need : PciNeedKind) (devices : List PciDevice) (conns : Connections) :
    Except Breakdown Outcome :=
  if devices.isEmpty then .ok (.failed ["no pci devices on host system"])
  else
    let candidates := filterDevices devices need.vendor need.device
    if candidates.isEmpty then .ok (.failed ["device not found"])
    else
      candidates.foldlM (fun acc d => do
        match ← scoreDevice need d conns with
        | .ok score => pure { acc with matched := true, score := max acc.score score }
        | .error issue =>
          pure { acc with issues := acc.issues ++ ["pci " ++ d.slot ++ ": " ++ issue] })
        {}

end EngineFit
