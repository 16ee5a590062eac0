import EngineFit.Hardware.Basic
import EngineFit.Units

/-!
# Reading a snapshot document

A snapshot document is a mapping with the sections `cpus` and `pci` (lists), `memory` and `disk`
(mappings); an unset section is empty and other keys are ignored. Sizes are naturals, a missing
size is 0. CPU and PCI entries are mappings; a CPU needs an architecture, ids are hexadecimal.
Texts that the snapshot keeps as texts (architectures, flags, features, slots, property keys and
values, disk paths) are taken in plain form whatever their kind; flags are lower-cased.

The sections are checked in the order: `cpus` and `pci` are lists, memory, disk, then each CPU
entry, then each PCI entry. The first fault is reported with the field it concerns.
-/

namespace EngineFit

/-- Why a snapshot document is rejected. -/
inductive SnapshotProblem where
  | notMapping
  | expectedList
  | expectedMapping
  | expectedMappingFor (path : Value)
  | notNatural (v : Value)
  | cpuNotMapping
  | architectureMissing
  | pciNotMapping
  | badHex (e : UnitError)
  | undecodable
  /-- A value to be taken as text holds an integer too long to write; not a rejection of
  the document's shape, so its message stands alone. -/
  | tooLong (e : Number.DigitLimit)
deriving Inhabited

/-- The wording of a snapshot problem. -/
def SnapshotProblem.message : SnapshotProblem → String
  | .notMapping => "document must be a mapping"
  | .expectedList => "expected a list"
  | .expectedMapping => "expected a mapping"
  | .expectedMappingFor p => "expected a mapping for " ++ p.plain
  | .notNatural v => "expected a non-negative integer, got " ++ v.literal
  | .cpuNotMapping => "cpu entry must be a mapping"
  | .architectureMissing => "architecture not set"
  | .pciNotMapping => "pci entry must be a mapping"
  | .badHex e => e.message
  | .undecodable => "error decoding document"
  | .tooLong e => e.message

/-- A rejected snapshot: the problem and the field it concerns, if any. -/
structure SnapshotError where
  field : Option String
  problem : SnapshotProblem
deriving Inhabited

/-- Whether the error rejects the document's shape; the other errors are integers too long to
write. -/
def SnapshotError.isRejection (e : SnapshotError) : Bool :=
  match e.problem with
  | .tooLong _ => false
  | _ => true

/-- The full message. -/
def SnapshotError.message (e : SnapshotError) : String :=
  if !e.isRejection then e.problem.message else
  "Invalid hardware snapshot: " ++
    (match e.field with
     | some f => f ++ ": "
     | none => "") ++ e.problem.message

/-- The plain text of a value, unless it holds an integer too long to write. -/
def plainOf (v : Value) : Except SnapshotError String :=
  match v.plainChecked with
  | .ok t => .ok t
  | .error e => .error ⟨none, .tooLong e⟩

/-- A problem that shows a value: the problem, unless the value cannot be written. -/
def showing (field : String) (mk : Value → SnapshotProblem) (v : Value) : SnapshotError :=
  if v.writable then ⟨some field, mk v⟩ else ⟨none, .tooLong .writing⟩

/-- A fault in a field. -/
def faultAt {α : Type} (field : String) (p : SnapshotProblem) : Except SnapshotError α :=
  .error ⟨some field, p⟩

/-- An optional hexadecimal id. -/
def hexOrNone (doc : Value) (key : String) : Except SnapshotError (Option Int) :=
  match doc.getD key with
  | .null => .ok none
  | v =>
    match parseHex v with
    | .ok n => .ok (some n)
    | .error e => faultAt key (.badHex e)

/-- A hexadecimal id that defaults to 0. -/
def hexOrZero (doc : Value) (key : String) : Except SnapshotError Int :=
  (hexOrNone doc key).map (·.getD 0)

/-- The plain texts of a list; an unset value is empty. -/
def plainList (doc : Value) (key : String) : Except SnapshotError (List String) :=
  let v := doc.getD key
  if !v.truthy then .ok []
  else match v.view with
    | .list xs => xs.mapM plainOf
    | _ => faultAt key .expectedList

/-- A size: a natural number that is not a boolean; a missing size is 0. -/
def natField (doc : Value) (key : String) : Except SnapshotError Nat :=
  match doc.get? key with
  | none => .ok 0
  | some (.int n) => if n < 0 then .error (showing key .notNatural (.int n)) else .ok n.toNat
  | some v => .error (showing key .notNatural v)

/-- Reads a CPU entry. -/
def Cpu.parse (doc : Value) : Except SnapshotError Cpu := do
  match doc.view with
  | .dict _ => pure ()
  | _ => faultAt "cpus" .cpuNotMapping
  let arch := doc.getD "architecture"
  if !arch.truthy then faultAt "cpus" .architectureMissing
  let architecture ← plainOf arch
  let manufacturer := match doc.getD "manufacturer-id" with
    | .null => none
    | v => some v
  let flags ← plainList doc "flags"
  let implementer ← hexOrNone doc "implementer-id"
  let part ← hexOrNone doc "part-number"
  let features ← plainList doc "features"
  pure { architecture, manufacturer, flags := flags.map Text.lower,
         implementer, part, features }

/-- Writes `v` under the text key `k`, keeping the place of an earlier equal key. -/
def insertKey {α : Type} (kvs : List (String × α)) (k : String) (v : α) : List (String × α) :=
  if kvs.any (·.1 == k) then kvs.map fun p => if p.1 == k then (k, v) else p
  else kvs ++ [(k, v)]

/-- Reads a PCI entry. -/
def PciDevice.parse (doc : Value) : Except SnapshotError PciDevice := do
  match doc.view with
  | .dict _ => pure ()
  | _ => faultAt "pci" .pciNotMapping
  let props := doc.getD "additional-properties"
  let propEntries ← if !props.truthy then pure []
    else match props.view with
      | .dict kvs => pure kvs
      | _ => faultAt "additional-properties" .expectedMapping
  let slot ← match doc.get? "slot" with
    | some v => plainOf v
    | none => pure ""
  let bus ← hexOrZero doc "bus-number"
  let deviceClass ← hexOrZero doc "device-class"
  let vendor ← hexOrZero doc "vendor-id"
  let device ← hexOrZero doc "device-id"
  let programmingInterface ← hexOrNone doc "programming-interface"
  let subvendor ← hexOrNone doc "subvendor-id"
  let subdevice ← hexOrNone doc "subdevice-id"
  let named (key : String) : Option Value := match doc.getD key with
    | .null => none
    | v => some v
  let properties ← propEntries.foldlM (fun acc (k, v) => do
    let key ← plainOf k
    pure (insertKey acc key (← plainOf v))) []
  pure { slot, bus, deviceClass, vendor, device, programmingInterface, subvendor, subdevice,
         vendorName := named "vendor-name", deviceName := named "device-name",
         subvendorName := named "subvendor-name", subdeviceName := named "subdevice-name",
         properties }

/-- Reads one disk entry. -/
def diskEntry (path stats : Value) : Except SnapshotError DiskSpace := do
  match stats.view with
  | .dict _ => pure ()
  | _ => .error (showing "disk" .expectedMappingFor path)
  let total ← natField stats "total"
  let avail ← natField stats "avail"
  pure { total, avail }

/-- Reads a snapshot document; an unset document is the empty snapshot. -/
def Snapshot.parse (doc : Value) : Except SnapshotError Snapshot := do
  let doc := if doc.truthy then doc else .dict []
  match doc.view with
  | .dict _ => pure ()
  | _ => throw ⟨none, .notMapping⟩
  let part (key : String) : Value :=
    let v := doc.getD key
    if v.truthy then v else .null
  let cpus ← match (part "cpus").view with
    | .null => pure []
    | .list xs => pure xs
    | _ => faultAt "cpus" .expectedList
  let pci ← match (part "pci").view with
    | .null => pure []
    | .list xs => pure xs
    | _ => faultAt "pci" .expectedList
  let memoryDoc ← match (part "memory").view with
    | .null => pure (.dict [])
    | v@(.dict _) => pure v
    | _ => faultAt "memory" .expectedMapping
  let ram ← natField memoryDoc "total-ram"
  let swap ← natField memoryDoc "total-swap"
  let diskEntries ← match (part "disk").view with
    | .null => pure []
    | .dict kvs => pure kvs
    | _ => faultAt "disk" .expectedMapping
  let disk ← diskEntries.foldlM (fun acc (p, stats) => do
    let d ← diskEntry p stats
    pure (insertKey acc (← plainOf p) d)) []
  let cpus ← cpus.mapM Cpu.parse
  let pci ← pci.mapM PciDevice.parse
  pure { cpus, pci, memory := { ram, swap }, disk }

end EngineFit
