import EngineFit.Hardware.VideoMemory
import EngineFit.Hardware.Basic
import EngineFit.Toolbox

/-!
# Properties of graphics devices

Two vendors' graphics devices carry properties that only a vendor tool knows: the memory of
the device (`vram`, in bytes) and, for NVIDIA, its compute capability. A device is a graphics
device of a vendor when it has the vendor's id and a display class (`0x03xx`).

* NVIDIA: `nvidia-smi` is asked for the memory total and for the compute capability of the
  device at the slot, within 30 seconds each. A total that does not read as a memory total
  (`Hardware.VideoMemory`) is left out; the capability is taken as the tool prints it.
* Intel: `clinfo --json` is asked, within 10 seconds, for its device report, and the memory is
  the size the report gives for the slot. A report that gives no size leaves the memory out;
  an infinite size aborts the probe.

A tool that fails, exits with a status other than 0 or prints nothing leaves its property out.
A command that cannot be passed to the tool (a slot holding a null byte or a surrogate that no
byte stands for), or an output that is not UTF-8, stops the probe with that fault.
-/

namespace EngineFit

/-- The vendors whose graphics devices have tool-reported properties. -/
inductive GpuVendor where
  | nvidia
  | intel
deriving DecidableEq, Repr

/-- The PCI vendor id of a vendor. -/
def GpuVendor.id : GpuVendor → Int
  | .nvidia => 0x10de
  | .intel => 0x8086

/-- Whether a device is a graphics device of a vendor. -/
def PciDevice.isGpuOf (d : PciDevice) (v : GpuVendor) : Bool :=
  d.vendor == v.id && classHigh d.deviceClass == 0x0300

/-- Why probing the tool-reported properties of a graphics device stops: a tool command that
cannot be passed or whose output is not text, or a size that aborts the probe. -/
inductive GpuProbeError where
  | tool (f : RunFailure)
  | size (e : SizeError)
deriving DecidableEq, Repr

/-- The output of `nvidia-smi` for one query about the device at a slot: nothing when the tool
fails, exits with a status other than 0 or prints only blanks. -/
def nvidiaQuery (tb : Toolbox) (slot query : String) : Except GpuProbeError (Option String) :=
  (tb.output ["nvidia-smi", "--id=" ++ slot, "--query-gpu=" ++ query, "--format=csv,noheader"]
    (TimeLimit.seconds 30)).mapError .tool

/-- The properties `nvidia-smi` reports for the device at a slot, memory first. A memory total
that cannot be read leaves the size unknown, but one too long to write in decimal is an error. -/
def nvidiaProperties (tb : Toolbox) (slot : String) :
    Except GpuProbeError (List (String × String)) := do
  let vram ← match ← nvidiaQuery tb slot "memory.total" with
    | some out =>
      match memoryTotal out with
      | .ok n =>
        match Number.decimalText n with
        | .ok t => pure [("vram", t)]
        | .error e => throw (.size (.digits e))
      | .error _ => pure []
    | none => pure []
  let capability := match ← nvidiaQuery tb slot "compute_cap" with
    | some c => [("compute-capability", c)]
    | none => []
  pure (vram ++ capability)

/-- The properties `clinfo` reports for the device at a slot, asked at call level `level`: the
report is read two levels deeper, past the query of the size. -/
def intelProperties (level : Nat) (tb : Toolbox) (slot : String) :
    Except GpuProbeError (List (String × String)) :=
  match tb.output ["clinfo", "--json"] (TimeLimit.seconds 10) with
  | .error f => .error (.tool f)
  | .ok none => .ok []
  | .ok (some out) =>
    match reportedSize (level + 2) out slot with
    | .ok (some n) => .ok [("vram", toString n)]
    | .ok none => .ok []
    | .error e => if e.aborts then .error (.size e) else .ok []

/-- The properties a vendor's tool reports for the device at a slot, asked at call level
`level` (`Calls`). -/
def GpuVendor.properties (v : GpuVendor) (level : Nat) (tb : Toolbox) (slot : String) :
    Except GpuProbeError (List (String × String)) :=
  match v with
  | .nvidia => nvidiaProperties tb slot
  | .intel => intelProperties level tb slot

end EngineFit
