import EngineFit.Match.Cpu
import EngineFit.Match.Pci

/-!
# Matching any requirement

A CPU requirement is matched against the machine's CPUs, a PCI requirement against its PCI
devices; USB devices are never matched. When a requirement is not matched, a summary line names
the bus it needed.
-/

namespace EngineFit

namespace Requirement

/-- Matches a requirement against a machine; a connection check that breaks down, or an issue
that cannot be written, stops it. -/
def matchOn (r : Requirement) (s : Snapshot) (conns : Connections) : Except Breakdown Outcome :=
  match r with
  | .amd64 n => matchCpu (.amd64 n) s.cpus
  | .arm64 n => matchCpu (.arm64 n) s.cpus
  | .gpu n => matchPci (.gpu n) s.pci conns
  | .pci n => matchPci (.other n) s.pci conns
  | .usb _ => .ok (.failed ["usb device matching not implemented"])

/-- The line that closes the issues of an unmatched requirement. -/
def summary : Requirement → String
  | .amd64 _ | .arm64 _ => "required cpu device not found"
  | .usb _ => "required usb device not found"
  | .gpu _ | .pci _ => "required pci device not found"

/-- Whether the requirement is for a USB device. -/
def isUsb : Requirement → Bool
  | .usb _ => true
  | _ => false

end Requirement

end EngineFit
