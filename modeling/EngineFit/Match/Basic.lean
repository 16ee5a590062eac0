import EngineFit.Hardware.Basic

/-!
# Outcomes of matching

Matching one requirement against a machine gives an outcome: whether some device of the machine
satisfies it, the best score among those devices, and an issue for each device that was
rejected. A connection check answers whether a named snap connection is in place, or fails with
a message when the answer cannot be found out; a check that breaks down (it cannot even be
asked) stops the matching altogether. So does an issue that shows a number too long to write
in decimal (`Breakdown.digits`): the issue cannot be written, and the matching stops with the
conversion's error.
-/

namespace EngineFit

/-- An error that stops matching, by the kind and message of the error. -/
structure Breakdown where
  kind : String
  message : String
deriving DecidableEq, Repr

/-- The breakdown of a number too long to convert to or from decimal text: a message that
shows it cannot be written. -/
def Breakdown.digits (e : Number.DigitLimit) : Breakdown :=
  ⟨"ValueError", e.message⟩

/-- Why a connection check gives no answer: it could not find the answer out (the reason is an
issue of the requirement), or it broke down. -/
inductive ConnectionError where
  | unknown (reason : String)
  | broken (b : Breakdown)
deriving DecidableEq, Repr

/-- What a connection check answers for one connection name: connected or not, or why it
cannot say. -/
abbrev Connections := String → Except ConnectionError Bool

/-- A check that takes every connection as connected. -/
def Connections.all : Connections := fun _ => .ok true

/-- The outcome of matching one requirement. -/
structure Outcome where
  score : Nat := 0
  matched : Bool := false
  issues : List String := []
deriving DecidableEq, Repr

/-- An outcome that failed for the given reasons. -/
def Outcome.failed (issues : List String) : Outcome :=
  { issues }

/-- Points added for each satisfied criterion. -/
structure Weights where
  cpuDevice : Nat
  cpuModel : Nat
  cpuVendor : Nat
  cpuFlag : Nat
  pciType : Nat
  pciDiscrete : Nat
  gpuVram : Nat
  gpuCapability : Nat
  memory : Nat
  disk : Nat

/-- The weights in use. A CPU earns a base, then more for a matching model, vendor and each
flag; a PCI device earns points for its type, for being discrete, and a GPU for memory and
compute capability; enough memory and disk space earn one point each. -/
def weights : Weights :=
  { cpuDevice := 10, cpuModel := 8, cpuVendor := 6, cpuFlag := 1, pciType := 10,
    pciDiscrete := 50, gpuVram := 10, gpuCapability := 10, memory := 1, disk := 1 }

end EngineFit
