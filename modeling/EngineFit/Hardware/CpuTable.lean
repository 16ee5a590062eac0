import EngineFit.Hardware.Basic
import EngineFit.Text.Lines
import EngineFit.Text.Case
import EngineFit.Number.Integer

/-!
# The kernel's CPU table

The kernel lists the logical processors of a Linux machine as a text of blocks, one per
processor, each a run of `key : value` lines; a blank line ends a block. `cpusOfTable` reads the
CPUs of such a table for a machine of a given architecture.

* A line is split at its first colon, key and value stripped of blanks; a line with no colon is
  ignored, and a key written twice in a block keeps its last value.
* Only blocks with a `processor` key describe a processor.
* On amd64 a CPU has the manufacturer `vendor_id` and the lower-cased words of `flags`; on
  arm64 the implementer `CPU implementer` and part number `CPU part`, each an integer literal
  with its radix read from a prefix (none when empty or unreadable), and the words of
  `Features`. On other architectures a CPU is its architecture name alone.
* Logical processors of one model describe the same CPU, so equal CPUs are kept once, in the
  order first met. A table with no processor is an error: no measurement stands in for it.
-/

namespace EngineFit

/-- The architecture name of a machine name: lower-cased, with `x86_64` read as `amd64` and
`aarch64` as `arm64`. -/
def architectureOf (machine : String) : String :=
  let m := Text.lower machine
  if m = "x86_64" || m = "amd64" then "amd64"
  else if m = "aarch64" || m = "arm64" then "arm64"
  else m

namespace CpuTable

/-- The fields of one block, the latest first; a key occurs at most once. -/
abbrev Block := List (String × String)

/-- Sets a field of a block, replacing an earlier value of the key. -/
def Block.set (b : Block) (key value : String) : Block :=
  (key, value) :: b.filter (·.1 != key)

/-- The value of a field. -/
def Block.get? (b : Block) (key : String) : Option String :=
  (b.find? (·.1 == key)).map (·.2)

/-- The field a line writes: the text before its first colon and the text after it, both
stripped; none for a line with no colon. -/
def field? (line : String) : Option (String × String) :=
  match line.toList.span (· != ':') with
  | (key, _ :: value) => some (Text.strip (String.ofList key), Text.strip (String.ofList value))
  | (_, []) => none

/-- Reads lines into blocks: `done` holds the finished blocks, latest first, and `current`
the block being read. -/
def blocksOf : List String → List Block → Block → List Block
  | [], done, current => (if current.isEmpty then done else current :: done).reverse
  | line :: rest, done, current =>
    if line.toList.all Text.isBlank then
      blocksOf rest (if current.isEmpty then done else current :: done) []
    else
      match field? line with
      | some (k, v) => blocksOf rest done (current.set k v)
      | none => blocksOf rest done current

/-- The blocks of a table, in order; a block has at least one field. -/
def blocks (text : String) : List Block :=
  blocksOf (Text.lines text) [] []

/-- An id field of an arm64 block: an integer literal whose radix its prefix gives. -/
def idOf : Option String → Option Int
  | none => none
  | some "" => none
  | some s => Number.readInt? .fromPrefix s

/-- The CPU a processor block describes on an architecture. -/
def cpuOf (architecture : String) (b : Block) : Cpu :=
  if architecture = "amd64" then
    { architecture, manufacturer := (b.get? "vendor_id").map .str
      flags := Text.words (Text.lower ((b.get? "flags").getD "")) }
  else if architecture = "arm64" then
    { architecture, implementer := idOf (b.get? "CPU implementer")
      part := idOf (b.get? "CPU part"), features := Text.words ((b.get? "Features").getD "") }
  else { architecture }

end CpuTable

/-- Whether two optional document values are both absent or equal. -/
def sameOption : Option Value → Option Value → Bool
  | none, none => true
  | some a, some b => a.same b
  | _, _ => false

/-- Whether two CPUs agree on every field. -/
def Cpu.sameAs (a b : Cpu) : Bool :=
  a.architecture == b.architecture && sameOption a.manufacturer b.manufacturer &&
    a.flags == b.flags && a.implementer == b.implementer && a.part == b.part &&
    a.features == b.features

/-- Keeps the first of equal CPUs, in order. -/
def distinctCpus (cpus : List Cpu) : List Cpu :=
  cpus.foldl (fun acc c => if acc.any (·.sameAs c) then acc else acc ++ [c]) []

/-- The distinct CPUs a CPU table lists for a machine name. -/
def cpusOfTable (text machine : String) : Except DetectionError (List Cpu) :=
  let architecture := architectureOf machine
  let cpus := distinctCpus (((CpuTable.blocks text).filter fun b => (b.get? "processor").isSome).map
    (CpuTable.cpuOf architecture))
  if cpus.isEmpty then .error .noProcessors else .ok cpus

end EngineFit
