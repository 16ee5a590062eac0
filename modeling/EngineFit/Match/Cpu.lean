import EngineFit.Match.Basic

/-!
# Matching CPU requirements

Each CPU of the machine is checked on its own; several CPUs are alternatives, not added
capacity, so a requirement scores its best CPU. A CPU of another architecture fails with that
reason alone. Otherwise every mismatch is reported: the manufacturer (x86-64), or the
implementer and the part number (ARM64), then each missing flag or feature. A CPU with no
issue scores the base weight plus its extras.
-/

namespace EngineFit

/-- Lower-case hexadecimal of an id without `0x`, or `unknown` when the CPU has none. -/
def idText : Option Int → String
  | none => "unknown"
  | some n => (if n < 0 then "-" else "") ++ Value.hexDigits 1 n.natAbs

/-- The manufacturer check of an x86-64 CPU: the vendor weight when the CPU's manufacturer is
the required one, and otherwise the issue that shows the CPU's manufacturer as text (`None`
when it has none). Showing a manufacturer that holds an integer too long to write breaks the
matching down. -/
def checkManufacturer (need : Option String) (found : Option Value) :
    Except Breakdown (Nat × List String) :=
  match need, found with
  | none, _ => .ok (0, [])
  | some _, none => .ok (0, ["manufacturer id mismatch: None"])
  | some m, some v =>
    if v.same (.str m) then .ok (weights.cpuVendor, [])
    else
      match v.plainChecked with
      | .ok t => .ok (0, ["manufacturer id mismatch: " ++ t])
      | .error e => .error (.digits e)

/-- Extras and issues of an x86-64 CPU: the manufacturer, then each required flag. -/
def checkAmd64 (need : Amd64Need) (cpu : Cpu) : Except Breakdown (Nat × List String) :=
  let flagScore := (need.flags.filter (cpu.flags.contains ·)).length * weights.cpuFlag
  let flagIssues := (need.flags.filter (!cpu.flags.contains ·)).map fun f => "flag " ++ f ++ " missing"
  (checkManufacturer need.manufacturer cpu.manufacturer).map fun (vendorScore, vendorIssues) =>
    (vendorScore + flagScore, vendorIssues ++ flagIssues)

/-- Extras and issues of an ARM64 CPU. -/
def checkArm64 (need : Arm64Need) (cpu : Cpu) : Nat × List String :=
  let (implScore, implIssues) : Nat × List String :=
    match need.implementer with
    | none => (0, [])
    | some i => if cpu.implementer == some (i : Int) then (weights.cpuVendor, [])
        else (0, ["implementer id mismatch: " ++ idText cpu.implementer])
  let (partScore, partIssues) : Nat × List String :=
    match need.part with
    | none => (0, [])
    | some p => if cpu.part == some (p : Int) then (weights.cpuModel, [])
        else (0, ["part number mismatch: " ++ idText cpu.part])
  let featureScore := (need.features.filter (cpu.features.contains ·)).length * weights.cpuFlag
  let featureIssues :=
    (need.features.filter (!cpu.features.contains ·)).map fun f => "feature not found: " ++ f
  (implScore + partScore + featureScore, implIssues ++ partIssues ++ featureIssues)

/-- A CPU requirement: its architecture and its checks. -/
inductive CpuNeed where
  | amd64 (need : Amd64Need)
  | arm64 (need : Arm64Need)

/-- The architecture a CPU requirement names. -/
def CpuNeed.architecture : CpuNeed → String
  | .amd64 _ => "amd64"
  | .arm64 _ => "arm64"

/-- Scores one CPU: zero with the issues, or the base weight plus extras. -/
def checkCpu (need : CpuNeed) (cpu : Cpu) : Except Breakdown (Nat × List String) :=
  if need.architecture != cpu.architecture then .ok (0, ["architecture not " ++ need.architecture])
  else
    let checked := match need with
      | .amd64 r => checkAmd64 r cpu
      | .arm64 r => .ok (checkArm64 r cpu)
    checked.map fun (extra, issues) =>
      if issues.isEmpty then (weights.cpuDevice + extra, []) else (0, issues)

/-- The outcome after one more CPU, the one at index `i` of `n`, scored `checked`: a CPU with no
issue is matched and may raise the best score; the issues of another are added, under its
index when there is more than one CPU. -/
def Outcome.addCpu (acc : Outcome) (n i : Nat) (checked : Nat × List String) : Outcome :=
  let (score, issues) := checked
  if issues.isEmpty then { acc with matched := true, score := max acc.score score }
  else
    let shown := if n > 1 then issues.map (fun s => "cpu " ++ toString i ++ ": " ++ s) else issues
    { acc with issues := acc.issues ++ shown }

/-- Matches a CPU requirement against all CPUs of the machine, in order; issues name the CPU's
index when there is more than one. A CPU whose issue cannot be written stops the matching. -/
def matchCpu (need : CpuNeed) (cpus : List Cpu) : Except Breakdown Outcome :=
  if cpus.isEmpty then .ok (.failed ["no cpu found on host system"])
  else
    cpus.zipIdx.foldlM (fun acc (cpu, i) => (checkCpu need cpu).map (acc.addCpu cpus.length i)) {}

end EngineFit
