import EngineFit.Match.Device
import EngineFit.Manifest.Basic

/-!
# Scoring an engine against a machine

An engine's score adds up what it needs and the machine has: enough memory and swap, enough
space where snaps are stored, every device of its all-of group, and the matched devices of its
any-of group. Any issue makes the score 0, and the issues say why.

An engine that needs memory on a machine whose memory was not measured, or disk space at a path
the snapshot does not cover, is not scored at all: "not measured" never counts as "too small".
-/

namespace EngineFit

/-- A figure the machine's snapshot lacks. -/
inductive MissingMeasurement where
  | memory
  | disk
deriving DecidableEq, Repr

/-- The wording of a missing figure. -/
def MissingMeasurement.message : MissingMeasurement → String
  | .memory => "total memory not reported by host system"
  | .disk => "disk space not reported by host system"

/-- Why a batch of engines could not be scored. -/
inductive ScoreError where
  /-- An engine needs a figure the snapshot lacks. -/
  | missing (m : MissingMeasurement)
  /-- The storage path is a list or a mapping, named by its kind: neither can be a key. -/
  | unhashablePath (kind : String)
  /-- A connection check broke down, or an issue could not be written. -/
  | broken (b : Breakdown)
deriving DecidableEq

/-- The wording of a scoring error. -/
def ScoreError.message : ScoreError → String
  | .missing m => m.message
  | .unhashablePath k => "unhashable type: '" ++ k ++ "'"
  | .broken b => b.message

/-- A breakdown of matching as a scoring error. -/
def liftBreakdown {α : Type} : Except Breakdown α → Except ScoreError α
  | .ok a => .ok a
  | .error b => .error (.broken b)

/-- The disk entry a storage path names. Disk entries are keyed by text, so a path of any
other kind names none; a list or mapping cannot be looked up at all. -/
def diskAt (s : Snapshot) : Value → Except ScoreError (Option DiskSpace)
  | .str p => .ok ((s.disk.find? (·.1 == p)).map (·.2))
  | .list _ => .error (.unhashablePath "list")
  | .dict _ => .error (.unhashablePath "dict")
  | _ => .ok none

/-- Every requirement must match: the sum of their scores, or the issues of each unmatched
requirement followed by its summary line. -/
def checkAllOf (s : Snapshot) (rs : List Requirement) (conns : Connections) :
    Except Breakdown (Nat × List String) := do
  let step := fun (acc : Nat × List String) (r : Requirement) => do
    let o ← r.matchOn s conns
    if o.matched then pure (acc.1 + o.score, acc.2)
    else pure (acc.1, acc.2 ++ o.issues ++ [r.summary])
  let (score, issues) ← rs.foldlM step (0, [])
  if issues.isEmpty then pure (score, []) else pure (0, issues)

/-- Some requirement must match: the sum of the matched scores. With none matched, the issues
of all alternatives and a closing line; a USB alternative, which never matches, fails the group
with its issues even when another alternative matched. -/
def checkAnyOf (s : Snapshot) (rs : List Requirement) (conns : Connections) :
    Except Breakdown (Nat × List String) := do
  let outcomes ← rs.mapM fun r => do pure (r, ← r.matchOn s conns)
  let found := (outcomes.filter (·.2.matched)).length
  let score := ((outcomes.filter (·.2.matched)).map (·.2.score)).foldl (· + ·) 0
  let unmatched := ((outcomes.filter (!·.2.matched)).map (·.2.issues)).flatten
  let unsupported :=
    ((outcomes.filter (fun p => !p.2.matched && p.1.isUsb)).map (·.2.issues)).flatten
  if !rs.isEmpty && found == 0 then pure (0, unmatched ++ ["required device not found"])
  else if !unsupported.isEmpty then pure (0, unsupported)
  else pure (score, [])

/-- The memory check: nothing when the engine needs no memory; a missing figure when the
machine's memory was not measured; otherwise one point when memory and swap together reach
what the engine needs, and the issue when they do not. -/
def checkMemory (s : Snapshot) (m : Manifest) : Except ScoreError (Nat × List String) :=
  match m.memory with
  | none => pure (0, [])
  | some need =>
    if s.memory.ram == 0 then throw (.missing .memory)
    else if s.memory.ram + s.memory.swap < need.bytes then pure (0, ["host system memory too small"])
    else pure (weights.memory, [])

/-- The disk check: nothing when the engine needs no disk space; a missing figure when the
snapshot has no entry at the storage path, which is looked up only here; otherwise one point
when the space available there reaches what the engine needs, and the issue when it does
not. -/
def checkDisk (s : Snapshot) (m : Manifest) (storage : Value) :
    Except ScoreError (Nat × List String) :=
  match m.diskSpace with
  | none => pure (0, [])
  | some need => do
    match ← diskAt s storage with
    | none => throw (.missing .disk)
    | some d =>
      if d.avail < need.bytes then pure (0, ["host system disk space too small"])
      else pure (weights.disk, [])

/-- A device group checked by `check`, or nothing when the group is empty. -/
def checkGroup (check : Snapshot → List Requirement → Connections → Except Breakdown (Nat × List String))
    (s : Snapshot) (rs : List Requirement) (conns : Connections) :
    Except ScoreError (Nat × List String) :=
  if rs.isEmpty then pure (0, []) else liftBreakdown (check s rs conns)

/-- Scores one engine against a machine: its score and issues, or why it cannot be scored. -/
def checkEngine (s : Snapshot) (m : Manifest) (conns : Connections)
    (storage : Value := .str defaultStoragePath) :
    Except ScoreError (Nat × List String) := do
  let memory ← checkMemory s m
  let disk ← checkDisk s m storage
  let all ← checkGroup checkAllOf s m.allOf conns
  let any ← checkGroup checkAnyOf s m.anyOf conns
  let issues := memory.2 ++ disk.2 ++ all.2 ++ any.2
  if issues.isEmpty then pure (memory.1 + disk.1 + all.1 + any.1, []) else pure (0, issues)

/-- Scores every engine, in order; fails on the first engine that cannot be scored. -/
def scoreEngines (s : Snapshot) (ms : List Manifest) (conns : Connections)
    (storage : Value := .str defaultStoragePath) : Except ScoreError (List Scored) :=
  ms.mapM fun m => do
    let (score, issues) ← checkEngine s m conns storage
    pure { manifest := m, score := .whole score, issues }

end EngineFit
