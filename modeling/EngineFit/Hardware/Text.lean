import EngineFit.Hardware.Parse
import EngineFit.Yaml.Document

/-!
# Snapshots written as YAML

A snapshot document is YAML (JSON included). A text that is no YAML document is rejected as
undecodable; an empty text is the empty snapshot. A scalar that denotes no value is reported as
such, not as a snapshot problem.
-/

namespace EngineFit

/-- Reads a snapshot from YAML text, running at call level `level` (`Calls`). -/
def Snapshot.ofText (level : Nat) (text : String) : Except (Yaml.TextError SnapshotError) Snapshot :=
  match Yaml.read (roomAbove level) text with
  | .ok doc =>
    match Snapshot.parse doc with
    | .ok s => .ok s
    | .error e => .error (.rejected e)
  | .error (.fault _) => .error (.rejected ⟨none, .undecodable⟩)
  | .error (.scalar e) => .error (.scalar e)

end EngineFit
