import EngineFit.Toolbox
import EngineFit.Match.Basic

/-!
# Snap connections

A device may need snap connections (driver and permission gates). `snapctl is-connected NAME`
answers with its exit status: 0 connected, 1 not connected. Any other status, a missing or
unrunnable `snapctl`, or a `snapctl` that takes ten seconds or more, leaves the answer unknown,
and the check fails with the reason. A name that cannot be passed to a program at all (a
surrogate or a null byte in it), or output that is not UTF-8, breaks the check down.
-/

namespace EngineFit

/-- The time `snapctl` may take. -/
def snapctlLimit : TimeLimit := .seconds 10

/-- Asks `snapctl` whether a connection is in place. -/
def snapConnection (tb : Toolbox) : Connections := fun name =>
  match tb.status ["snapctl", "is-connected", name] snapctlLimit with
  | .error .noProgram | .error (.notFound _) =>
    .error (.unknown "snapctl not found, not running inside a snap")
  | .error (.timedOut _ _) => .error (.unknown "snapctl timed out after 10s")
  | .error (e@(.notRunnable _)) => .error (.unknown ("cannot run snapctl: " ++ e.message))
  | .error e => .error (.broken ⟨e.kind, e.message⟩)
  | .ok 0 => .ok true
  | .ok 1 => .ok false
  | .ok n => .error (.unknown ("snapctl exited with status " ++ toString n))

end EngineFit
