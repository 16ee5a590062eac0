import EngineFit.Manifest.Parse
import EngineFit.Yaml.Document
import EngineFit.Text.Blank

/-!
# Manifests written as YAML

A manifest file is a YAML document. Its text is stripped of surrounding blanks first; an empty
text is the empty manifest. A text that is no YAML document is rejected as undecodable, under
the label of its source or expected name. A scalar that denotes no value (an impossible date,
say) is reported as such, not as a manifest problem.
-/

namespace EngineFit

/-- Reads a manifest from YAML text, running at call level `level` (`Calls`); `expected` and
`source` are as for `Manifest.parse`. -/
def Manifest.ofText (level : Nat) (text : String) (expected source : Option String := none) :
    Except (Yaml.TextError ManifestError) Manifest :=
  let label := manifestLabel .null expected source
  let body := Text.strip text
  if body.isEmpty then .error (.rejected ⟨label, .empty⟩)
  else
    match Yaml.read (roomAbove level) body with
    | .ok doc =>
      match Manifest.parse doc expected source with
      | .ok m => .ok m
      | .error e => .error (.rejected e)
    | .error (.fault _) => .error (.rejected ⟨label, .undecodable⟩)
    | .error (.scalar e) => .error (.scalar e)

end EngineFit
