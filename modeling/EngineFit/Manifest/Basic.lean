import EngineFit.Requirement.Basic

/-!
# Engine manifests

A manifest describes one engine: its name, description, vendor and grade, the devices it needs
(all of one group, at least one of another), the memory and disk space it needs, the
components it installs and the configuration values it sets. Sizes keep the text they were
written with beside their number of bytes.

`Manifest.toValue` writes a manifest back as a document with its fields in a fixed order;
device groups and sizes appear only when present.
-/

namespace EngineFit

/-- How mature an engine is. Only stable engines are chosen automatically. -/
inductive Grade where
  | stable
  | devel
deriving DecidableEq, Repr

/-- The name of a grade in documents. -/
def Grade.name : Grade → String
  | .stable => "stable"
  | .devel => "devel"

/-- The grade named by a document value; anything but the two names is refused with the
value's literal form. -/
def Grade.ofValue : Value → Except String Grade
  | .str "stable" => .ok .stable
  | .str "devel" => .ok .devel
  | v => .error s!"{v.literal} is not a valid Grade"

/-- A size as written in a manifest, with its number of bytes. -/
structure Size where
  text : String
  bytes : Nat
deriving DecidableEq, Repr

/-- An engine manifest. -/
structure Manifest where
  name : String
  description : String
  vendor : String
  grade : Grade
  allOf : List Requirement := []
  anyOf : List Requirement := []
  memory : Option Size := none
  diskSpace : Option Size := none
  components : List String := []
  configurations : List (String × Value) := []

namespace Manifest

/-- Whether the engine is stable. -/
def isStable (m : Manifest) : Bool :=
  m.grade == .stable

/-- Number of device requirements in both groups. -/
def deviceCount (m : Manifest) : Nat :=
  m.allOf.length + m.anyOf.length

/-- The device groups as a document: each group only when it is not empty. -/
def devicesValue (m : Manifest) : Value :=
  Value.obj <|
    (if m.allOf.isEmpty then [] else [("allof", .list (m.allOf.map Requirement.toValue))]) ++
    (if m.anyOf.isEmpty then [] else [("anyof", .list (m.anyOf.map Requirement.toValue))])

/-- The manifest as a document. -/
def toValue (m : Manifest) : Value :=
  Value.obj <|
    [("name", .str m.name), ("description", .str m.description), ("vendor", .str m.vendor),
     ("grade", .str m.grade.name), ("devices", m.devicesValue)] ++
    optEntry "memory" (fun s => .str s.text) m.memory ++
    optEntry "disk-space" (fun s => .str s.text) m.diskSpace ++
    [("components", .list (m.components.map .str)),
     ("configurations", Value.obj m.configurations)]

end Manifest

/-- A score. Scoring a manifest always gives a whole number, but ranking accepts any number:
a fraction, a boolean (0 or 1) or a double that is NaN, which is neither above, below nor
equal to anything. -/
inductive Score where
  | whole (n : Int)
  | real (x : Float)
  | truth (b : Bool)
deriving Inhabited

namespace Score

/-- The score as a document number. -/
def toValue : Score → Value
  | .whole n => .int n
  | .real x => .float x
  | .truth b => .bool b

/-- The score a document number stands for; `none` for anything that is not a number. -/
def ofValue? : Value → Option Score
  | .int n => some (.whole n)
  | .float x => some (.real x)
  | .bool b => some (.truth b)
  | _ => none

/-- How two scores compare as numbers; `none` when either is NaN. -/
def compare? (a b : Score) : Option Ordering := Value.numCompare a.toValue b.toValue

/-- Whether `a` is below `b`. -/
def lt (a b : Score) : Bool := compare? a b == some .lt

/-- Whether `a` equals `b` as a number; NaN equals nothing, itself included. -/
def eq (a b : Score) : Bool := compare? a b == some .eq

/-- Whether the score is above zero. -/
def positive (s : Score) : Bool := lt (.whole 0) s

/-- The score negated; a boolean becomes the whole number 0 or -1. -/
def neg : Score → Score
  | .whole n => .whole (-n)
  | .real x => .real (-x)
  | .truth b => .whole (if b then -1 else 0)

/-- The score as text: digits, a double's shortest form, or a boolean's name. -/
def text (s : Score) : String := s.toValue.plain

end Score

/-- A manifest with its score against one machine: zero means incompatible, and the issues
say why. -/
structure Scored where
  manifest : Manifest
  score : Score := .whole 0
  issues : List String := []

namespace Scored

/-- The engine's name. -/
def name (s : Scored) : String := s.manifest.name

/-- Whether the engine fits the machine. -/
def compatible (s : Scored) : Bool := s.score.positive

/-- The scored manifest as a document: the manifest, its score, whether it fits, and its
issues when there are any. -/
def toValue (s : Scored) : Value :=
  match s.manifest.toValue with
  | .dict kvs =>
    .dict (kvs ++ [(.str "score", s.score.toValue), (.str "compatible", .bool s.compatible)] ++
      (if s.issues.isEmpty then [] else [(.str "compatibility-issues", .list (s.issues.map .str))]))
  | v => v

end Scored

end EngineFit
