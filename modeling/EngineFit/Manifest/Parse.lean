import EngineFit.Manifest.Basic
import EngineFit.Requirement.Parse

/-!
# Reading a manifest

A manifest document is a non-empty mapping over the nine manifest fields. `name`,
`description`, `vendor` and `grade` are set texts, the grade `stable` or `devel`; `name` must
equal the engine's directory name when one is given. `memory` and `disk-space` are sizes when
present. `components` is a list of texts and `configurations` a mapping of scalars (both may be
left unset). `devices` holds the groups `allof` and `anyof`, lists of requirements.

The checks run in the order just given and the first failure is reported, prefixed with a label
that names the manifest: its file, its directory name, or else its declared name. Configuration
keys are written as text last, after the devices are read; an integer key too long to write is
no rejection of the document but a failure of its own, which carries no label.
-/

namespace EngineFit

/-- Why a manifest is rejected. -/
inductive ManifestProblem where
  | empty
  | notMapping
  | unknownField (key : Value)
  | notSet (field : String)
  | notText (field : String)
  | nameMismatch (expected name : String)
  | badGrade
  | badMemory (e : UnitError)
  | badDiskSpace (e : UnitError)
  | componentsNotTexts
  | configurationsNotMapping
  | notPrimitive (key v : Value)
  | devicesNotMapping
  | unknownGroup (key : Value)
  | groupNotList (group : String)
  | badDevice (group : String) (index count : Nat) (e : DeviceError)
  | undecodable
  /-- A manifest file under another name than `engine.yaml`. -/
  | misnamedFile
  /-- A manifest file that does not exist. -/
  | missingFile
  /-- A configuration key that is an integer too long to write as text. -/
  | tooLong (e : Number.DigitLimit)
deriving Inhabited

/-- The wording of a manifest problem. -/
def ManifestProblem.message : ManifestProblem → String
  | .empty => "empty yaml data"
  | .notMapping => "manifest must be a mapping"
  | .unknownField k => "unknown field: " ++ k.plain
  | .notSet f => "required field is not set: " ++ f
  | .notText f => "field " ++ f ++ " must be a string"
  | .nameMismatch e n => "engine directory name should match name in manifest: " ++ e ++ " != " ++ n
  | .badGrade => "grade should be 'stable' or 'devel'"
  | .badMemory e => "error parsing memory: " ++ e.message
  | .badDiskSpace e => "error parsing disk space: " ++ e.message
  | .componentsNotTexts => "components must be a list of strings"
  | .configurationsNotMapping => "configurations must be a mapping"
  | .notPrimitive k v => "configuration field " ++ k.plain ++ " is not a primitive value: " ++ v.literal
  | .devicesNotMapping => "devices must be a mapping"
  | .unknownGroup k => "unknown field: devices." ++ k.plain
  | .groupNotList g => "devices." ++ g ++ " must be a list"
  | .badDevice g i n e => "invalid device: " ++ g ++ " " ++ toString i ++ "/" ++ toString n ++ ": " ++ e.message
  | .undecodable => "error decoding"
  | .misnamedFile => "manifest file must be called engine.yaml"
  | .missingFile => "manifest file does not exist"
  | .tooLong e => e.message

/-- A rejected manifest: the problem, and the label of the manifest when there is one. -/
structure ManifestError where
  label : Option String
  problem : ManifestProblem
deriving Inhabited

/-- Whether the error rejects the manifest; the other errors are keys too long to write. -/
def ManifestError.isRejection (e : ManifestError) : Bool :=
  match e.problem with
  | .tooLong _ => false
  | _ => true

/-- The full message: `label: problem`, or the problem alone; a failure that rejects nothing
has no label. -/
def ManifestError.message (e : ManifestError) : String :=
  match e.label with
  | some l => if e.isRejection then l ++ ": " ++ e.problem.message else e.problem.message
  | none => e.problem.message

/-- The top-level fields of a manifest. -/
def manifestFields : List String :=
  ["name", "description", "vendor", "grade", "devices", "memory", "disk-space", "components",
   "configurations"]

/-- Whether a key names a manifest field. -/
def isManifestField : Value → Bool
  | .str key => manifestFields.contains key
  | _ => false

/-- A required text field. -/
def requiredText (doc : Value) (field : String) : Except ManifestProblem String :=
  match doc.getD field with
  | .str s => if s.isEmpty then .error (.notSet field) else .ok s
  | v => if !v.isSet then .error (.notSet field) else .error (.notText field)

/-- An optional size field: its text and its bytes. The text is taken first, so a number too
long to write fails before it is read as a size. -/
def sizeField (doc : Value) (field : String) (wrap : UnitError → ManifestProblem) :
    Except ManifestProblem (Option Size) :=
  match doc.getD field with
  | .null => .ok none
  | v =>
    match v.plainChecked with
    | .error e => .error (wrap (.digits e))
    | .ok text =>
      match parseSize v with
      | .ok n => .ok (some ⟨text, n⟩)
      | .error e => .error (wrap e)

/-- Writes `v` under the text key `k`, keeping the place of an earlier equal key. -/
def insertText (kvs : List (String × Value)) (k : String) (v : Value) : List (String × Value) :=
  if kvs.any (·.1 == k) then kvs.map fun p => if p.1 == k then (k, v) else p
  else kvs ++ [(k, v)]

/-- Reads the requirements of one group; an unset group is empty. -/
def parseGroup (doc : Value) (group : String) : Except ManifestProblem (List Requirement) := do
  let v := doc.getD group
  let items ← if !v.truthy then pure []
    else match v.view with
      | .list xs => pure xs
      | _ => throw (.groupNotList group)
  let n := items.length
  items.zipIdx.mapM fun (d, i) =>
    match Requirement.parse d with
    | .ok r => .ok r
    | .error e => .error (.badDevice group (i + 1) n e)

/-- Whether a key names a device group. -/
def isGroupField (k : Value) : Bool :=
  k.same (.str "allof") || k.same (.str "anyof")

/-- Reads the `devices` field: both groups, `allof` first. -/
def parseDevices (v : Value) : Except ManifestProblem (List Requirement × List Requirement) :=
  match v.view with
  | .null => pure ([], [])
  | _ => do
    checkKeys v isGroupField .devicesNotMapping .unknownGroup
    let allOf ← parseGroup v "allof"
    let anyOf ← parseGroup v "anyof"
    pure (allOf, anyOf)

/-- Checks that a manifest document is a non-empty mapping whose keys are manifest fields. -/
def checkManifestKeys (doc : Value) : Except ManifestProblem Unit :=
  if !doc.isSet then .error .empty
  else checkKeys doc isManifestField .notMapping .unknownField

/-- Checks the declared name against the expected one, when one is given and not empty. -/
def checkName (expected : Option String) (name : String) : Except ManifestProblem Unit :=
  match expected with
  | some e => if !e.isEmpty && name != e then .error (.nameMismatch e name) else .ok ()
  | none => .ok ()

/-- The grade a grade text names. -/
def gradeField (text : String) : Except ManifestProblem Grade :=
  match text with
  | "stable" => .ok .stable
  | "devel" => .ok .devel
  | _ => .error .badGrade

/-- The components, a list of texts; a falsy value lists none. -/
def componentsField (v : Value) : Except ManifestProblem (List String) :=
  if !v.truthy then .ok []
  else
    match v.view with
    | .list xs => xs.mapM fun
      | .str s => .ok s
      | _ => .error .componentsNotTexts
    | _ => .error .componentsNotTexts

/-- The configuration entries, a mapping of scalars; a falsy value holds none. -/
def configEntries (v : Value) : Except ManifestProblem (List (Value × Value)) := do
  let entries ← if !v.truthy then pure []
    else match v.view with
      | .dict entries => pure entries
      | _ => throw .configurationsNotMapping
  match entries.find? (fun p => !isPrimitive p.2) with
  | some (k, v) => throw (.notPrimitive k v)
  | none => pure entries

/-- The configurations under their keys written as text; keys written alike are one key, with
the last value in the place of the first. -/
def configTexts (entries : List (Value × Value)) : Except ManifestProblem (List (String × Value)) :=
  entries.foldlM (fun acc (k, v) =>
    match k.plainChecked with
    | .ok key => .ok (insertText acc key v)
    | .error e => .error (.tooLong e)) []

/-- Checks a manifest document and builds the manifest. The configuration keys are written as
text only after the devices are read. -/
def buildManifest (doc : Value) (expected : Option String) : Except ManifestProblem Manifest := do
  checkManifestKeys doc
  let name ← requiredText doc "name"
  checkName expected name
  let description ← requiredText doc "description"
  let vendor ← requiredText doc "vendor"
  let grade ← gradeField (← requiredText doc "grade")
  let memory ← sizeField doc "memory" .badMemory
  let diskSpace ← sizeField doc "disk-space" .badDiskSpace
  let components ← componentsField (doc.getD "components")
  let entries ← configEntries (doc.getD "configurations")
  let groups ← parseDevices (doc.getD "devices")
  let configurations ← configTexts entries
  pure { name, description, vendor, grade, allOf := groups.1, anyOf := groups.2, memory,
         diskSpace, components, configurations }

/-- The label of a manifest in messages: the first truthy of its source, its expected name,
and its declared name. -/
def manifestLabel (doc : Value) (expected source : Option String) : Option String :=
  let pick : Option String → Option String := fun
    | some s => if s.isEmpty then none else some s
    | none => none
  match pick source, pick expected with
  | some s, _ => some s
  | none, some e => some e
  | none, none =>
    let n := doc.getD "name"
    if n.truthy then some n.plain else none

/-- Reads a manifest document; `expected` is the directory name the manifest must declare,
`source` names the manifest in messages. -/
def Manifest.parse (doc : Value) (expected source : Option String := none) :
    Except ManifestError Manifest :=
  match buildManifest doc expected with
  | .ok m => .ok m
  | .error p => .error ⟨manifestLabel doc expected source, p⟩

end EngineFit
