import EngineFit.Manifest.Text
import EngineFit.Files.Text

/-!
# The engine catalog

Engines are described by manifests kept in an engines directory, one directory per engine
holding a file `engine.yaml`; the directory's name is the engine's name, and the manifest must
declare it.

* `loadCatalog` reads every engine directory, in code-point order of the names; plain files
  beside them are ignored. A directory without a manifest file, a manifest that cannot be read
  and a rejected manifest each fail the whole catalog, so that a broken engine is never left
  out unnoticed.
* `loadEngine` reads the manifest of one engine by name.
* `checkManifestFile` reads one manifest file by its path, which must end in `engine.yaml`.

Manifest files are UTF-8 text; their line ends are read as line feeds. Messages name a file by
its normalised path.
-/

namespace EngineFit

/-- The name of a manifest file. -/
def manifestFileName : String := "engine.yaml"

/-- Why engine manifests could not be loaded. -/
inductive CatalogError where
  /-- The engines directory cannot be listed. -/
  | unlisted (dir : String) (e : OsError)
  /-- An engine directory has no manifest file. -/
  | noManifestFile (path : String)
  /-- A manifest file cannot be read as text. -/
  | unreadable (path : String) (fault : TextFault)
  /-- No manifest exists for a requested engine. -/
  | notFound (name path : String)
  /-- A manifest is rejected. -/
  | invalid (e : ManifestError)
  /-- A scalar of a manifest denotes no value. -/
  | scalar (e : Yaml.ScalarError)

/-- The wording of a catalog error. -/
def CatalogError.message : CatalogError → String
  | .unlisted d e => d ++ ": cannot list engines: " ++ e.text
  | .noManifestFile p => p ++ ": manifest file does not exist"
  | .unreadable p f => p ++ ": error reading file: " ++ f.message p
  | .notFound n p => "engine manifest not found: " ++ n ++ " (" ++ p ++ ")"
  | .invalid e => e.message
  | .scalar e => e.message

/-- The wording of a catalog error without the path of the file or directory it concerns. -/
def CatalogError.detail : CatalogError → String
  | .unlisted _ e => "cannot list engines: " ++ e.text
  | .noManifestFile _ => "manifest file does not exist"
  | .unreadable p f => "error reading file: " ++ f.message p
  | .notFound n p => "engine manifest not found: " ++ n ++ " (" ++ p ++ ")"
  | .invalid e => e.problem.message
  | .scalar e => e.message

/-- Reads the manifest file at a path, which must declare the expected name, for a caller at
call level `level` (`Calls`). -/
def manifestAt (level : Nat) (t : FileTree) (path : PathName) (expected : String) :
    Except CatalogError Manifest :=
  match t.readText path with
  | .error f => .error (.unreadable path.toText f)
  | .ok text =>
    match Manifest.ofText (level + 1) text (some expected) (some path.toText) with
    | .ok m => .ok m
    | .error (.rejected e) => .error (.invalid e)
    | .error (.scalar e) => .error (.scalar e)

/-- Reads the manifest of each engine directory in a directory, in code-point order of the
names, at call level `level`. -/
def loadCatalog (level : Nat) (t : FileTree) (dir : String) : Except CatalogError (List Manifest) := do
  let d := PathName.ofString dir
  let names ← match t.list d with
    | .ok ns => pure ns
    | .error e => throw (.unlisted d.toText e)
  let engines := (names.mergeSort fun a b => decide (a ≤ b)).filter fun n =>
    t.isDirectory (d.push n)
  engines.mapM fun n =>
    let path := (d.push n).push manifestFileName
    if t.isFile path then manifestAt level t path n else throw (.noManifestFile path.toText)

/-- Reads the manifest of one engine, by name, at call level `level`. -/
def loadEngine (level : Nat) (t : FileTree) (dir name : String) : Except CatalogError Manifest :=
  let path := ((PathName.ofString dir).child name).child manifestFileName
  if t.isFile path then manifestAt level t path name else .error (.notFound name path.toText)

/-- Reads one manifest file by its path, at call level `level`; the manifest must declare the
name of the directory that holds the file. -/
def checkManifestFile (level : Nat) (t : FileTree) (path : String) : Except CatalogError Manifest :=
  let p := PathName.ofString path
  if p.name != manifestFileName then .error (.invalid ⟨some p.toText, .misnamedFile⟩)
  else if !t.isFile p then .error (.invalid ⟨some p.toText, .missingFile⟩)
  else manifestAt level t p p.parent.name

end EngineFit
