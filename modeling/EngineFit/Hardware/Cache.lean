import EngineFit.Hardware.Parse
import EngineFit.Files.Text
import EngineFit.Json.Read
import EngineFit.Json.Write

/-!
# The snapshot cache

Probing a machine is slow, so its snapshot is kept in a file and reused. The cache of a key
is the file `machine-info-<key>.json` in a cache directory, holding the snapshot as indented
JSON (`Snapshot.toValue`); a different key, as after an upgrade, misses and leads to a new
probe. The key defaults to the package version.

* Loading gives the cached snapshot, or nothing when the file is missing, cannot be read,
  holds no JSON or no valid snapshot.
* Saving writes the file, making the cache directory; a failure to make the directory or open
  the file is ignored, since the cache is optional, but a snapshot with no JSON form fails the
  saving, and the file keeps what was written before the fault.
* Getting loads, and on a miss runs the probe and saves its snapshot; with no probe a miss is
  an error.
* Invalidating removes the file, and says whether there was one.
-/

namespace EngineFit

/-- Why a probe gave no snapshot. -/
inductive ProbeFailure where
  /-- A measurement failed. -/
  | detection (e : DetectionError)
  /-- The probe's snapshot is invalid. -/
  | invalid (e : SnapshotError)

/-- The wording of a probe failure. -/
def ProbeFailure.message : ProbeFailure → String
  | .detection e => e.message
  | .invalid e => e.message

/-- Why a snapshot could not be had from the cache. -/
inductive CacheError where
  /-- A miss, and no probe to ask. -/
  | noProbe
  /-- The probe failed. -/
  | probe (e : ProbeFailure)
  /-- The cache file is no UTF-8 text. -/
  | encoding (e : Text.Utf8Error)
  /-- The file system refused to remove the cache file. -/
  | os (e : OsError) (path : String)
  /-- The cache file is JSON beyond what the reader reads: the reader's fault. -/
  | beyondReader (f : Json.Fault)
  /-- The probe's snapshot has no JSON form. -/
  | unwritable (e : Json.DumpError)

/-- The wording of a cache error. -/
def CacheError.message : CacheError → String
  | .noProbe => "no cached hardware snapshot and no probe configured"
  | .probe e => e.message
  | .encoding e => e.message
  | .os e p => e.message p
  | .beyondReader f => f.text
  | .unwritable e => e.message

/-- The version of the package, the default cache key. -/
def packageVersion : String := "0.1.0"

/-- The cache of one snapshot: its directory and its key. -/
structure SnapshotCache where
  dir : PathName
  key : String

namespace SnapshotCache

/-- A cache in a directory under a key; an empty key is the package version. -/
def ofKey (dir : PathName) (key : String) : SnapshotCache :=
  { dir, key := if key.isEmpty then packageVersion else key }

/-- The path of the cache file. -/
def path (c : SnapshotCache) : PathName := c.dir.child ("machine-info-" ++ c.key ++ ".json")

/-- The cached snapshot, if the file holds a valid one, looked up at call level `level`
(`Calls`); the file's text is read one level deeper. -/
def load (c : SnapshotCache) (level : Nat) (files : FileTree) : Except CacheError (Option Snapshot) :=
  if !files.holds c.path then .ok none
  else
    match files.readText c.path with
    | .error (.encoding e) => .error (.encoding e)
    | .error (.os _) => .ok none
    | .ok text =>
      match Json.read (roomAbove (level + 1)) text with
      | .error e => if e.fault.isSyntax then .ok none else .error (.beyondReader e.fault)
      | .ok doc =>
        match Snapshot.parse doc with
        | .ok s => .ok (some s)
        | .error e => if e.isRejection then .ok none else .error (.probe (.invalid e))

/-- Writes a snapshot to the cache file. A directory that cannot be made or a file that cannot
be opened is ignored; a snapshot with no JSON form leaves in the file what was written before
its fault, which is returned. -/
def save (c : SnapshotCache) (files : FileTree) (s : Snapshot) : FileTree × Option Json.DumpError :=
  match files.makeDirectories c.dir with
  | .error _ => (files, none)
  | .ok made =>
    let (text, fault) := Json.emit 2 0 s.toValue
    match made.write c.path (Text.utf8Bytes text) with
    | .ok written => (written, fault)
    | .error _ => (made, none)

/-- The cached snapshot, or on a miss the probe's, which is then saved; also whether the probe
ran. The cache is looked up one call level below `level`. -/
def get (c : SnapshotCache) (level : Nat) (files : FileTree)
    (probe : Option (Except ProbeFailure Snapshot)) : FileTree × Bool × Except CacheError Snapshot :=
  match c.load (level + 1) files with
  | .error e => (files, false, .error e)
  | .ok (some s) => (files, false, .ok s)
  | .ok none =>
    match probe with
    | none => (files, false, .error .noProbe)
    | some (.error e) => (files, true, .error (.probe e))
    | some (.ok s) =>
      match c.save files s with
      | (saved, none) => (saved, true, .ok s)
      | (saved, some e) => (saved, true, .error (.unwritable e))

/-- Removes the cache file; whether there was one. -/
def invalidate (c : SnapshotCache) (files : FileTree) : Except CacheError (FileTree × Bool) :=
  match files.remove c.path with
  | .ok files => .ok (files, true)
  | .error .notFound => .ok (files, false)
  | .error e => .error (.os e c.path.toText)

end SnapshotCache

end EngineFit
