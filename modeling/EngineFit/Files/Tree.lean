import EngineFit.Files.Path
import EngineFit.Value.Literal

/-!
# File trees

A file tree is what a program sees of the file system below its working directory: each
place, written as its components, holds a file (its bytes) or a directory. The working
directory itself is always a directory, and every place that holds something lies in a
directory.

A path name leads to a place by walking its components from the working directory; each
component but the last must lead to a directory, and `..` steps back out of one. A path that
passes through a missing place or a file is refused, as is an absolute path or one that leaves
the working directory: nothing outside the tree is known, so it is missing.

The operations are those of a program on files: look at a place, list a directory, read,
write and remove a file, and make directories.
-/

namespace EngineFit

/-- What a place of a file tree holds. -/
inductive Entry where
  | file (bytes : List UInt8)
  | directory
deriving DecidableEq, Repr

/-- Why the file system refused an operation. -/
inductive OsError where
  /-- A place on the way, or the place itself, holds nothing. -/
  | notFound
  /-- A place on the way is a file. -/
  | notADirectory
  /-- A file operation on a directory. -/
  | isADirectory
  /-- A directory to be made is a file already. -/
  | exists
deriving DecidableEq, Repr

/-- The system's number of an error. -/
def OsError.errno : OsError → Nat
  | .notFound => 2
  | .notADirectory => 20
  | .isADirectory => 21
  | .exists => 17

/-- The system's wording of an error. -/
def OsError.text : OsError → String
  | .notFound => "No such file or directory"
  | .notADirectory => "Not a directory"
  | .isADirectory => "Is a directory"
  | .exists => "File exists"

/-- The message of an error about a path: its number, its wording and the path quoted. -/
def OsError.message (e : OsError) (path : String) : String :=
  "[Errno " ++ toString e.errno ++ "] " ++ e.text ++ ": " ++ Value.quote path

/-- The contents of a file system below the working directory. -/
structure FileTree where
  entries : List (List String × Entry) := []
deriving DecidableEq, Repr

namespace FileTree

/-- What a place holds; the working directory is a directory. -/
def at? (t : FileTree) (place : List String) : Option Entry :=
  if place.isEmpty then some .directory else (t.entries.find? (·.1 == place)).map (·.2)

/-- Walks components from a place; each place walked through must be a directory. -/
def walk (t : FileTree) (here : List String) : List String → Except OsError (List String)
  | [] => .ok here
  | c :: rest =>
    match t.at? here with
    | none => .error .notFound
    | some (.file _) => .error .notADirectory
    | some .directory =>
      if c == ".." then
        if here.isEmpty then .error .notFound else t.walk here.dropLast rest
      else t.walk (here ++ [c]) rest

/-- The place a path name leads to. -/
def locate (t : FileTree) (p : PathName) : Except OsError (List String) :=
  if p.isAbsolute then .error .notFound else t.walk [] p.parts

/-- What a path name leads to, if it leads anywhere. -/
def entry? (t : FileTree) (p : PathName) : Option Entry :=
  match t.locate p with
  | .ok place => t.at? place
  | .error _ => none

/-- Whether a path name leads to a file. -/
def isFile (t : FileTree) (p : PathName) : Bool :=
  match t.entry? p with
  | some (.file _) => true
  | _ => false

/-- Whether a path name leads to a directory. -/
def isDirectory (t : FileTree) (p : PathName) : Bool :=
  t.entry? p == some .directory

/-- Whether a path name leads to a file or directory. -/
def holds (t : FileTree) (p : PathName) : Bool := (t.entry? p).isSome

/-- The names in a directory, in no particular order. -/
def list (t : FileTree) (p : PathName) : Except OsError (List String) := do
  let place ← t.locate p
  match t.at? place with
  | none => throw .notFound
  | some (.file _) => throw .notADirectory
  | some .directory =>
    pure (t.entries.filterMap fun (q, _) =>
      if q.dropLast == place && q.length == place.length + 1 then q.getLast? else none)

/-- The bytes of a file. -/
def read (t : FileTree) (p : PathName) : Except OsError (List UInt8) := do
  let place ← t.locate p
  match t.at? place with
  | none => throw .notFound
  | some .directory => throw .isADirectory
  | some (.file bytes) => pure bytes

/-- Puts an entry at a place, replacing what was there. -/
def put (t : FileTree) (place : List String) (e : Entry) : FileTree :=
  if t.entries.any (·.1 == place) then
    { entries := t.entries.map fun (q, old) => if q == place then (q, e) else (q, old) }
  else { entries := t.entries ++ [(place, e)] }

/-- Writes a file, replacing an earlier file there. -/
def write (t : FileTree) (p : PathName) (bytes : List UInt8) : Except OsError FileTree := do
  let place ← t.locate p
  match t.at? place with
  | some .directory => throw .isADirectory
  | _ => pure (t.put place (.file bytes))

/-- Removes a file. -/
def remove (t : FileTree) (p : PathName) : Except OsError FileTree := do
  let place ← t.locate p
  match t.at? place with
  | none => throw .notFound
  | some .directory => throw .isADirectory
  | some (.file _) => pure { entries := t.entries.filter (·.1 != place) }

/-- One component of a path whose directories are being made, from the tree so far and the
place reached: `..` steps back out, a missing place becomes a directory, a file is refused. -/
def makeStep (acc : FileTree × List String) (c : String) : Except OsError (FileTree × List String) :=
  let (t, here) := acc
  if c == ".." then
    if here.isEmpty then .error .notFound else .ok (t, here.dropLast)
  else
    let next := here ++ [c]
    match t.at? next with
    | some .directory => .ok (t, next)
    | some (.file _) => .error .exists
    | none => .ok (t.put next .directory, next)

/-- Makes a directory and the directories above it that are missing; a directory that exists
already is kept. -/
def makeDirectories (t : FileTree) (p : PathName) : Except OsError FileTree :=
  if p.isAbsolute then .error .notFound
  else (p.parts.foldlM makeStep (t, [])).map (·.1)

end FileTree

end EngineFit
