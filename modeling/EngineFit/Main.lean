import EngineFit.Cli.Session
import EngineFit.Json.Read
import EngineFit.Hardware.Parse

/-!
# The `engine-selector` program

The command line reads the working directory's files (a few levels deep) into a file tree,
runs the command on it, and writes back what the command changed. The hardware snapshot is
the one cached in `/tmp/machine-info-KEY.json`, the key being `$SNAP_REVISION` or the package
version; standard input is read only for `select-engine`.
-/

open EngineFit

/-- How many directory levels below the working directory are read. -/
def treeDepth : Nat := 6

/-- The call level of the program's entry (`Calls`): the script's top level calls it. -/
def entryLevel : Nat := 2

/-- Adds the files and directories below a place of the working directory to a tree. -/
partial def readTree (place : List String) (depth : Nat) (t : FileTree) : IO FileTree := do
  let entries ← try (System.mkFilePath ("." :: place)).readDir catch _ => pure #[]
  let mut t := t
  for e in entries do
    let here := place ++ [Text.hold e.fileName]
    if ← e.path.isDir then
      t := t.put here .directory
      if depth > 0 then
        t ← readTree here (depth - 1) t
    else
      let bytes ← try IO.FS.readBinFile e.path catch _ => pure ByteArray.empty
      t := t.put here (.file bytes.toList)
  pure t

/-- Writes the places of a tree that differ from an earlier tree. -/
def writeChanges (before after : FileTree) : IO Unit := do
  for (place, entry) in after.entries do
    if before.at? place != some entry then
      let path := System.mkFilePath ("." :: place.map Text.release)
      match entry with
      | .directory => IO.FS.createDirAll path
      | .file bytes => IO.FS.writeBinFile path (ByteArray.mk bytes.toArray)

/-- Reads standard input to its end. -/
partial def readInput (stream : IO.FS.Stream) (acc : String) : IO String := do
  let line ← stream.getLine
  if line.isEmpty then pure acc else readInput stream (acc ++ Text.hold line)

/-- The cached hardware snapshot, if there is a readable one. Commands read it six call levels
below the entry: the command, the scoring, the machine, the cache, its lookup, the file. -/
def cachedSnapshot : IO (Option Snapshot) := do
  let key := (← IO.getEnv "SNAP_REVISION").filter (!·.isEmpty) |>.getD packageVersion
  let text ← try IO.FS.readFile ("/tmp/machine-info-" ++ key ++ ".json") catch _ => pure ""
  pure ((Json.read (roomAbove (entryLevel + 6)) (Text.hold text)).toOption.bind fun v =>
    (Snapshot.parse v).toOption)

def main (args : List String) : IO UInt32 := do
  let files ← readTree [] treeDepth {}
  let input ← if args.contains "select-engine" then readInput (← IO.getStdin) "" else pure ""
  let machine : Cli.Machine := { snapshot := ← cachedSnapshot, input }
  let (o, after) := Cli.runCommandLine entryLevel (args.map Text.hold) machine files
  writeChanges files after
  IO.print (Text.release o.out)
  IO.eprint (Text.release o.err)
  match o.ending with
  | .exited status | .stopped status => pure status.toUInt32
  | .faulted f =>
    IO.eprintln (Text.release f.message)
    pure 1
