import EngineFit.Config.Document
import EngineFit.Files.Text
import EngineFit.Json.Read
import EngineFit.Json.Write

/-!
# The configuration store

The configuration lives in `config.json` in a configuration directory and is held in memory
while a program runs. Opening the store makes the directory and reads the file: a missing
file, one that cannot be read or holds no JSON, and JSON that is no object are replaced by the
default configuration, which is saved at once. The document read is then repaired in memory
(`Config.repair`). Every save first stamps `updated_at` with the time, read from the store's
clock, then writes the whole document as indented JSON, after copying the file as it was to
`config.json.bak`; a value with no JSON form, such as an integer too long to write, stops the
writing there and fails the save, leaving the file cut short. A configuration made anew has
both `created_at` and `updated_at` stamped with one reading of the clock before it is saved.

**Layers.** Engine settings come in three layers, lowest precedence first: `package` (shipped
defaults), `engine` (the active engine's configurations) and `user` (overrides). The layered
view merges them, later layers winning. A key *lies within* a key when it is that key or
starts with it and a dot (`server.port` lies within `server`, `servers` does not); every key
lies within the empty key. A user override is allowed only for a key within which some key of
the package or engine layer lies. A layer that is not an object is read as empty and replaced
by an empty object; a `layers` section that is not an object cannot be read.

**Activation.** Activating an engine empties the engine layer, removes from the user layer the
keys within the previous engine's configuration keys, fills the engine layer with the new
engine's configurations, records the engine as active and saves.

Operations run in `ConfigM`: an error leaves in place what was changed before it. The store
keeps a journal of the positions (paths of keys) where an operation put a new value or removed
one, as opposed to editing entries below that position: what was at such a position before is
no longer part of the configuration. Opening the store again replaces the whole document, the
position with no keys.
-/

namespace EngineFit

/-- A layer of engine settings. -/
inductive Layer where
  | package
  | engine
  | user
deriving DecidableEq, Repr

/-- The name of a layer. -/
def Layer.name : Layer → String
  | .package => "package"
  | .engine => "engine"
  | .user => "user"

/-- The layers, lowest precedence first. -/
def Layer.all : List Layer := [.package, .engine, .user]

/-- The layer of a name. -/
def Layer.ofName? (s : String) : Option Layer := Layer.all.find? (·.name == s)

/-- Whether a dotted key lies within another: it is the other, or starts with the other and a
dot; every key lies within the empty key. -/
def keyWithin (key outer : String) : Bool :=
  outer.isEmpty || key == outer || (outer ++ ".").toList.isPrefixOf key.toList

/-- Why a configuration operation failed. -/
inductive ConfigError where
  /-- The schema version cannot be compared with a number. -/
  | schema (e : Config.SchemaError)
  /-- An engine to activate with an empty (false) name. -/
  | emptyEngineName
  /-- A layer value set under the empty key. -/
  | emptyKey
  /-- A user override for a key that no lower layer defines. -/
  | unknownKey (key : String)
  /-- A layer name that names no layer. -/
  | unknownLayer (name : String)
  /-- The `layers` section is not an object, by its kind. -/
  | layersNotObject (kind : String)
  /-- A section needed is missing. -/
  | missingSection (name : String)
  /-- The `cache` section is not an object, by its kind. -/
  | cacheNotObject (kind : String)
  /-- The engines directory set is not a text, by its kind. -/
  | notPathText (kind : String)
  /-- The file system refused an operation on a path. -/
  | os (e : OsError) (path : String)
  /-- The configuration file is not UTF-8. -/
  | encoding (e : Text.Utf8Error)
  /-- A layer key tested against a text prefix is no text, by its kind. -/
  | keyNotText (kind : String)
  /-- A prefix that is true but no text cannot be extended with a dot, by its kind. -/
  | prefixNotText (kind : String)
  /-- A value to iterate over cannot be iterated, by its kind. -/
  | notIterable (kind : String)
  /-- An item of update pairs, by its index, cannot be iterated. -/
  | pairNotSequence (index : Nat)
  /-- An item of update pairs, by its index, has a number of members other than two. -/
  | pairLength (index length : Nat)
  /-- A key of an update pair is a list or a mapping, by its kind. -/
  | unhashableKey (kind : String)
  /-- The configuration file is JSON beyond what the reader reads: the reader's fault. -/
  | beyondReader (f : Json.Fault)
  /-- The document has no JSON form; its file holds what was written before the fault. -/
  | unwritable (e : Json.DumpError)
deriving Repr

/-- The wording of a configuration error. -/
def ConfigError.message : ConfigError → String
  | .schema e => e.message
  | .emptyEngineName => "engine name cannot be empty"
  | .emptyKey => "config key cannot be empty"
  | .unknownKey k => "unknown key: " ++ k
  | .unknownLayer l =>
    "Invalid config layer: " ++ l ++ ". Must be one of ['package', 'engine', 'user']"
  | .layersNotObject k => "'" ++ k ++ "' object has no attribute 'get'"
  | .missingSection n => Value.quote n
  | .cacheNotObject k =>
    if k == "list" then "list indices must be integers or slices, not str"
    else "'" ++ k ++ "' object does not support item assignment"
  | .notPathText k => "expected str, bytes or os.PathLike object, not " ++ k
  | .os e p => e.message p
  | .encoding e => e.message
  | .keyNotText k => "'" ++ k ++ "' object has no attribute 'startswith'"
  | .prefixNotText k =>
    if k == "list" then "can only concatenate list (not \"str\") to list"
    else "unsupported operand type(s) for +: '" ++ k ++ "' and 'str'"
  | .notIterable k => "'" ++ k ++ "' object is not iterable"
  | .pairNotSequence i => "cannot convert dictionary update sequence element #" ++ toString i ++ " to a sequence"
  | .pairLength i n =>
    "dictionary update sequence element #" ++ toString i ++ " has length " ++ toString n ++ "; 2 is required"
  | .unhashableKey k => "unhashable type: '" ++ k ++ "'"
  | .beyondReader f => f.text
  | .unwritable e => e.message

/-- Whether layer key `k` lies within `outer`, for keys and prefixes of any kind. A false
`outer` (empty text, zero, null) holds every key, and a key equal to `outer` lies within it;
otherwise `k` must be text and `outer` must be text to be extended with a dot, in that order:
the first that is not text is the error. -/
def keyWithinValue (k outer : Value) : Except ConfigError Bool :=
  if !outer.truthy then .ok true
  else if Value.same k outer then .ok true
  else match k, outer with
    | .str s, .str o => .ok (keyWithin s o)
    | .str _, o => .error (.prefixNotText o.kindName)
    | k, _ => .error (.keyNotText k.kindName)

/-- Whether some key of `kvs` lies within `outer`; keys after the first that does are not
tested. -/
def anyWithin (outer : Value) : List (Value × Value) → Except ConfigError Bool
  | [] => .ok false
  | (k, _) :: rest => do
    if ← keyWithinValue k outer then pure true else anyWithin outer rest

/-- The entries a mapping update takes from a value: a mapping's own entries; from any other
iterable value, one pair per item, where an item must have exactly two members, a key that
can be hashed and a value. The pairs read before a bad item come with its error, since the
update has already made them. -/
def updatePairs (v : Value) : List (Value × Value) × Option ConfigError :=
  match v with
  | .dict kvs => (kvs, none)
  | v =>
    match v.members with
    | none => ([], some (.notIterable v.kindName))
    | some items => fromItems 0 items
where
  /-- The pairs of the items from index `i` on. -/
  fromItems (i : Nat) : List Value → List (Value × Value) × Option ConfigError
    | [] => ([], none)
    | x :: xs =>
      match x.members with
      | none => ([], some (.pairNotSequence i))
      | some [k, w] =>
        if k.hashable then
          let (ps, e) := fromItems (i + 1) xs
          ((k, w) :: ps, e)
        else ([], some (.unhashableKey k.kindName))
      | some ms => ([], some (.pairLength i ms.length))

/-- A clock: the time of each reading, as ISO 8601 text, by the number of readings before it. -/
abbrev Clock := Nat → String

/-- A clock stopped at a time: every reading gives it. -/
def Clock.stopped (t : String) : Clock := fun _ => t

/-- A configuration store: the file tree it lives in, its directory, the document in memory,
and the clock its time stamps are read from. -/
structure ConfigStore where
  files : FileTree
  dir : PathName
  doc : List (Value × Value)
  clock : Clock
  /-- The readings of the clock taken so far. -/
  readings : Nat := 0
  /-- The positions given a new value or emptied, oldest first. -/
  changes : List (List String) := []

/-- Operations on a configuration store. -/
abbrev ConfigM := ExceptT ConfigError (StateM ConfigStore)

namespace ConfigStore

/-- Notes a position given a new value or emptied. -/
def note (position : List String) : ConfigM Unit :=
  modifyThe ConfigStore fun s => { s with changes := s.changes ++ [position] }

/-- The configuration file of a directory. -/
def fileIn (dir : PathName) : PathName := dir.push "config.json"

/-- The backup of the configuration file of a directory. -/
def backupIn (dir : PathName) : PathName := dir.push "config.json.bak"

/-- Copies the configuration file to its backup, when it exists and can be read. -/
def backUp (files : FileTree) (dir : PathName) : FileTree :=
  match files.read (fileIn dir) with
  | .ok bytes => (files.write (backupIn dir) bytes).toOption.getD files
  | .error _ => files

/-- The store with `updated_at` stamped with the time of a new reading of its clock. -/
def stamped (s : ConfigStore) : ConfigStore :=
  { s with doc := Value.insertEntry s.doc (.str "updated_at") (.str (s.clock s.readings)),
           readings := s.readings + 1, changes := s.changes ++ [["updated_at"]] }

/-- Stamps the time of a save. -/
def stamp : ConfigM Unit := modifyThe ConfigStore stamped

/-- Writes the document as indented JSON, keeping the file as it was as the backup. A document
with no JSON form leaves in the file what was written before its fault. -/
def writeDocument : ConfigM Unit := do
  let s ← get
  let files := backUp s.files s.dir
  set { s with files }
  let (text, fault) := Json.emit 2 0 (.dict s.doc)
  match files.write (fileIn s.dir) (Text.utf8Bytes text) with
  | .ok files =>
    set { s with files }
    if let some e := fault then throw (.unwritable e)
  | .error e => throw (.os e (fileIn s.dir).toText)

/-- Saves the document: stamps the time of the save, then writes it. -/
def save : ConfigM Unit := do
  stamp
  writeDocument

/-- The document read from the configuration file, or none when the file must be replaced by
the default: it cannot be read, holds no JSON, or holds JSON that is no object. The file is
looked up at call level `level` (`Calls`) and its text read one level deeper. -/
def readDocument (level : Nat) (files : FileTree) (dir : PathName) :
    Except ConfigError (Option (List (Value × Value))) :=
  match files.readText (fileIn dir) with
  | .error (.encoding e) => .error (.encoding e)
  | .error (.os _) => .ok none
  | .ok text =>
    match Json.read (roomAbove (level + 1)) text with
    | .ok (.dict kvs) => .ok (some kvs)
    | .error e => if e.fault.isSyntax then .ok none else .error (.beyondReader e.fault)
    | .ok _ => .ok none

/-- Opens the store of a directory in the store's file tree, replacing the document in
memory; the opening runs at call level `level` (`Calls`). -/
def load (level : Nat) : ConfigM Unit := do
  let s ← get
  match s.files.makeDirectories s.dir with
  | .error e => throw (.os e s.dir.toText)
  | .ok files => set { s with files }
  let s ← get
  let found ← if s.files.holds (fileIn s.dir) then
      match readDocument (level + 1) s.files s.dir with
      | .ok d => pure d
      | .error e => throw e
    else pure none
  match found with
  | some doc =>
    match Config.repair doc with
    | .ok doc => set { s with doc }
    | .error e => throw (.schema e)
  | none =>
    set { s with doc := Config.madeAt (s.clock s.readings), readings := s.readings + 1 }
    save
  note []

/-- Opens the store of a directory in a file tree, with a clock not yet read, the opening
running at call level `level`. -/
def openIn (level : Nat) (clock : Clock) (files : FileTree) (dir : PathName) :
    Except ConfigError ConfigStore × ConfigStore :=
  let (r, s) := Id.run (((load level).run).run { files, dir, doc := [], clock })
  (r.map fun _ => s, s)

/-- The value at a dotted key, or `default` when there is none. -/
def get? (key : String) (default : Value := .null) : ConfigM Value := do
  pure ((Config.valueAt (.dict (← getThe ConfigStore).doc) (Config.keyParts key)).getD default)

/-- Sets the value at a dotted key and saves. -/
def setValue (key : String) (v : Value) : ConfigM Unit := do
  let s ← getThe ConfigStore
  note (Config.replacedAt (.dict s.doc) [] (Config.keyParts key))
  modifyThe ConfigStore fun s => { s with doc := Config.setAt s.doc (Config.keyParts key) v }
  save

/-- The active engine, when one is set (a true value). -/
def activeEngine : ConfigM (Option Value) := do
  let v ← get? "cache.active-engine"
  pure (if v.truthy then some v else none)

/-- Records the active engine and saves; the name must be true. -/
def setActiveEngine (name : Value) : ConfigM Unit := do
  if !name.truthy then throw .emptyEngineName
  setValue "cache.active-engine" name

/-- Replaces the `layers` section's entry for a layer. -/
def putLayer (l : Layer) (kvs : List (Value × Value)) : ConfigM Unit := do
  let s ← getThe ConfigStore
  match Value.lookup s.doc (.str "layers") with
  | some (.dict ls) =>
    let layers := Value.dict (Value.insertEntry ls (.str l.name) (.dict kvs))
    set { s with doc := Value.insertEntry s.doc (.str "layers") layers }
  | some v => throw (.layersNotObject v.kindName)
  | none => throw (.missingSection "layers")

/-- The entries of a layer; a layer that is not an object is replaced by an empty one. -/
def layerEntries (l : Layer) : ConfigM (List (Value × Value)) := do
  let s ← getThe ConfigStore
  match Value.lookup s.doc (.str "layers") with
  | some (.dict ls) =>
    match Value.lookup ls (.str l.name) with
    | some (.dict kvs) => pure kvs
    | _ => note ["layers", l.name]; putLayer l []; pure []
  | some v => throw (.layersNotObject v.kindName)
  | none => throw (.missingSection "layers")

/-- The layer of a name. -/
def layerNamed (name : String) : ConfigM Layer :=
  match Layer.ofName? name with
  | some l => pure l
  | none => throw (.unknownLayer name)

/-- Takes the result of a test that may fail. -/
def ofExcept {α : Type} : Except ConfigError α → ConfigM α
  | .ok a => pure a
  | .error e => throw e

/-- The merged layers, later layers winning, restricted to the keys within a key. -/
def layered (key : String := "") : ConfigM (List (Value × Value)) := do
  let mut merged : List (Value × Value) := []
  for l in Layer.all do
    for (k, v) in (← layerEntries l) do
      merged := Value.insertEntry merged k v
  ofExcept (merged.filterM fun (k, _) => keyWithinValue k (.str key))

/-- Whether the package or engine layer has a key within the given key. -/
def definedBelowUser (key : String) : ConfigM Bool := do
  let package ← layerEntries .package
  if ← ofExcept (anyWithin (.str key) package) then return true
  let engine ← layerEntries .engine
  ofExcept (anyWithin (.str key) engine)

/-- Sets a value in a layer and saves; a user override needs a key defined below it. -/
def setLayerValue (key : String) (v : Value) (layerName : String := "user") : ConfigM Unit := do
  if key.isEmpty then throw .emptyKey
  if layerName == "user" then
    if !(← definedBelowUser key) then throw (.unknownKey key)
  let l ← layerNamed layerName
  let kvs ← layerEntries l
  note ["layers", l.name, key]
  putLayer l (Value.insertEntry kvs (.str key) v)
  save

/-- Removes the keys within a key from a layer; the number removed. -/
def removeWithin (key : Value) (l : Layer) : ConfigM Nat := do
  let kvs ← layerEntries l
  let inside ← ofExcept (kvs.mapM fun (k, _) => keyWithinValue k key)
  let marked := kvs.zip inside
  for ((k, _), within) in marked do
    if within then note ["layers", l.name, k.plain]
  let kept := (marked.filter fun (_, within) => !within).map (·.1)
  if kept.length != kvs.length then putLayer l kept
  pure (kvs.length - kept.length)

/-- Removes the keys within a key from a layer, saving when any was removed; the number
removed. -/
def unsetLayerValue (key : String) (layerName : String := "user") : ConfigM Nat := do
  let l ← layerNamed layerName
  let n ← removeWithin (.str key) l
  if n > 0 then save
  pure n

/-- Activates an engine with its configurations, dropping the user overrides of the previous
engine's configuration keys, and saves. The engine layer is emptied first; the keys to drop are
what iterating over `previous` yields; the configurations are taken as a mapping update takes
them (`updatePairs`). An error leaves the steps before it done and nothing saved. -/
def activateEngine (name configurations previous : Value) : ConfigM Unit := do
  if !name.truthy then throw .emptyEngineName
  for (k, _) in (← layerEntries .engine) do
    note ["layers", "engine", k.plain]
  putLayer .engine []
  let keys ← match previous.members with
    | some ks => pure ks
    | none => throw (.notIterable previous.kindName)
  for key in keys do
    let _ ← removeWithin key .user
  let engine ← layerEntries .engine
  let (pairs, failure) := updatePairs configurations
  for (k, _) in pairs do
    note ["layers", "engine", k.plain]
  putLayer .engine (pairs.foldl (fun acc (k, v) => Value.insertEntry acc k v) engine)
  if let some e := failure then throw e
  note ["cache", "active-engine"]
  let s ← getThe ConfigStore
  match Value.lookup s.doc (.str "cache") with
  | some (.dict c) =>
    let cache := Value.dict (Value.insertEntry c (.str "active-engine") name)
    set { s with doc := Value.insertEntry s.doc (.str "cache") cache }
  | some v => throw (.cacheNotObject v.kindName)
  | none => throw (.missingSection "cache")
  save

/-- The engines directory: the one the environment names, when it names one, else the one
configured, else the default; as a normalised path. -/
def enginesDir (env : Option String) : ConfigM String := do
  match env with
  | some e => if !e.isEmpty then return (PathName.ofString e).toText
  | none => pure ()
  let v ← get? "paths.engines"
  if !v.truthy then return (PathName.ofString Config.defaultEnginesDir).toText
  match v with
  | .str p => pure (PathName.ofString p).toText
  | v => throw (.notPathText v.kindName)

/-- The directory whose disk space counts: the one configured when set, else the default. -/
def storagePath : ConfigM Value := do
  let v ← get? "hardware.storage-path"
  pure (if v.truthy then v else .str defaultStoragePath)

end ConfigStore

end EngineFit
