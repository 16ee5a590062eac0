import EngineFit.Cli.Command
import EngineFit.Console.Table
import EngineFit.Yaml.Printer
import EngineFit.Json.Write
import EngineFit.Catalog
import EngineFit.Config.Store
import EngineFit.Ranking
import EngineFit.Score
import EngineFit.Connection
import EngineFit.Hardware.Text
import EngineFit.Hardware.Cache

/-!
# Running a command line

`runCommandLine` runs one command line of the selector against a machine: its file tree,
the hardware snapshot its cache holds, and its tools. The result is what the program prints
on standard output and standard error, its exit status, and the file tree afterwards.

* A command line that stops while parsing (help, version, a usage error) prints nothing here
  and exits with the parser's status; one naming no command exits with status 2.
* Otherwise the configuration store is opened first (its directory made and its file written
  if missing), then the command runs.
* Errors of the catalog, of a snapshot, of scoring, and a user override of an unknown key are
  reported on one line, `Error: message`, with status 1; when no engine can be chosen the
  program says `No compatible engine found.`, with status 1.
* Any other error (`Fault`) ends the program abnormally, with no exit status; what it printed
  before stays printed, and the file tree stays as it was left.
-/

namespace EngineFit
namespace Cli

/-- An error that ends the program abnormally. -/
inductive Fault where
  /-- The configuration store failed. -/
  | config (e : ConfigError)
  /-- A scalar of a manifest or snapshot denotes no value. -/
  | scalar (e : Yaml.ScalarError)
  /-- A message that cannot be printed. -/
  | markup (e : Console.MarkupError)
  /-- No hardware snapshot is cached and there is no probe to take one. -/
  | noSnapshot
  /-- The active engine is recorded as a value that is no text, by its kind. -/
  | engineName (kind : String)
  /-- The storage path cannot be looked up. -/
  | scoring (e : ScoreError)
  /-- A document to print has no JSON form. -/
  | dump (e : Json.DumpError)
  /-- A manifest that failed without being rejected: a key too long to write. -/
  | manifest (e : ManifestError)

/-- The wording of a fault. -/
def Fault.message : Fault → String
  | .config e => e.message
  | .scalar e => e.message
  | .markup e => e.message
  | .noSnapshot => CacheError.noProbe.message
  | .engineName k => "unsupported operand type(s) for /: 'PosixPath' and '" ++ k ++ "'"
  | .scoring e => e.message
  | .dump e => e.message
  | .manifest e => e.message

/-- How a command fails. -/
inductive Failure where
  /-- An error reported on one line. -/
  | reported (message : String)
  /-- No engine can be chosen. -/
  | noCompatibleEngine
  /-- An abnormal end. -/
  | fault (f : Fault)

/-- What the program runs against besides its files. -/
structure Machine where
  /-- The hardware snapshot the cache holds. -/
  snapshot : Option Snapshot := none
  /-- The installed tools (`snapctl` for snap connections). -/
  tools : Toolbox := {}
  /-- Standard input. -/
  input : String := ""
  /-- The clock the configuration's time stamps are read from; by default one stopped at the
  start of the epoch. -/
  clock : Clock := Clock.stopped "1970-01-01T00:00:00+00:00"

/-- The state of a running command: the configuration store with the file tree, and what was
printed so far. -/
structure Session where
  store : ConfigStore
  out : String := ""
  err : String := ""

/-- A running command. -/
abbrev CommandM := ExceptT Failure (StateM Session)

/-- The settings every command reads: where the engines are and where snaps are stored, and
the call level at which the command runs (`Calls`). -/
structure Context where
  machine : Machine
  enginesDir : String
  storage : Value
  level : Nat

/-- How a command line ended. -/
inductive Ending where
  /-- The command ran to its end, with an exit status. -/
  | exited (status : Nat)
  /-- Parsing stopped the program (help, version, a usage error), with the parser's status. -/
  | stopped (status : Nat)
  /-- A fault ended the program abnormally. -/
  | faulted (f : Fault)

/-- What a command line did: how it ended, and its output. -/
structure Outcome where
  ending : Ending
  out : String := ""
  err : String := ""

/-- Appends printed text to standard output or standard error. -/
def emit (text : String) (toErr : Bool) : CommandM Unit :=
  modify fun s => if toErr then { s with err := s.err ++ text } else { s with out := s.out ++ text }

/-- Prints a message, as markup unless `plain`; a `plain` message, like a `soft` one, is printed
as one line however long. -/
def say (message : String) (toErr : Bool := false) (plain : Bool := false) (soft : Bool := false) :
    CommandM Unit :=
  match Console.printed message (!plain) (!(plain || soft)) with
  | .ok text => emit text toErr
  | .error e => throw (.fault (.markup e))

/-- Prints a message as it is. -/
def sayPlain (message : String) (toErr : Bool := false) : CommandM Unit :=
  say message toErr true

/-- Prints an error line: `Error:` and the message, which is markup. -/
def sayError (message : String) : CommandM Unit :=
  say ("[red]Error:[/red] " ++ message) true

/-- Runs a configuration operation; an override of an unknown key is reported, other errors
are faults. -/
def fromConfig {α : Type} (m : ConfigM α) : CommandM α := do
  let s ← get
  let (r, store) := (m.run).run s.store
  set { s with store }
  match r with
  | .ok a => pure a
  | .error e@(.unknownKey _) => throw (.reported e.message)
  | .error e => throw (.fault (.config e))

/-- Takes a catalog result; a scalar denoting no value and a manifest failure that rejects
nothing are faults, other errors are reported. -/
def fromCatalog {α : Type} : Except CatalogError α → CommandM α
  | .ok a => pure a
  | .error (.scalar e) => throw (.fault (.scalar e))
  | .error (.invalid e) =>
    if e.isRejection then throw (.reported e.message) else throw (.fault (.manifest e))
  | .error e => throw (.reported e.message)

/-- Takes a scoring result: a figure that was not measured is reported, and a storage path
that cannot be looked up, or a connection check that breaks down, ends the program. -/
def fromScoring {α : Type} : Except ScoreError α → CommandM α
  | .ok a => pure a
  | .error (.missing m) => throw (.reported m.message)
  | .error e => throw (.fault (.scoring e))

/-- The current file tree. -/
def files : CommandM FileTree := do
  pure (← get).store.files

/-- The machine's hardware snapshot. -/
def machineSnapshot (ctx : Context) : CommandM Snapshot :=
  match ctx.machine.snapshot with
  | some s => pure s
  | none => throw (.fault .noSnapshot)

/-- Scores every engine of the engines directory against the machine, in catalog order. -/
def scoreAll (ctx : Context) : CommandM (List Scored) := do
  let ms ← fromCatalog (loadCatalog (ctx.level + 2) (← files) ctx.enginesDir)
  let snap ← machineSnapshot ctx
  fromScoring (scoreEngines snap ms (snapConnection ctx.machine.tools) ctx.storage)

/-- A document in a format: indented JSON, or block YAML. YAML writes every kind of value, but
an integer too long to write fails it before anything is printed. -/
def Format.document (f : Format) (v : Value) : Except Json.DumpError String :=
  match f with
  | .json => Json.dump 2 v
  | .yaml => if v.writable then .ok (Yaml.render v) else .error .tooLong

/-- Prints a document in a format; a document with no JSON form is a fault, and nothing of it
is printed. -/
def sayDocument (f : Format) (v : Value) : CommandM Unit :=
  match f.document v with
  | .ok text => sayPlain text
  | .error e => throw (.fault (.dump e))

/-- The compatibility column of a listing: `no`, `devel` or `yes`. -/
def compatText (s : Scored) : String :=
  if !s.compatible then "no" else if s.manifest.isStable then "yes" else "devel"

/-- One line of an evaluation: a cross and the issues for an engine that does not fit, a dash
and the score for a devel engine, a tick and the score otherwise. -/
def evaluationLine (s : Scored) : String :=
  if !s.compatible then "✘ " ++ s.name ++ ": not compatible: " ++ ", ".intercalate s.issues
  else if !s.manifest.isStable then "− " ++ s.name ++ ": devel, score=" ++ s.score.text
  else "✔ " ++ s.name ++ ": compatible, score=" ++ s.score.text

/-- The name of the active engine, if one is set; a value that is no text names no engine
directory. -/
def activeName : CommandM (Option String) := do
  match ← fromConfig ConfigStore.activeEngine with
  | none => pure none
  | some (.str n) => pure (some n)
  | some v => throw (.fault (.engineName v.kindName))

/-- Lists the engines in listing order, the active one marked with `*`. -/
def listEngines (ctx : Context) : CommandM Nat := do
  let scored := displayOrder (← scoreAll ctx)
  if scored.isEmpty then
    say "No engines found." true
    return 0
  let active ← fromConfig ConfigStore.activeEngine
  let rows := scored.map fun e =>
    let mark := match active with
      | some (.str a) => if a == e.name then "*" else ""
      | _ => ""
    [e.name ++ mark, e.manifest.vendor, e.manifest.description, compatText e]
  match Console.Table.render
      [⟨"engine", false⟩, ⟨"vendor", false⟩, ⟨"description", true⟩, ⟨"compat", false⟩] rows with
  | .ok text => emit text false
  | .error e => throw (.fault (.markup e))
  return 0

/-- Shows one engine scored against the machine, the active one by default. -/
def showEngine (ctx : Context) (engine : Option String) (format : Format) : CommandM Nat := do
  let name ← match engine with
    | some e => if e.isEmpty then activeName else pure (some e)
    | none => activeName
  match name with
  | none =>
    sayError "no active engine, specify an engine name"
    return 1
  | some name =>
    let m ← fromCatalog (loadEngine (ctx.level + 1) (← files) ctx.enginesDir name)
    let snap ← machineSnapshot ctx
    let scored ← fromScoring (scoreEngines snap [m] (snapConnection ctx.machine.tools) ctx.storage)
    sayDocument format ((scored.headD { manifest := m }).toValue)
    return 0

/-- The configuration keys of the engine that was active: those of its manifest, none when no
engine was active or its manifest is gone. -/
def previousEngineKeys (ctx : Context) (previous : Option Value) : CommandM (List String) :=
  match previous with
  | none => pure []
  | some (.str p) => do
    match loadEngine (ctx.level + 2) (← files) ctx.enginesDir p with
    | .ok pm => pure (pm.configurations.map (·.1))
    | .error (.notFound _ _) => pure []
    | .error e => fromCatalog (.error e)
  | some v => throw (.fault (.engineName v.kindName))

/-- Activates the engine `name` of manifest `m`, dropping the user overrides within `keys`, and
says so, after the components the engine needs. -/
def activateAndAnnounce (name : String) (m : Manifest) (keys : List String) : CommandM Nat := do
  fromConfig (ConfigStore.activateEngine (.str name)
    (.dict (m.configurations.map fun (k, v) => (.str k, v))) (.list (keys.map .str)))
  if !m.components.isEmpty then
    say "Required components:"
    for c in m.components do
      sayPlain ("- " ++ c)
  sayPlain ("Engine changed to \"" ++ name ++ "\".")
  return 0

/-- Makes an engine the active one: its configurations replace the engine layer, and the user
overrides of the previous engine's keys are dropped. -/
def switchEngine (ctx : Context) (name : String) : CommandM Nat := do
  match loadEngine (ctx.level + 2) (← files) ctx.enginesDir name with
  | .error (.notFound _ _) =>
    sayError ("\"" ++ name ++ "\" not found")
    return 1
  | .error e => fromCatalog (.error e)
  | .ok m =>
    let previous ← fromConfig ConfigStore.activeEngine
    if previous.any (·.same (.str name)) then
      sayPlain ("Engine \"" ++ name ++ "\" is already active.")
      return 0
    activateAndAnnounce name m (← previousEngineKeys ctx previous)

/-- Chooses the engine to use: a named one, or with `--auto` the best engine for the
machine. -/
def useEngine (ctx : Context) (engine : Option String) (auto : Bool) : CommandM Nat := do
  let named := engine.filter (!·.isEmpty)
  if auto then
    if named.isSome then
      sayError "cannot specify both engine name and --auto"
      return 1
    let scored ← scoreAll ctx
    say "Evaluating engines for optimal hardware compatibility:"
    for e in scored do
      sayPlain (evaluationLine e)
    match topEngine scored with
    | .error _ => throw .noCompatibleEngine
    | .ok selected =>
      sayPlain ("Selected engine: " ++ selected.name)
      switchEngine ctx selected.name
  else
    match named with
    | none =>
      sayError "engine name not specified"
      return 1
    | some name => switchEngine ctx name

/-- Checks manifest files one by one, a tick or a cross with the problem for each; status 1
if any is rejected. -/
def validateEngines (ctx : Context) (paths : List String) : CommandM Nat := do
  let mut failed := false
  for path in paths do
    match checkManifestFile (ctx.level + 1) (← files) path with
    | .ok _ => sayPlain ("✅ " ++ path)
    | .error (.scalar e) => throw (.fault (.scalar e))
    | .error (.invalid e) =>
      if !e.isRejection then throw (.fault (.manifest e))
      failed := true
      sayPlain ("❌ " ++ path ++ ": " ++ e.problem.message)
    | .error e =>
      failed := true
      sayPlain ("❌ " ++ path ++ ": " ++ e.detail)
  return if failed then 1 else 0

/-- Scores the engines against a snapshot read from standard input, as if every snap
connection were in place: the evaluation on standard error, the scored engines and the
chosen one as a document on standard output. -/
def selectEngine (ctx : Context) (engines : Option String) (format : Format) : CommandM Nat := do
  let snap ← match Snapshot.ofText (ctx.level + 1) ctx.machine.input with
    | .ok s => pure s
    | .error (.rejected e) => throw (.reported e.message)
    | .error (.scalar e) => throw (.fault (.scalar e))
  let dir := (engines.filter (!·.isEmpty)).getD ctx.enginesDir
  let ms ← fromCatalog (loadCatalog (ctx.level + 1) (← files) dir)
  let scored ← fromScoring (scoreEngines snap ms Connections.all ctx.storage)
  for e in scored do
    sayPlain (evaluationLine e) true
  let selected ← match topEngine scored with
    | .ok s => pure (Value.str s.name)
    | .error _ => do say "No compatible engine found." true; pure Value.null
  sayDocument format (Value.obj [("engines", .list (scored.map Scored.toValue)),
    ("top-engine", selected)])
  return 0

/-- Shows the machine's snapshot; with `refresh` the cached one is dropped first. -/
def showMachine (ctx : Context) (format : Format) (refresh : Bool) : CommandM Nat := do
  let snap ← machineSnapshot (if refresh then { ctx with machine.snapshot := none } else ctx)
  sayDocument format snap.toValue
  return 0

/-- The layer a configuration command writes: the package layer or the user layer. -/
def layerName (package : Bool) : String :=
  if package then "package" else "user"

/-- Shows the layered configuration within a key: a single value that is the key itself
bare, otherwise the matching values as a document. -/
def getConfig (key : Option String) (format : Format) : CommandM Nat := do
  let key := key.getD ""
  let values ← fromConfig (ConfigStore.layered key)
  if !key.isEmpty && values.isEmpty then
    sayError ("no value set for key \"" ++ Console.escape key ++ "\"")
    return 1
  match values with
  | [(k, v)] =>
    if k.same (.str key) then sayPlain v.plain else sayDocument format (.dict values)
  | _ => sayDocument format (.dict values)
  return 0

/-- Sets a configuration value from `key=value`. -/
def setConfig (assignment : String) (package : Bool) : CommandM Nat := do
  match assignment.toList.span (· != '=') with
  | (_, []) =>
    sayError ("expected key=value, got \"" ++ Console.escape assignment ++ "\"")
    return 1
  | (key, _ :: value) =>
    if key.isEmpty then
      sayError "key must not start with an equal sign"
      return 1
    fromConfig (ConfigStore.setLayerValue (String.ofList key) (.str (String.ofList value))
      (layerName package))
    return 0

/-- Removes a configuration value and the values below it. -/
def unsetConfig (key : String) (package : Bool) : CommandM Nat := do
  let _ ← fromConfig (ConfigStore.unsetLayerValue key (layerName package))
  return 0

/-- Runs a command. -/
def runCommand (ctx : Context) : Command → CommandM Nat
  | .listEngines => listEngines ctx
  | .showEngine e f => showEngine ctx e f
  | .useEngine e a => useEngine ctx e a
  | .validateEngines ps => validateEngines ctx ps
  | .selectEngine e f => selectEngine ctx e f
  | .showMachine f r => showMachine ctx f r
  | .getConfig k f => getConfig k f
  | .setConfig a p => setConfig a p
  | .unsetConfig k p => unsetConfig k p

/-- Prints a line reporting why a command failed; the command then ends with status 1. -/
def reportLine (line : String) : StateM Session (Except Fault Nat) := do
  match ← (say line true false true).run with
  | .error (.fault f) => pure (.error f)
  | _ => pure (.ok 1)

/-- Ends a command: reported errors are printed and give status 1, faults stay faults. -/
def finish (m : CommandM Nat) : StateM Session (Except Fault Nat) := do
  match ← m.run with
  | .ok n => pure (.ok n)
  | .error (.fault f) => pure (.error f)
  | .error (.reported message) => reportLine ("[red]Error:[/red] " ++ Console.escape message)
  | .error .noCompatibleEngine => reportLine "[yellow]No compatible engine found.[/yellow]"

/-- Runs a command with its context read from the configuration: the engines directory given
on the command line or configured, and the storage path configured. The command runs at call
level `level`. -/
def runWithContext (inv : Invocation) (machine : Machine) (level : Nat) (cmd : Command) :
    CommandM Nat := do
  let enginesDir ← match inv.enginesDir.filter (!·.isEmpty) with
    | some d => pure (PathName.ofString d).toText
    | none => fromConfig (ConfigStore.enginesDir none)
  let storage ← fromConfig ConfigStore.storagePath
  runCommand { machine, enginesDir, storage, level } cmd

/-- The configuration directory of an invocation; without one, the current directory. -/
def Invocation.configPath (inv : Invocation) : PathName :=
  PathName.ofString (inv.configDir.getD ".")

/-- Runs a parsed command line against a machine and a file tree, the program's entry running
at call level `level`: the configuration is opened within the command's context, four levels
deeper (both are objects made by calling their types), and the command runs one level deeper. -/
def runInvocation (level : Nat) (inv : Invocation) (machine : Machine) (files : FileTree) :
    Outcome × FileTree :=
  match inv.command with
  | none => ({ ending := .exited 2 }, files)
  | some cmd =>
    match ConfigStore.openIn (level + 4) machine.clock files inv.configPath with
    | (.error e, store) => ({ ending := .faulted (.config e) }, store.files)
    | (.ok store, _) =>
      let (r, s) := (finish (runWithContext inv machine (level + 1) cmd)).run { store }
      let ending := match r with
        | .ok code => Ending.exited code
        | .error f => .faulted f
      ({ ending, out := s.out, err := s.err }, s.store.files)

/-- Runs a command line against a machine and a file tree, the program's entry running at call
level `level` (`Calls`): how it ended, what it printed, and the file tree afterwards. -/
def runCommandLine (level : Nat) (args : List String) (machine : Machine) (files : FileTree) :
    Outcome × FileTree :=
  match parseInvocation args with
  | .error stop => ({ ending := .stopped stop.exitCode }, files)
  | .ok inv => runInvocation level inv machine files

end Cli
end EngineFit
