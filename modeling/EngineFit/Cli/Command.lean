import EngineFit.Cli.Grammar

/-!
# The selector's commands

The command line names the engines directory, the configuration directory and verbosity,
then one command with its own arguments:

| command | arguments |
| --- | --- |
| `list-engines` | |
| `show-engine` | `[engine] [--format yaml|json]` |
| `use-engine` | `[engine] [--auto]` |
| `validate-engines` | `path…` |
| `select-engine` | `[--engines dir] [--format yaml|json]` |
| `show-machine` | `[--format yaml|json] [--refresh]` |
| `get-config` | `[key] [--format yaml|json]` |
| `set-config` | `key=value [--package]` |
| `unset-config` | `key [--package]` |

Every command takes `-h`/`--help`; the program also takes `--version`. `parseInvocation` reads
a command line into an `Invocation`, or says why the program stops before running anything.
-/

namespace EngineFit
namespace Cli

/-- How documents are written. -/
inductive Format where
  | yaml
  | json
deriving DecidableEq, Repr

/-- A command with its arguments. -/
inductive Command where
  | listEngines
  | showEngine (engine : Option String) (format : Format)
  | useEngine (engine : Option String) (auto : Bool)
  | validateEngines (paths : List String)
  | selectEngine (engines : Option String) (format : Format)
  | showMachine (format : Format) (refresh : Bool)
  | getConfig (key : Option String) (format : Format)
  | setConfig (assignment : String) (package : Bool)
  | unsetConfig (key : String) (package : Bool)
deriving DecidableEq, Repr

/-- A parsed command line. A command line naming no command runs nothing. -/
structure Invocation where
  enginesDir : Option String := none
  configDir : Option String := none
  verbose : Bool := false
  command : Option Command := none
deriving DecidableEq, Repr

/-- The help option every grammar has. -/
def helpOption : OptionSpec := ⟨["-h", "--help"], "help", .help, .absent⟩

/-- The output format option. -/
def formatOption : OptionSpec :=
  ⟨["--format"], "format", .store (some ["yaml", "json"]), .text "yaml"⟩

/-- The option choosing the package layer instead of the user layer. -/
def packageOption : OptionSpec := ⟨["--package"], "package", .flag, .flag false⟩

/-- The grammar of each command, by name, in the order commands are listed. -/
def commandGrammars : List (String × Grammar) :=
  [("list-engines", ⟨[helpOption], none⟩),
   ("show-engine", ⟨[helpOption, formatOption], some ⟨"engine", .optional, none⟩⟩),
   ("use-engine", ⟨[helpOption, ⟨["--auto"], "auto", .flag, .flag false⟩],
      some ⟨"engine", .optional, none⟩⟩),
   ("validate-engines", ⟨[helpOption], some ⟨"paths", .oneOrMore, none⟩⟩),
   ("select-engine", ⟨[helpOption, ⟨["--engines"], "engines", .store none, .absent⟩,
      formatOption], none⟩),
   ("show-machine", ⟨[helpOption, formatOption, ⟨["--refresh"], "refresh", .flag, .flag false⟩],
      none⟩),
   ("get-config", ⟨[helpOption, formatOption], some ⟨"key", .optional, none⟩⟩),
   ("set-config", ⟨[helpOption, packageOption], some ⟨"assignment", .one, none⟩⟩),
   ("unset-config", ⟨[helpOption, packageOption], some ⟨"key", .one, none⟩⟩)]

/-- The program's own grammar: its options and the command. -/
def programGrammar : Grammar :=
  ⟨[helpOption, ⟨["--version"], "version", .version, .absent⟩,
    ⟨["--engines-dir"], "engines_dir", .store none, .absent⟩,
    ⟨["--config-dir"], "config_dir", .store none, .absent⟩,
    ⟨["-v", "--verbose"], "verbose", .flag, .flag false⟩],
   some ⟨"command", .command, some (commandGrammars.map (·.1))⟩⟩

/-- Parses a command's words with its grammar. -/
def parseCommandWords : Subcommands := fun name rest =>
  match commandGrammars.lookup name with
  | some g => g.parseKnown (fun _ _ => .ok ([], [])) rest
  | none => .error (.usage (.invalidChoice name))

/-- The text bound to a destination. -/
def textOf (settings : List (String × Setting)) (dest : String) : Option String :=
  match settings.lookup dest with
  | some (.text s) => some s
  | _ => none

/-- Whether a flag is set. -/
def flagOf (settings : List (String × Setting)) (dest : String) : Bool :=
  settings.lookup dest == some (.flag true)

/-- The format bound to the format option. -/
def formatOf (settings : List (String × Setting)) : Format :=
  if textOf settings "format" == some "json" then .json else .yaml

/-- The command a command name and its settings make. -/
def Command.ofSettings (name : String) (settings : List (String × Setting)) : Option Command :=
  let text := textOf settings
  let flag := flagOf settings
  match name with
  | "list-engines" => some .listEngines
  | "show-engine" => some (.showEngine (text "engine") (formatOf settings))
  | "use-engine" => some (.useEngine (text "engine") (flag "auto"))
  | "validate-engines" =>
    match settings.lookup "paths" with
    | some (.texts ps) => some (.validateEngines ps)
    | _ => some (.validateEngines [])
  | "select-engine" => some (.selectEngine (text "engines") (formatOf settings))
  | "show-machine" => some (.showMachine (formatOf settings) (flag "refresh"))
  | "get-config" => some (.getConfig (text "key") (formatOf settings))
  | "set-config" => some (.setConfig ((text "assignment").getD "") (flag "package"))
  | "unset-config" => some (.unsetConfig ((text "key").getD "") (flag "package"))
  | _ => none

/-- Reads a command line. -/
def parseInvocation (args : List String) : Except Stop Invocation := do
  let settings ← programGrammar.parse parseCommandWords args
  pure { enginesDir := textOf settings "engines_dir"
         configDir := textOf settings "config_dir"
         verbose := flagOf settings "verbose"
         command := (textOf settings "command").bind fun name => Command.ofSettings name settings }

end Cli
end EngineFit
