import EngineFit.Text.Digit

/-!
# Command-line grammars

A `Grammar` describes the words a command line takes: options, named by one or more option
strings (`-v`, `--verbose`), and at most one positional argument. Parsing binds each
destination to a `Setting`, or stops: at a help or version option, which end the program
successfully, or at a usage error, which ends it with status 2.

**Words.** Every word is first classified, before anything is bound:

* the first `--` is a separator, and every word after it is positional;
* a word not starting with `-`, the word `-`, and the empty word are positional;
* an option string names its option; `--name=text` attaches a text to an option;
* `--pre` names the one long option it is a prefix of (two or more is a usage error);
  `-xtext` names the short option `-x` with the attached text `text`;
* a word that looks like a negative number (`-5`, `-.5`) is positional, and so is a word with a
  space; any other word starting with `-` is an unknown option.

**Binding.** Words are taken from left to right. Runs of positional words go to the
positional argument while it has not been taken, as many as its `Arity` allows; an option
takes its argument from the next word, or from its attached text; a short flag with an
attached text (`-vh`) is followed by the short option the text starts with, and a text that
starts with no known short option is a usage error. The options of one word act only once the
whole word is read, so `-hx` is a usage error and shows no help. Unknown options and words
nothing takes are left over, and a left-over word is a usage error for the program as a
whole. A subcommand argument takes its name and every word after it, and parses those
with the subcommand's grammar.
-/

namespace EngineFit
namespace Cli

/-- What an option does when it is given. -/
inductive OptionAction where
  /-- Shows help and ends the program successfully. -/
  | help
  /-- Shows the version and ends the program successfully. -/
  | version
  /-- Sets its destination. -/
  | flag
  /-- Takes one argument, which must be one of the choices when there are any. -/
  | store (choices : Option (List String))
deriving DecidableEq, Repr

/-- Whether an option takes an argument. -/
def OptionAction.takesArgument : OptionAction → Bool
  | .store _ => true
  | _ => false

/-- The value bound to a destination. -/
inductive Setting where
  | absent
  | flag (on : Bool)
  | text (s : String)
  | texts (xs : List String)
deriving DecidableEq, Repr

/-- An option: its option strings, its destination, what it does and its default. -/
structure OptionSpec where
  names : List String
  dest : String
  action : OptionAction
  default : Setting := .absent
deriving DecidableEq, Repr

/-- How many positional words an argument takes. -/
inductive Arity where
  /-- Exactly one. -/
  | one
  /-- One if there is one. -/
  | optional
  /-- At least one. -/
  | oneOrMore
  /-- A subcommand name and every word after it, options included. -/
  | command
deriving DecidableEq, Repr

/-- Whether an argument of an arity must be given. -/
def Arity.required : Arity → Bool
  | .one | .oneOrMore => true
  | _ => false

/-- A positional argument: its destination, arity and choices. -/
structure PositionalSpec where
  dest : String
  arity : Arity
  choices : Option (List String) := none
deriving DecidableEq, Repr

/-- The options and positional argument of a command. -/
structure Grammar where
  options : List OptionSpec
  positional : Option PositionalSpec := none
deriving DecidableEq, Repr

/-- Why a command line is refused. -/
inductive UsageError where
  /-- A word is a prefix of several option strings. -/
  | ambiguous (word : String)
  /-- An option that takes an argument has none. -/
  | expectedArgument (option : String)
  /-- A text attached to an option that takes none. -/
  | ignoredArgument (option text : String)
  /-- A value outside an argument's choices. -/
  | invalidChoice (value : String)
  /-- A required positional argument is missing. -/
  | missing (dest : String)
  /-- Words nothing took. -/
  | unrecognized (words : List String)
deriving DecidableEq, Repr

/-- Why parsing stopped before the command could run. -/
inductive Stop where
  | help
  | version
  | usage (e : UsageError)
deriving DecidableEq, Repr

/-- The status the program ends with when parsing stops: 0 after help or version, 2 after a
usage error. -/
def Stop.exitCode : Stop → Nat
  | .help | .version => 0
  | .usage _ => 2

/-- How a word is read. -/
inductive Word where
  /-- A positional word. -/
  | positional
  /-- The first `--`. -/
  | separator
  /-- An option string, with the option it names (none if unknown) and an attached text. -/
  | option (spec : Option OptionSpec) (name : String) (attached : Option String)
deriving DecidableEq, Repr

/-- The role of a word in the pattern positional arguments are matched against. -/
inductive Mark where
  | word
  | separator
  | option
deriving DecidableEq, Repr

/-- The mark of a word. -/
def Word.mark : Word → Mark
  | .positional => .word
  | .separator => .separator
  | .option _ _ _ => .option

/-- Whether a word looks like a negative number: `-` and digits, or `-`, digits, a point and
digits; a final line feed is allowed. -/
def looksNegative (w : String) : Bool :=
  let cs := w.toList
  let cs := if cs.getLast? = some '\n' then cs.dropLast else cs
  match cs with
  | '-' :: rest =>
    let (whole, after) := rest.span Text.isDecimalDigit
    match after with
    | [] => !whole.isEmpty
    | '.' :: frac => !frac.isEmpty && frac.all Text.isDecimalDigit
    | _ => false
  | _ => false

/-- A word split at its first `=`, if it has one. -/
def splitAtEquals (w : String) : Option (String × String) :=
  match w.toList.span (· != '=') with
  | (name, '=' :: text) => some (String.ofList name, String.ofList text)
  | _ => none

namespace Grammar

/-- The option an option string names. -/
def find? (g : Grammar) (name : String) : Option OptionSpec :=
  g.options.find? (·.names.contains name)

/-- Every option string with its option, in order. -/
def optionStrings (g : Grammar) : List (OptionSpec × String) :=
  g.options.flatMap fun o => o.names.map (o, ·)

/-- The options a word may abbreviate or combine: long option strings it is a prefix of (with
the text after `=`), or for a single-dash word the short option of its first two characters
(with the rest attached) and the option strings it is a prefix of. -/
def candidates (g : Grammar) (w : String) : List (OptionSpec × String × Option String) :=
  match w.toList with
  | '-' :: '-' :: _ =>
    let (pre, attached) := match splitAtEquals w with
      | some (p, a) => (p, some a)
      | none => (w, none)
    g.optionStrings.filterMap fun (o, n) =>
      if pre.toList.isPrefixOf n.toList then some (o, n, attached) else none
  | '-' :: c :: more =>
    g.optionStrings.filterMap fun (o, n) =>
      if n == String.ofList ['-', c] then some (o, n, some (String.ofList more))
      else if w.toList.isPrefixOf n.toList then some (o, n, none)
      else none
  | _ => []

/-- Reads one word (not after the separator). -/
def classify (g : Grammar) (w : String) : Except UsageError Word :=
  match w.toList with
  | [] => .ok .positional
  | c :: rest =>
    if c != '-' then .ok .positional
    else match g.find? w with
    | some o => .ok (.option (some o) w none)
    | none =>
      if rest.isEmpty then .ok .positional
      else
        match (splitAtEquals w).bind fun (n, a) => (g.find? n).map fun o => (o, n, a) with
        | some (o, n, a) => .ok (.option (some o) n (some a))
        | none =>
          match g.candidates w with
          | [(o, n, a)] => .ok (.option (some o) n a)
          | _ :: _ :: _ => .error (.ambiguous w)
          | [] =>
            if looksNegative w && !g.optionStrings.any (looksNegative ·.2) then .ok .positional
            else if w.contains ' ' then .ok .positional
            else .ok (.option none w none)

/-- Reads every word; after the first `--` all words are positional. -/
def classifyAll (g : Grammar) : List String → Except UsageError (List Word)
  | [] => .ok []
  | w :: rest =>
    if w == "--" then .ok (.separator :: rest.map fun _ => .positional)
    else do
      let k ← g.classify w
      let ks ← g.classifyAll rest
      pure (k :: ks)

end Grammar

/-- The number of leading separators of a pattern. -/
def separatorsAtFront (marks : List Mark) : Nat :=
  (marks.takeWhile (· = .separator)).length

/-- How many words from the front of a pattern an argument of an arity takes: separators,
then its words and separators; none when it cannot take any. -/
def Arity.count (a : Arity) (marks : List Mark) : Option Nat :=
  let d := separatorsAtFront marks
  match a, marks.drop d with
  | .one, .word :: rest => some (d + 1 + separatorsAtFront rest)
  | .optional, .word :: rest => some (d + 1 + separatorsAtFront rest)
  | .optional, _ => some d
  | .oneOrMore, .word :: rest => some (d + 1 + (rest.takeWhile (· != .option)).length)
  | .command, .word :: rest => some (d + 1 + rest.length)
  | _, _ => none

/-- The settings bound so far, with the words left over. -/
structure Parse where
  bindings : List (String × Setting)
  extras : List String := []
  /-- The positional argument has been taken. -/
  positionalTaken : Bool := false

/-- Binds a destination, replacing an earlier binding. -/
def Parse.bind (p : Parse) (dest : String) (s : Setting) : Parse :=
  { p with bindings := (p.bindings.filter (·.1 != dest)) ++ [(dest, s)] }

/-- Checks a value against choices. -/
def checkChoice (choices : Option (List String)) (v : String) : Except Stop Unit :=
  match choices with
  | some cs => if cs.contains v then .ok () else .error (.usage (.invalidChoice v))
  | none => .ok ()

/-- Takes an option with its arguments. -/
def takeOption (p : Parse) (spec : OptionSpec) (args : List String) : Except Stop Parse :=
  match spec.action, args with
  | .help, _ => .error .help
  | .version, _ => .error .version
  | .flag, _ => .ok (p.bind spec.dest (.flag true))
  | .store choices, [v] => do checkChoice choices v; pure (p.bind spec.dest (.text v))
  | .store _, _ => .error (.usage (.expectedArgument (spec.names.headD "")))

/-- A subcommand parser: from the subcommand's name and the words after it, the settings and
the words left over. -/
abbrev Subcommands := String → List String → Except Stop (List (String × Setting) × List String)

/-- Drops the first separator of a list of words. -/
def dropSeparator : List String → List String
  | [] => []
  | w :: rest => if w == "--" then rest else w :: dropSeparator rest

/-- Takes the positional argument with its words. -/
def takePositional (p : Parse) (spec : PositionalSpec) (words : List String) (sub : Subcommands) :
    Except Stop Parse :=
  let p := { p with positionalTaken := true }
  match spec.arity, words with
  | .command, name :: rest => do
    checkChoice spec.choices name
    let (settings, extras) ← sub name rest
    let p := p.bind spec.dest (.text name)
    pure { (settings.foldl (fun p (d, s) => p.bind d s) p) with extras := p.extras ++ extras }
  | .command, [] => .ok p
  | .oneOrMore, _ => do
    let vs := dropSeparator words
    for v in vs do checkChoice spec.choices v
    pure (p.bind spec.dest (.texts vs))
  | _, _ =>
    match dropSeparator words with
    | [] => .ok (p.bind spec.dest .absent)
    | v :: _ => do checkChoice spec.choices v; pure (p.bind spec.dest (.text v))

namespace Grammar

/-- The words from `start` to `stop`. -/
def slice (words : Array String) (start stop : Nat) : List String :=
  (words.toList.drop start).take (stop - start)

/-- Takes positional words from `start` if the positional argument is still untaken and can
take them; the position after what was taken. -/
def consumePositional (g : Grammar) (sub : Subcommands) (words : Array String)
    (marks : List Mark) (start : Nat) (p : Parse) : Except Stop (Nat × Parse) :=
  match g.positional with
  | some spec =>
    if p.positionalTaken then .ok (start, p)
    else match spec.arity.count (marks.drop start) with
      | some n => do
        let p ← takePositional p spec (slice words start (start + n)) sub
        pure (start + n, p)
      | none => .ok (start, p)
  | none => .ok (start, p)

/-- The arguments an option takes from the words after it, when no text is attached. -/
def plainOption (words : Array String) (marks : List Mark) (start : Nat) (spec : OptionSpec)
    (name : String) (queue : List (OptionSpec × List String)) :
    Except Stop (List (OptionSpec × List String) × Nat) :=
  if spec.action.takesArgument then
    if marks[start + 1]? = some .word then .ok (queue ++ [(spec, slice words (start + 1) (start + 2))], start + 2)
    else .error (.usage (.expectedArgument name))
  else .ok (queue ++ [(spec, [])], start + 1)

/-- The options a word at `start` gives, with attached text `attached`: an option taking an
argument takes the text; a flag given with a single dash is followed by the short option the
text starts with, which gets the rest of the text, or the next words when no text is left. -/
def attachedOptions (g : Grammar) (words : Array String) (marks : List Mark) (start : Nat) :
    OptionSpec → String → List Char → List (OptionSpec × List String) →
    Except Stop (List (OptionSpec × List String) × Nat)
  | spec, name, attached, queue =>
    if spec.action.takesArgument then .ok (queue ++ [(spec, [String.ofList attached])], start + 1)
    else
      match attached, name.toList with
      | c :: more, _ :: second :: _ =>
        if second = '-' then .error (.usage (.ignoredArgument name (String.ofList attached)))
        else
          let queue := queue ++ [(spec, [])]
          let next := String.ofList ['-', c]
          match g.find? next with
          | some o =>
            if more.isEmpty then plainOption words marks start o next queue
            else attachedOptions g words marks start o next more queue
          | none => .error (.usage (.ignoredArgument next (String.ofList more)))
      | _, _ => .error (.usage (.ignoredArgument name (String.ofList attached)))

/-- Takes the option word at `start` and what it gives; the position after it. The options
act after the whole word is read, in order. -/
def consumeOption (g : Grammar) (words : Array String) (kinds : List Word) (start : Nat)
    (p : Parse) : Except Stop (Nat × Parse) :=
  let marks := kinds.map Word.mark
  match kinds[start]? with
  | some (.option (some spec) name attached) => do
    let (queue, stop) ← match attached with
      | some a => g.attachedOptions words marks start spec name a.toList []
      | none => plainOption words marks start spec name []
    let p ← queue.foldlM (fun p (o, args) => takeOption p o args) p
    pure (stop, p)
  | _ => .ok (start + 1, { p with extras := p.extras ++ slice words start (start + 1) })

/-- The first option word at or after `start`. -/
def nextOption (kinds : List Word) (start : Nat) : Option Nat :=
  ((List.range kinds.length).drop start).find? fun i => kinds[i]?.map Word.mark = some .option

/-- Takes words from `start` while an option word is ahead: positional runs, then the option.
Each round moves past at least one word, so `fuel` rounds for `fuel` words suffice. -/
def consumeAll (g : Grammar) (sub : Subcommands) (words : Array String) (kinds : List Word) :
    Nat → Nat → Parse → Except Stop (Nat × Parse)
  | 0, start, p => .ok (start, p)
  | fuel + 1, start, p =>
    match nextOption kinds start with
    | none => .ok (start, p)
    | some next => do
      let marks := kinds.map Word.mark
      let (stop, p) ← if start != next then g.consumePositional sub words marks start p
        else pure (start, p)
      if stop > start then g.consumeAll sub words kinds fuel stop p
      else
        let p := { p with extras := p.extras ++ slice words start next }
        let (stop, p) ← g.consumeOption words kinds next p
        g.consumeAll sub words kinds fuel stop p

/-- The initial settings: every option's default, help and version aside. -/
def defaults (g : Grammar) : List (String × Setting) :=
  (g.options.filter fun o => o.action != .help && o.action != .version).map fun o =>
    (o.dest, o.default)

/-- Parses words: the settings, and the words nothing took. -/
def parseKnown (g : Grammar) (sub : Subcommands) (args : List String) :
    Except Stop (List (String × Setting) × List String) := do
  let kinds ← (g.classifyAll args).mapError Stop.usage
  let words := args.toArray
  let start := { bindings := g.defaults : Parse }
  let start := match g.positional with
    | some spec => start.bind spec.dest .absent
    | none => start
  let (stop, p) ← g.consumeAll sub words kinds (args.length + 1) 0 start
  let (stop, p) ← g.consumePositional sub words (kinds.map Word.mark) stop p
  let p := { p with extras := p.extras ++ words.toList.drop stop }
  match g.positional with
  | some spec =>
    if spec.arity.required && !p.positionalTaken then throw (.usage (.missing spec.dest))
  | none => pure ()
  pure (p.bindings, p.extras)

/-- Parses a whole command line: a left-over word is a usage error. -/
def parse (g : Grammar) (sub : Subcommands) (args : List String) :
    Except Stop (List (String × Setting)) := do
  let (settings, extras) ← g.parseKnown sub args
  if extras.isEmpty then pure settings else throw (.usage (.unrecognized extras))

end Grammar

end Cli
end EngineFit
