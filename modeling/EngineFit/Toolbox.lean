import EngineFit.Value.Literal
import EngineFit.Text.Blank
import EngineFit.Text.Utf8

/-!
# External tools

Some facts come from external tools: `nvidia-smi`, `clinfo`, `snapctl`. A toolbox says, for each
installed tool, whether it can be run and what it replies to each argument line: its output, its
error output, its exit status, and how long it takes. A tool without a reply for an argument line
uses its reply for `*`, and without that it exits with status 1.

Running a command looks the tool up by name. A command naming no program cannot start at all.
The program and its arguments are passed as bytes: a lone surrogate from U+DC80 to U+DCFF
stands for the byte of its low eight bits, any other surrogate cannot be passed, and an
argument may not hold a null byte. A tool that is not installed or cannot be run fails to
start; a tool that takes at least as long as the time limit is stopped.

What a finished tool gives back is what the operating system reports: its exit status is the
low eight bits of the requested code, read as a signed 64-bit number (a code beyond that range
is read as -1), and its output is read as UTF-8 text whose line ends, `\r\n` or a lone `\r`,
are line feeds. A tool writes its output as bytes the same way as its arguments are passed; a
reply whose output holds a surrogate it cannot write makes the tool fail with status 1 before
it writes anything.
-/

namespace EngineFit

/-- A tool's reply to one argument line. -/
structure Reply where
  stdout : String := ""
  stderr : String := ""
  code : Int := 0
  /-- How long the tool takes, in milliseconds. -/
  delay : Nat := 0
deriving DecidableEq, Repr

/-- One installed tool. -/
structure Tool where
  replies : List (String × Reply) := []
  runnable : Bool := true
deriving DecidableEq, Repr

/-- The installed tools, by name. -/
structure Toolbox where
  tools : List (String × Tool) := []
deriving DecidableEq, Repr

/-- A time limit: its length in milliseconds, and how it was written. -/
structure TimeLimit where
  millis : Nat
  text : String
deriving DecidableEq, Repr

/-- The default time limits of the tools, in seconds. -/
def TimeLimit.seconds (n : Nat) : TimeLimit := ⟨n * 1000, toString n⟩

/-- Why a command did not finish. -/
inductive RunFailure where
  /-- The command is empty. -/
  | noProgram
  | notFound (name : String)
  | notRunnable (name : String)
  | timedOut (command : List String) (limit : TimeLimit)
  /-- A program name or argument holds surrogates that cannot be passed: the text, and the
  positions of the first such surrogate and of the end of the run of surrogates it starts. -/
  | unencodable (text : String) (start stop : Nat)
  /-- A program name or argument holds a null byte. -/
  | nullByte
  /-- The output of the tool is not UTF-8. -/
  | undecodable (e : Text.Utf8Error)
deriving DecidableEq, Repr

/-- The kind of a run failure, as the operating system names it. -/
def RunFailure.kind : RunFailure → String
  | .noProgram => "IndexError"
  | .notFound _ => "FileNotFoundError"
  | .notRunnable _ => "PermissionError"
  | .timedOut _ _ => "TimeoutExpired"
  | .unencodable _ _ _ => "UnicodeEncodeError"
  | .nullByte => "ValueError"
  | .undecodable _ => "UnicodeDecodeError"

/-- How an encoding error names one code point: `\xNN`, `\uNNNN` or `\UNNNNNNNN`. -/
def codeEscape (n : Nat) : String :=
  if n ≤ 0xff then "\\x" ++ Value.hexDigits 2 n
  else if n ≤ 0xffff then "\\u" ++ Value.hexDigits 4 n
  else "\\U" ++ Value.hexDigits 8 n

/-- The wording of a run failure. -/
def RunFailure.message : RunFailure → String
  | .noProgram => "list index out of range"
  | .notFound n => "[Errno 2] No such file or directory: " ++ Value.quote n
  | .notRunnable n => "[Errno 13] Permission denied: " ++ Value.quote n
  | .timedOut cmd limit =>
    "Command '" ++ Value.literal (.list (cmd.map .str)) ++ "' timed out after " ++
      limit.text ++ " seconds"
  | .unencodable text start stop =>
    let what :=
      if stop = start + 1 then
        "character '" ++ codeEscape ((Text.codes text).getD start 0) ++ "' in position " ++
          toString start
      else "characters in position " ++ toString start ++ "-" ++ toString (stop - 1)
    "'utf-8' codec can't encode " ++ what ++ ": surrogates not allowed"
  | .nullByte => "embedded null byte"
  | .undecodable e => e.message

/-- Whether a surrogate stands for a byte when text is passed as bytes. -/
def isByteSurrogate (n : Nat) : Bool := 0xDC80 ≤ n && n ≤ 0xDCFF

/-- The first surrogate of `codes`, from position `pos` on, that cannot be passed as a byte, and
the end of the run of surrogates it is in. -/
def unpassable : List Nat → Nat → Option (Nat × Nat)
  | [], _ => none
  | n :: rest, pos =>
    if Text.isSurrogateCode n && !isByteSurrogate n then
      some (pos, pos + 1 + (rest.takeWhile Text.isSurrogateCode).length)
    else unpassable rest (pos + 1)

/-- The bytes that text is passed as, or the run of surrogates that cannot be passed. -/
def passedBytes (s : String) : Except RunFailure (List UInt8) :=
  let codes := Text.codes s
  match unpassable codes 0 with
  | some (start, stop) => .error (.unencodable s start stop)
  | none =>
    .ok (codes.flatMap fun n => if isByteSurrogate n then [(n - 0xDC00).toUInt8] else Text.utf8Of n)

/-- Checks that a command can be passed: its program name first, then each of its words, none
with a surrogate that cannot be passed or a null byte. -/
def checkPassable (command : List String) : Except RunFailure Unit := do
  if let name :: _ := command then
    let _ ← passedBytes name
  for word in command do
    let bytes ← passedBytes word
    if bytes.contains 0 then throw .nullByte

/-- The reply a tool gives when it has none for the arguments. -/
def Reply.unanswered : Reply := { code := 1, stderr := "no canned answer" }

/-- The reply of a tool to an argument line. -/
def Tool.replyTo (t : Tool) (argLine : String) : Reply :=
  match t.replies.find? (·.1 == argLine) with
  | some (_, r) => r
  | none =>
    match t.replies.find? (·.1 == "*") with
    | some (_, r) => r
    | none => Reply.unanswered

/-- The exit status reported for a requested exit code. -/
def exitStatus (code : Int) : Nat :=
  let word := Nat.pow 2 64
  if -(word / 2 : Int) ≤ code ∧ code < (word / 2 : Int) then (code % 256).toNat else 255

/-- Text as it is read from a tool: `\r\n` and a lone `\r` become line feeds. -/
def readLineEnds : List Char → List Char
  | '\r' :: '\n' :: rest => '\n' :: readLineEnds rest
  | '\r' :: rest => '\n' :: readLineEnds rest
  | c :: rest => c :: readLineEnds rest
  | [] => []

/-- What a finished tool gives back. -/
structure Finished where
  stdout : String
  stderr : String
  status : Nat
deriving DecidableEq, Repr

/-- What the operating system reports for a reply, or the fault of its output. -/
def Reply.finished (r : Reply) : Except RunFailure Finished :=
  match passedBytes r.stdout with
  | .error _ => .ok ⟨"", "", 1⟩
  | .ok bytes =>
    match Text.decodeUtf8 bytes with
    | .error e => .error (.undecodable e)
    | .ok out =>
      .ok ⟨String.ofList (readLineEnds out.toList), String.ofList (readLineEnds r.stderr.toList),
        exitStatus r.code⟩

/-- Runs a command: what the tool gives back, or why it did not finish. -/
def Toolbox.run (tb : Toolbox) (command : List String) (limit : TimeLimit) :
    Except RunFailure Finished :=
  match command with
  | [] => .error .noProgram
  | name :: args => do
    checkPassable command
    match tb.tools.find? (·.1 == name) with
    | none => .error (.notFound name)
    | some (_, tool) =>
      if !tool.runnable then .error (.notRunnable name)
      else
        let reply := tool.replyTo (" ".intercalate args)
        if reply.delay ≥ limit.millis then .error (.timedOut command limit)
        else reply.finished

/-- The output of a command, blanks stripped; nothing when the command does not finish, exits
with a status other than 0, or prints only blanks. A command that cannot be passed or whose
output is not text is an error, and so is an empty command. -/
def Toolbox.output (tb : Toolbox) (command : List String) (limit : TimeLimit) :
    Except RunFailure (Option String) :=
  match tb.run command limit with
  | .ok r =>
    if r.status != 0 then .ok none
    else
      let out := Text.strip r.stdout
      if out.isEmpty then .ok none else .ok (some out)
  | .error (.notFound _) | .error (.notRunnable _) | .error (.timedOut _ _) => .ok none
  | .error e => .error e

/-- The exit status of a command. -/
def Toolbox.status (tb : Toolbox) (command : List String) (limit : TimeLimit) :
    Except RunFailure Nat :=
  (tb.run command limit).map (·.status)

end EngineFit
