import EngineFit.Literal.Token
import Std.Data.HashMap

/-!
# The grammar of literal expressions

`read` parses the tokens of a text as one expression, the whole text, and gives its tree or the
syntax error that a reader of such expressions reports. The grammar is that of expressions in
general (operators, comparisons, calls, subscripts, comprehensions, lambdas), since the text
must parse before it is judged as a literal (`Literal.Value`).

The parse is by ordered choice with backtracking: each rule tries its alternatives in turn, and
a rule gives the nodes it read and the position after them, or nothing. Results are remembered
per rule and position, so backtracking costs no more than a second look.

*Errors.* A first pass uses the plain grammar. When it fails, a second pass adds rules that
recognise common mistakes and raise a specific message: two expressions side by side inside
brackets ("Perhaps you forgot a comma?"), `=` where `==` or `:=` was meant, a dictionary key
without its value, and a few more. Whenever a pass looks at a fault of the scan, that fault is
the error (for a text that ends inside brackets, "'(' was never closed"). Otherwise the error is
the specific one, or "invalid syntax"; either gives way to a hard fault later in the text, and a
bracket left open on an earlier line than the error is reported instead.
-/

namespace EngineFit
namespace Literal

/-- The constants of the language. -/
inductive Constant where
  | number (kind : NumberKind)
  | text
  | bytes
  | true
  | false
  | none
  | ellipsis
deriving DecidableEq, Repr, Inhabited

/-- The nodes that are never literals and need nothing more than their kind. -/
inductive Form where
  | attribute
  | subscript
  | slice
  | lambda
  | boolOp
  | compare
  | conditional
  | named
  | generator
  | listComp
  | setComp
  | dictComp
  | yield
  | await
  | formatted
  | keyword
deriving DecidableEq, Repr, Inhabited

/-- An expression tree. A dictionary entry has no key when it unpacks another mapping (`**d`);
the arguments of a call include its keyword arguments. -/
inductive Expr where
  | constant (c : Constant)
  | name (id : String)
  | tuple (items : List Expr)
  | list (items : List Expr)
  | set (items : List Expr)
  | dict (entries : List (Option Expr × Expr))
  | unary (op : String) (operand : Expr)
  | binary (op : String) (left right : Expr)
  | call (func : Expr) (args : List Expr)
  | starred (value : Expr)
  | other (form : Form)
deriving Repr, Inhabited

/-- How messages name a form. -/
def Form.description : Form → String
  | .attribute => "attribute"
  | .subscript => "subscript"
  | .slice => "slice"
  | .lambda => "lambda"
  | .boolOp => "expression"
  | .compare => "comparison"
  | .conditional => "conditional expression"
  | .named => "named expression"
  | .generator => "generator expression"
  | .listComp => "list comprehension"
  | .setComp => "set comprehension"
  | .dictComp => "dict comprehension"
  | .yield => "yield expression"
  | .await => "await expression"
  | .formatted => "f-string expression"
  | .keyword => "keyword"

/-- How messages name an expression, as in "cannot assign to literal here". -/
def Expr.description : Expr → String
  | .constant .none => "None"
  | .constant .true => "True"
  | .constant .false => "False"
  | .constant .ellipsis => "ellipsis"
  | .constant _ => "literal"
  | .name _ => "name"
  | .tuple _ => "tuple"
  | .list _ => "list"
  | .set _ => "set display"
  | .dict _ => "dict literal"
  | .unary _ _ => "expression"
  | .binary _ _ _ => "expression"
  | .call _ _ => "function call"
  | .starred _ => "starred"
  | .other f => f.description

/-- The words that cannot be names. -/
def keywords : List String :=
  ["False", "None", "True", "and", "as", "assert", "async", "await", "break", "class",
    "continue", "def", "del", "elif", "else", "except", "finally", "for", "from", "global", "if",
    "import", "in", "is", "lambda", "nonlocal", "not", "or", "pass", "raise", "return", "try",
    "while", "with", "yield"]

/-- The names that are keywords only in some statements. -/
def softKeywords : List String := ["_", "case", "match"]

/-- Whether a token is the operator `s`. -/
def Tok.isOp (t : Tok) (s : String) : Bool :=
  match t with
  | .op o => o == s
  | _ => false

/-- Whether a token is the keyword `k`. -/
def Tok.isKeyword (t : Tok) (k : String) : Bool :=
  match t with
  | .name n => n == k
  | _ => false

/-- The name a token gives, unless it is a keyword. -/
def Tok.plainName? : Tok → Option String
  | .name n => if keywords.contains n then none else some n
  | _ => none

/-- Whether a token is a string. -/
def Tok.isString : Tok → Bool
  | .string _ _ => true
  | _ => false

/-- The rules of the grammar. `tail r` reads `, r` repeatedly, `gather r` reads `r` then its
tail, `wordTail w r` reads `w r` repeatedly; `chain n` reads the binary operators of level `n`
(from `|` at 0 to the multiplicative ones at 5) and `chainTail n` their repetitions. -/
inductive Rule where
  | eval
  | newlines
  | expressions
  | expression
  | invalidExpression
  | invalidLegacy
  | starExpressions
  | starExpression
  | starNamedExpressions
  | starNamedExpression
  | namedExpression
  | assignment
  | invalidNamed
  | disjunction
  | conjunction
  | inversion
  | comparison
  | comparePairs
  | chain (level : Nat)
  | chainTail (level : Nat)
  | factor
  | power
  | awaitPrimary
  | primary
  | trailers
  | arguments
  | args
  | positional
  | kwargs
  | kwarg
  | slices
  | slice
  | sliceOrStarred
  | atom
  | strings
  | tupleAtom
  | group
  | genexp
  | listAtom
  | listcomp
  | setAtom
  | dictAtom
  | dictcomp
  | setcomp
  | kvpairs
  | kvpairItem
  | kvpair
  | invalidKvpairs
  | invalidKvpair
  | forIfClauses
  | forIfClause
  | starTargets
  | starTarget
  | yieldExpr
  | lambdef
  | lambdaParams
  | lambdaParam
  | tail (elem : Rule)
  | gather (elem : Rule)
  | wordTail (word : String) (elem : Rule)
deriving BEq, Hashable, Repr, Inhabited

/-- The binary operators of a level of `chain`. -/
def chainOps : Nat → List String
  | 0 => ["|"]
  | 1 => ["^"]
  | 2 => ["&"]
  | 3 => ["<<", ">>"]
  | 4 => ["+", "-"]
  | _ => ["*", "/", "//", "%", "@"]

/-- What a rule gives when it matches: the nodes it read, each with the word that introduced
it (an operator, `key` or `value` in a dictionary, `call` for a call's arguments), and the
position after them. -/
abbrev Result := Option (List (String × Expr) × Nat)

/-- A match of a single node. -/
def done (e : Expr) (j : Nat) : Result := some ([("", e)], j)

/-- Why a pass stops at once: it looked at a fault of the scan, or a rule raised an error (with
the furthest position looked at then). -/
inductive Halt where
  | fault (f : Fault)
  | raised (message : String) (far : Nat)
deriving Repr, Inhabited

/-- The state of a pass: the furthest position looked at, and the results already known. -/
structure Progress where
  far : Nat := 0
  known : Std.HashMap (Rule × Nat × Bool) Result := {}

/-- A computation of a pass. -/
abbrev Parse := StateT Progress (Except Halt)

/-- The token at a position, looked at: a fault stops the pass. Past the end, the end marker. -/
def tokenAt (ts : Array Lexeme) (i : Nat) : Parse Tok := do
  modify fun p => { p with far := max p.far i }
  match (ts.getD i ⟨.endMarker, 0, 0⟩).tok with
  | .fault f => throw (.fault f)
  | t => pure t

/-- Raises a syntax error. -/
def raise (message : String) : Parse α := do
  throw (.raised message (← get).far)

/-- The result of a rule at a position, computed once. -/
def remember (rule : Rule) (inv : Bool) (i : Nat) (compute : Parse Result) : Parse Result := do
  match (← get).known.get? (rule, i, inv) with
  | some r => pure r
  | none =>
    let r ← compute
    modify fun p => { p with known := p.known.insert (rule, i, inv) r }
    pure r

/-- The first node of a result. -/
def first? (r : Result) : Option (Expr × Nat) :=
  match r with
  | some ((_, e) :: _, j) => some (e, j)
  | _ => none

/-- The nodes of a result, without their words. -/
def nodes (xs : List (String × Expr)) : List Expr := xs.map (·.2)

/-- The end of a run of strings from position `i`. -/
def stringsEnd (ts : Array Lexeme) (i : Nat) : Nat :=
  i + ((ts.toList.drop i).takeWhile (·.tok.isString)).length

/-- Joins adjacent strings into one constant: bytes may hold only ASCII characters, and bytes
do not join with text; a formatted string makes the whole a formatted string. -/
def joinStrings (ts : List Tok) : Except String Expr := do
  let mut bytesMode : Option Bool := none
  let mut formatted := false
  for t in ts do
    match t with
    | .string pre body =>
      let isBytes := pre.contains 'b'
      if isBytes && body.any (·.toNat ≥ 128) then
        throw "bytes can only contain ASCII literal characters"
      if let some b := bytesMode then
        if b != isBytes then throw "cannot mix bytes and nonbytes literals"
      bytesMode := some isBytes
      formatted := formatted || pre.contains 'f'
    | _ => pure ()
  if formatted then pure (.other .formatted)
  else if bytesMode == some true then pure (.constant .bytes)
  else pure (.constant .text)

/-- Applies the trailers read after an atom: attributes, calls and subscripts. -/
def applyTrailer (acc : Expr) : String × Expr → Expr
  | (".", _) => .other .attribute
  | ("call", .tuple args) => .call acc args
  | _ => .other .subscript

/-- Builds a dictionary from its entries: `key` and `value` words pair up, `**` unpacks. -/
def dictEntries : List (String × Expr) → List (Option Expr × Expr)
  | ("key", k) :: (_, v) :: rest => (some k, v) :: dictEntries rest
  | (_, v) :: rest => (none, v) :: dictEntries rest
  | [] => []

/-- Parses rule `rule` at position `i` with at most `fuel` nested rules; `inv` adds the rules
that recognise mistakes. -/
def parse (ts : Array Lexeme) : Nat → Bool → Rule → Nat → Parse Result
  | 0, _, _, _ => pure none
  | fuel + 1, inv, rule, i => remember rule inv i do
    let run := parse ts fuel inv
    let one (r : Rule) (j : Nat) : Parse (Option (Expr × Nat)) := do
      pure (first? (← run r j))
    let tok := tokenAt ts
    let op (j : Nat) (s : String) : Parse Bool := do pure ((← tok j).isOp s)
    let kw (j : Nat) (k : String) : Parse Bool := do pure ((← tok j).isKeyword k)
    let optComma (j : Nat) : Parse Nat := do pure (if ← op j "," then j + 1 else j)
    match rule with
    | .eval =>
      let some (e, j) ← one .expressions i | pure none
      let some (_, k) ← run .newlines j | pure none
      match ← tok k with
      | .endMarker => pure (done e k)
      | _ => pure none
    | .newlines =>
      match ← tok i with
      | .newline =>
        match ← run .newlines (i + 1) with
        | some (_, k) => pure (some ([], k))
        | none => pure (some ([], i + 1))
      | _ => pure (some ([], i))
    | .expressions =>
      let some (a, j) ← one .expression i | pure none
      if ← op j "," then
        let more := (← run (.tail .expression) j).getD ([], j)
        if more.1.isEmpty then pure (done (.tuple [a]) (j + 1))
        else pure (done (.tuple (a :: nodes more.1)) (← optComma more.2))
      else pure (done a j)
    | .starExpressions =>
      let some (a, j) ← one .starExpression i | pure none
      if ← op j "," then
        let more := (← run (.tail .starExpression) j).getD ([], j)
        if more.1.isEmpty then pure (done (.tuple [a]) (j + 1))
        else pure (done (.tuple (a :: nodes more.1)) (← optComma more.2))
      else pure (done a j)
    | .tail elem =>
      if ← op i "," then
        match ← run elem (i + 1) with
        | some (xs, j) =>
          match ← run (.tail elem) j with
          | some (ys, k) => pure (some (xs ++ ys, k))
          | none => pure (some (xs, j))
        | none => pure (some ([], i))
      else pure (some ([], i))
    | .gather elem =>
      let some (xs, j) ← run elem i | pure none
      match ← run (.tail elem) j with
      | some (ys, k) => pure (some (xs ++ ys, k))
      | none => pure (some (xs, j))
    | .wordTail w elem =>
      if ← kw i w then
        match ← run elem (i + 1) with
        | some (xs, j) =>
          match ← run (.wordTail w elem) j with
          | some (ys, k) => pure (some (xs ++ ys, k))
          | none => pure (some (xs, j))
        | none => pure (some ([], i))
      else pure (some ([], i))
    | .expression =>
      if inv then
        let _ ← run .invalidExpression i
        let _ ← run .invalidLegacy i
      match ← one .disjunction i with
      | none => run .lambdef i
      | some (a, j) =>
        if ← kw j "if" then
          if let some (_, k) ← one .disjunction (j + 1) then
            if ← kw k "else" then
              if let some (_, m) ← one .expression (k + 1) then
                return done (.other .conditional) m
        pure (done a j)
    | .invalidExpression =>
      let t ← tok i
      let blocked ← match t.plainName? with
        | some n => do
          if (← tok (i + 1)).isString then pure true else pure (softKeywords.contains n)
        | none => pure false
      if !blocked then
        if let some (a, j) ← one .disjunction i then
          if let some (_, k) := first? (← parse ts fuel false .expression j) then
            let legacy := match a with
              | .name n => n == "print" || n == "exec"
              | _ => false
            if !legacy && (ts.getD (k - 1) ⟨.endMarker, 0, 0⟩).level != 0 then
              raise "invalid syntax. Perhaps you forgot a comma?"
      if let some (_, j) ← one .disjunction i then
        if ← kw j "if" then
          if let some (_, k) ← one .disjunction (j + 1) then
            let t ← tok k
            if !(t.isKeyword "else" || t.isOp ":") then
              raise "expected 'else' after 'if' expression"
      pure none
    | .invalidLegacy =>
      let some n := (← tok i).plainName? | pure none
      if ← op (i + 1) "(" then return none
      let some _ ← run .starExpressions (i + 1) | pure none
      if n == "print" || n == "exec" then
        raise ("Missing parentheses in call to '" ++ n ++ "'. Did you mean " ++ n ++ "(...)?")
      pure none
    | .starExpression =>
      if ← op i "*" then
        if let some (a, j) ← one (.chain 0) (i + 1) then return done (.starred a) j
      run .expression i
    | .starNamedExpressions =>
      let some (xs, j) ← run (.gather .starNamedExpression) i | pure none
      pure (some (xs, ← optComma j))
    | .starNamedExpression =>
      if ← op i "*" then
        if let some (a, j) ← one (.chain 0) (i + 1) then return done (.starred a) j
      run .namedExpression i
    | .namedExpression =>
      if let some r ← one .assignment i then return done r.1 r.2
      if inv then
        let _ ← run .invalidNamed i
      let some (a, j) ← one .expression i | pure none
      if ← op j ":=" then pure none else pure (done a j)
    | .assignment =>
      let some _ := (← tok i).plainName? | pure none
      if !(← op (i + 1) ":=") then return none
      let some (_, j) ← one .expression (i + 2) | pure none
      pure (done (.other .named) j)
    | .invalidNamed =>
      if let some (a, j) ← one .expression i then
        if ← op j ":=" then
          if let some _ ← one .expression (j + 1) then
            raise ("cannot use assignment expressions with " ++ a.description)
      if let some _ := (← tok i).plainName? then
        if ← op (i + 1) "=" then
          if let some (_, j) ← one (.chain 0) (i + 2) then
            let t ← tok j
            if !(t.isOp "=" || t.isOp ":=") then
              raise "invalid syntax. Maybe you meant '==' or ':=' instead of '='?"
      let excluded ← do
        if (← run .listAtom i).isSome then pure true
        else if (← run .tupleAtom i).isSome then pure true
        else if (← run .genexp i).isSome then pure true
        else
          let t ← tok i
          pure (t.isKeyword "True" || t.isKeyword "None" || t.isKeyword "False")
      if !excluded then
        if let some (a, j) ← one (.chain 0) i then
          if ← op j "=" then
            if let some (_, k) ← one (.chain 0) (j + 1) then
              let t ← tok k
              if !(t.isOp "=" || t.isOp ":=") then
                raise ("cannot assign to " ++ a.description ++
                  " here. Maybe you meant '==' instead of '='?")
      pure none
    | .disjunction =>
      let some (a, j) ← one .conjunction i | pure none
      match ← run (.wordTail "or" .conjunction) j with
      | some (more, k) => pure (if more.isEmpty then done a j else done (.other .boolOp) k)
      | none => pure (done a j)
    | .conjunction =>
      let some (a, j) ← one .inversion i | pure none
      match ← run (.wordTail "and" .inversion) j with
      | some (more, k) => pure (if more.isEmpty then done a j else done (.other .boolOp) k)
      | none => pure (done a j)
    | .inversion =>
      if ← kw i "not" then
        if let some (a, j) ← one .inversion (i + 1) then return done (.unary "not" a) j
      run .comparison i
    | .comparison =>
      let some (a, j) ← one (.chain 0) i | pure none
      match ← run .comparePairs j with
      | some (pairs, k) => pure (if pairs.isEmpty then done a j else done (.other .compare) k)
      | none => pure (done a j)
    | .comparePairs =>
      let t ← tok i
      let next ← match t with
        | .op o =>
          if ["==", "!=", "<=", "<", ">=", ">"].contains o then one (.chain 0) (i + 1)
          else pure none
        | .name "not" => do
          if ← kw (i + 1) "in" then one (.chain 0) (i + 2) else pure none
        | .name "in" => one (.chain 0) (i + 1)
        | .name "is" => do
          if ← kw (i + 1) "not" then
            match ← one (.chain 0) (i + 2) with
            | some r => pure (some r)
            | none => one (.chain 0) (i + 1)
          else one (.chain 0) (i + 1)
        | _ => pure none
      match next with
      | none => pure (some ([], i))
      | some (b, j) =>
        match ← run .comparePairs j with
        | some (xs, k) => pure (some (("", b) :: xs, k))
        | none => pure (some ([("", b)], j))
    | .chain level =>
      let operand := if level < 5 then Rule.chain (level + 1) else Rule.factor
      let some (a, j) ← one operand i | pure none
      match ← run (.chainTail level) j with
      | some (tail, k) => pure (done (tail.foldl (fun acc (o, b) => .binary o acc b) a) k)
      | none => pure (done a j)
    | .chainTail level =>
      let operand := if level < 5 then Rule.chain (level + 1) else Rule.factor
      match ← tok i with
      | .op o =>
        if (chainOps level).contains o then
          match ← one operand (i + 1) with
          | some (b, j) =>
            match ← run (.chainTail level) j with
            | some (xs, k) => pure (some ((o, b) :: xs, k))
            | none => pure (some ([(o, b)], j))
          | none => pure (some ([], i))
        else pure (some ([], i))
      | _ => pure (some ([], i))
    | .factor =>
      match ← tok i with
      | .op o =>
        if o == "+" || o == "-" || o == "~" then
          match ← one .factor (i + 1) with
          | some (a, j) => pure (done (.unary o a) j)
          | none => pure none
        else run .power i
      | _ => run .power i
    | .power =>
      let some (a, j) ← one .awaitPrimary i | pure none
      if ← op j "**" then
        if let some (b, k) ← one .factor (j + 1) then return done (.binary "**" a b) k
      pure (done a j)
    | .awaitPrimary =>
      if ← kw i "await" then
        match ← one .primary (i + 1) with
        | some (_, j) => pure (done (.other .await) j)
        | none => pure none
      else run .primary i
    | .primary =>
      let some (a, j) ← one .atom i | pure none
      match ← run .trailers j with
      | some (xs, k) => pure (done (xs.foldl applyTrailer a) k)
      | none => pure (done a j)
    | .trailers =>
      let found : Option (String × Expr × Nat) ← do
        if (← op i ".") && ((← tok (i + 1)).plainName?).isSome then
          pure (some (".", .other .attribute, i + 2))
        else
          match ← one .genexp i with
          | some (g, j) => pure (some ("call", .tuple [g], j))
          | none =>
            if ← op i "(" then
              match ← run .arguments (i + 1) with
              | some (xs, j) =>
                if ← op j ")" then pure (some ("call", .tuple (nodes xs), j + 1)) else pure none
              | none =>
                if ← op (i + 1) ")" then pure (some ("call", .tuple [], i + 2)) else pure none
            else if ← op i "[" then
              match ← one .slices (i + 1) with
              | some (s, j) => if ← op j "]" then pure (some ("[", s, j + 1)) else pure none
              | none => pure none
            else pure none
      match found with
      | none => pure (some ([], i))
      | some (word, e, j) =>
        match ← run .trailers j with
        | some (xs, k) => pure (some ((word, e) :: xs, k))
        | none => pure (some ([(word, e)], j))
    | .arguments =>
      let some (xs, j) ← run .args i | pure none
      let j ← optComma j
      if ← op j ")" then pure (some (xs, j)) else pure none
    | .args =>
      match ← run (.gather .positional) i with
      | some (xs, j) =>
        if ← op j "," then
          match ← run .kwargs (j + 1) with
          | some (ys, k) => pure (some (xs ++ ys, k))
          | none => pure (some (xs, j))
        else pure (some (xs, j))
      | none => run .kwargs i
    | .positional =>
      if ← op i "*" then
        if let some (a, j) ← one .expression (i + 1) then return done (.starred a) j
      let r ← do
        match ← one .assignment i with
        | some r => pure (some r)
        | none =>
          match ← one .expression i with
          | some (a, j) => if ← op j ":=" then pure none else pure (some (a, j))
          | none => pure none
      match r with
      | some (a, j) => if ← op j "=" then pure none else pure (done a j)
      | none => pure none
    | .kwargs => run (.gather .kwarg) i
    | .kwarg =>
      let t ← tok i
      if inv then
        if t.isKeyword "True" || t.isKeyword "False" || t.isKeyword "None" then
          if ← op (i + 1) "=" then
            raise ("cannot assign to " ++ (match t with | .name n => n | _ => ""))
        let namedArg ← do
          if t.plainName?.isSome then op (i + 1) "=" else pure false
        if namedArg then
          if let some (_, j) ← one .expression (i + 2) then
            if (← run .forIfClauses j).isSome then
              raise "invalid syntax. Maybe you meant '==' or ':=' instead of '='?"
        else
          if let some (_, j) ← one .expression i then
            if ← op j "=" then
              raise "expression cannot contain assignment, perhaps you meant \"==\"?"
      if t.plainName?.isSome then
        if ← op (i + 1) "=" then
          if let some (_, j) ← one .expression (i + 2) then return done (.other .keyword) j
      if (← op i "*") || (← op i "**") then
        if let some (_, j) ← one .expression (i + 1) then return done (.other .keyword) j
      pure none
    | .slices =>
      if let some (a, j) ← one .slice i then
        if !(← op j ",") then return done a j
      let some (xs, j) ← run (.gather .sliceOrStarred) i | pure none
      pure (done (.tuple (nodes xs)) (← optComma j))
    | .sliceOrStarred =>
      match ← run .slice i with
      | some r => pure (some r)
      | none =>
        if ← op i "*" then
          match ← one .expression (i + 1) with
          | some (a, j) => pure (done (.starred a) j)
          | none => pure none
        else pure none
    | .slice =>
      let j := match ← one .expression i with
        | some (_, j) => j
        | none => i
      if ← op j ":" then
        let k := match ← one .expression (j + 1) with
          | some (_, k) => k
          | none => j + 1
        let m ← do
          if ← op k ":" then
            match ← one .expression (k + 1) with
            | some (_, m) => pure m
            | none => pure (k + 1)
          else pure k
        return done (.other .slice) m
      run .namedExpression i
    | .atom =>
      match ← tok i with
      | .name n =>
        if n == "True" then pure (done (.constant .true) (i + 1))
        else if n == "False" then pure (done (.constant .false) (i + 1))
        else if n == "None" then pure (done (.constant .none) (i + 1))
        else if keywords.contains n then pure none
        else pure (done (.name n) (i + 1))
      | .string _ _ => run .strings i
      | .number k => pure (done (.constant (.number k)) (i + 1))
      | .op "(" =>
        if let some r ← run .tupleAtom i then return some r
        if let some r ← run .group i then return some r
        run .genexp i
      | .op "[" =>
        if let some r ← run .listAtom i then return some r
        run .listcomp i
      | .op "\x7b" =>
        if let some r ← run .dictAtom i then return some r
        if let some r ← run .setAtom i then return some r
        if let some r ← run .dictcomp i then return some r
        run .setcomp i
      | .op "..." => pure (done (.constant .ellipsis) (i + 1))
      | _ => pure none
    | .strings =>
      let k := stringsEnd ts i
      let _ ← tok k
      match joinStrings (((ts.toList.drop i).take (k - i)).map (·.tok)) with
      | .error m => raise m
      | .ok e => pure (done e k)
    | .tupleAtom =>
      if !(← op i "(") then return none
      let empty : Parse Result := do
        if ← op (i + 1) ")" then pure (done (.tuple []) (i + 2)) else pure none
      match ← one .starNamedExpression (i + 1) with
      | some (a, j) =>
        if ← op j "," then
          match ← run .starNamedExpressions (j + 1) with
          | some (xs, k) =>
            if ← op k ")" then pure (done (.tuple (a :: nodes xs)) (k + 1)) else pure none
          | none => if ← op (j + 1) ")" then pure (done (.tuple [a]) (j + 2)) else pure none
        else empty
      | none => empty
    | .group =>
      if !(← op i "(") then return none
      let inner ← do
        match ← one .yieldExpr (i + 1) with
        | some r => pure (some r)
        | none => one .namedExpression (i + 1)
      if let some (a, j) := inner then
        if ← op j ")" then return done a (j + 1)
      if inv then
        if ← op (i + 1) "*" then
          if let some (_, j) ← one .expression (i + 2) then
            if ← op j ")" then raise "cannot use starred expression here"
        if ← op (i + 1) "**" then
          if let some (_, j) ← one .expression (i + 2) then
            if ← op j ")" then raise "cannot use double starred expression here"
      pure none
    | .genexp =>
      if !(← op i "(") then return none
      let inner ← do
        match ← one .assignment (i + 1) with
        | some r => pure (some r)
        | none =>
          match ← one .expression (i + 1) with
          | some (a, j) => if ← op j ":=" then pure none else pure (some (a, j))
          | none => pure none
      if let some (_, j) := inner then
        if let some (_, k) ← run .forIfClauses j then
          if ← op k ")" then return done (.other .generator) (k + 1)
      pure none
    | .listAtom =>
      if !(← op i "[") then return none
      match ← run .starNamedExpressions (i + 1) with
      | some (xs, j) => if ← op j "]" then pure (done (.list (nodes xs)) (j + 1)) else pure none
      | none => if ← op (i + 1) "]" then pure (done (.list []) (i + 2)) else pure none
    | .listcomp =>
      if !(← op i "[") then return none
      let some (_, j) ← one .namedExpression (i + 1) | pure none
      let some (_, k) ← run .forIfClauses j | pure none
      if ← op k "]" then pure (done (.other .listComp) (k + 1)) else pure none
    | .setAtom =>
      if !(← op i "\x7b") then return none
      let some (xs, j) ← run .starNamedExpressions (i + 1) | pure none
      if ← op j "\x7d" then pure (done (.set (nodes xs)) (j + 1)) else pure none
    | .dictAtom =>
      if !(← op i "\x7b") then return none
      match ← run .kvpairs (i + 1) with
      | some (xs, j) =>
        if ← op j "\x7d" then return done (.dict (dictEntries xs)) (j + 1)
      | none =>
        if ← op (i + 1) "\x7d" then return done (.dict []) (i + 2)
      if inv then
        let _ ← run .invalidKvpairs (i + 1)
      pure none
    | .dictcomp =>
      if !(← op i "\x7b") then return none
      let some (_, j) ← run .kvpair (i + 1) | pure none
      let some (_, k) ← run .forIfClauses j | pure none
      if ← op k "\x7d" then pure (done (.other .dictComp) (k + 1)) else pure none
    | .setcomp =>
      if !(← op i "\x7b") then return none
      let some (_, j) ← one .namedExpression (i + 1) | pure none
      let some (_, k) ← run .forIfClauses j | pure none
      if ← op k "\x7d" then pure (done (.other .setComp) (k + 1)) else pure none
    | .kvpairs =>
      let some (xs, j) ← run (.gather .kvpairItem) i | pure none
      pure (some (xs, ← optComma j))
    | .kvpairItem =>
      if ← op i "**" then
        match ← one (.chain 0) (i + 1) with
        | some (a, j) => pure (some ([("**", a)], j))
        | none => run .kvpair i
      else run .kvpair i
    | .kvpair =>
      let some (a, j) ← one .expression i | pure none
      if !(← op j ":") then return none
      let some (b, k) ← one .expression (j + 1) | pure none
      pure (some ([("key", a), ("value", b)], k))
    | .invalidKvpairs =>
      if let some (_, j) ← run (.gather .kvpairItem) i then
        if ← op j "," then
          let _ ← run .invalidKvpair (j + 1)
      if let some (_, j) ← one .expression i then
        if ← op j ":" then
          if ← op (j + 1) "*" then
            if (← one (.chain 0) (j + 2)).isSome then
              raise "cannot use a starred expression in a dictionary value"
          let t ← tok (j + 1)
          if t.isOp "\x7d" || t.isOp "," then
            raise "expression expected after dictionary key and ':'"
      pure none
    | .invalidKvpair =>
      if let some (_, j) ← one .expression i then
        if !(← op j ":") then raise "':' expected after dictionary key"
        if ← op (j + 1) "*" then
          if (← one (.chain 0) (j + 2)).isSome then
            raise "cannot use a starred expression in a dictionary value"
        let t ← tok (j + 1)
        if t.isOp "\x7d" || t.isOp "," then
          raise "expression expected after dictionary key and ':'"
      pure none
    | .forIfClauses =>
      let some (_, j) ← run .forIfClause i | pure none
      match ← run .forIfClauses j with
      | some (_, k) => pure (some ([], k))
      | none => pure (some ([], j))
    | .forIfClause =>
      let j := if ← kw i "async" then i + 1 else i
      if !(← kw j "for") then return none
      let some (_, k) ← run .starTargets (j + 1) | pure none
      if !(← kw k "in") then return none
      let some (_, m) ← one .disjunction (k + 1) | pure none
      match ← run (.wordTail "if" .disjunction) m with
      | some (_, n) => pure (some ([], n))
      | none => pure (some ([], m))
    | .starTargets =>
      let some (xs, j) ← run (.gather .starTarget) i | pure none
      pure (some (xs, ← optComma j))
    | .starTarget =>
      let j := if ← op i "*" then i + 1 else i
      run .primary j
    | .yieldExpr =>
      if !(← kw i "yield") then return none
      if ← kw (i + 1) "from" then
        if let some (_, j) ← one .expression (i + 2) then return done (.other .yield) j
      match ← run .starExpressions (i + 1) with
      | some (_, j) => pure (done (.other .yield) j)
      | none => pure (done (.other .yield) (i + 1))
    | .lambdef =>
      if !(← kw i "lambda") then return none
      let j := match ← run .lambdaParams (i + 1) with
        | some (_, j) => j
        | none => i + 1
      if !(← op j ":") then return none
      let some (_, k) ← one .expression (j + 1) | pure none
      pure (done (.other .lambda) k)
    | .lambdaParams =>
      let some (xs, j) ← run (.gather .lambdaParam) i | pure none
      pure (some (xs, ← optComma j))
    | .lambdaParam =>
      let t ← tok i
      if t.isOp "/" then return some ([], i + 1)
      if t.isOp "**" then
        return if ((← tok (i + 1)).plainName?).isSome then some ([], i + 2) else none
      if t.isOp "*" then
        return if ((← tok (i + 1)).plainName?).isSome then some ([], i + 2) else some ([], i + 1)
      if t.plainName?.isSome then
        if ← op (i + 1) "=" then
          return match ← one .expression (i + 2) with
            | some (_, j) => some ([], j)
            | none => none
        return some ([], i + 1)
      pure none

/-- The outcome of reading a text as an expression: its tree, or the syntax error. -/
inductive Reading where
  | parsed (e : Expr)
  | syntaxError (message : String)
deriving Repr, Inhabited

/-- The error that stands after a pass raised `message` having looked as far as `far`: a hard
fault later in the text takes its place, and so does a bracket left open on a line before the
one the error was found on. -/
def laterFault (ts : Array Lexeme) (message : String) (far : Nat) : String :=
  match ts.back? with
  | some ⟨.fault f, _, _⟩ =>
    if f.hard then f.message
    else
      match f.unclosed with
      | some (b, line) =>
        if (ts.getD far ⟨.endMarker, 0, 0⟩).line > line then
          "'" ++ String.singleton b ++ "' was never closed"
        else message
      | none => message
  | _ => message

/-- Reads a text as one expression. -/
def read (text : String) : Reading :=
  let ts := tokenize text
  let fuel := 64 * (ts.size + 2)
  let pass (inv : Bool) := (parse ts fuel inv .eval 0).run {}
  match pass false with
  | .error (.fault f) => .syntaxError f.message
  | .error (.raised m far) => .syntaxError (laterFault ts m far)
  | .ok (some ((_, e) :: _, _), _) => .parsed e
  | .ok (_, firstPass) =>
    let last := (ts.getD firstPass.far ⟨.endMarker, 0, 0⟩).tok
    match pass true with
    | .error (.fault f) => .syntaxError f.message
    | .error (.raised m far) => .syntaxError (laterFault ts m far)
    | .ok (_, secondPass) =>
      match last with
      | .indent => .syntaxError "unexpected indent"
      | .dedent => .syntaxError "unexpected unindent"
      | _ => .syntaxError (laterFault ts "invalid syntax" secondPass.far)

end Literal
end EngineFit
