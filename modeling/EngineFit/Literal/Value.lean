import EngineFit.Literal.Syntax
import EngineFit.Text.Surrogate

/-!
# Literal values

`check` tells whether a text is a literal and, when it is not, why: the syntax error of
`read`, or the error of evaluating the tree. A literal is a constant (number, text, bytes,
`True`, `False`, `None`, `...`), a tuple, list, set or dictionary of literals, `set()`, a
number with a sign, or a real number plus or minus an imaginary one (`1+2j`). Anything else is
a malformed node.

Evaluation builds the value, so it fails as building does: an item of a set or a key of a
dictionary must be hashable, and lists, dictionaries and sets are not (nor is a tuple that
holds one). Items are evaluated in order, a dictionary key before its value and both before the
key is hashed.

Before parsing, a text must encode: a lone surrogate cannot, and a null character is refused.
-/

namespace EngineFit
namespace Literal

/-- Why a text is not a literal: a syntax error, or another error with its message. -/
inductive Refusal where
  | grammar (message : String)
  | other (message : String)
deriving DecidableEq, Repr

/-- The class name of a node, as a malformed node is shown. -/
def Expr.className : Expr → String
  | .constant _ => "Constant"
  | .name _ => "Name"
  | .tuple _ => "Tuple"
  | .list _ => "List"
  | .set _ => "Set"
  | .dict _ => "Dict"
  | .unary _ _ => "UnaryOp"
  | .binary _ _ _ => "BinOp"
  | .call _ _ => "Call"
  | .starred _ => "Starred"
  | .other .attribute => "Attribute"
  | .other .subscript => "Subscript"
  | .other .slice => "Slice"
  | .other .lambda => "Lambda"
  | .other .boolOp => "BoolOp"
  | .other .compare => "Compare"
  | .other .conditional => "IfExp"
  | .other .named => "NamedExpr"
  | .other .generator => "GeneratorExp"
  | .other .listComp => "ListComp"
  | .other .setComp => "SetComp"
  | .other .dictComp => "DictComp"
  | .other .yield => "Yield"
  | .other .await => "Await"
  | .other .formatted => "JoinedStr"
  | .other .keyword => "keyword"

/-- The error of a node that is not a literal. -/
def malformed (e : Expr) : String :=
  "malformed node or string on line 1: <ast." ++ e.className ++ " object>"

/-- What evaluation tells about a value: whether it can be hashed. A tuple is hashable when its
items are; the others are given by the name of their type when they are not. -/
inductive Shape where
  | hashable
  | unhashable (typeName : String)
  | tuple (items : List Shape)
deriving Repr, Inhabited

/-- The error of hashing a value, if any: the first unhashable part, in order. -/
def Shape.hashError : Shape → Option String
  | .hashable => none
  | .unhashable t => some ("unhashable type: '" ++ t ++ "'")
  | .tuple items => hashErrorAll items
where
  /-- The first error of hashing values, in order. -/
  hashErrorAll : List Shape → Option String
    | [] => none
    | s :: rest =>
      match s.hashError with
      | some m => some m
      | none => hashErrorAll rest

/-- Whether a node is a number constant, and whether that number is imaginary. -/
def numberKind? : Expr → Option NumberKind
  | .constant (.number k) => some k
  | _ => none

/-- Evaluates a number with at most one sign, giving its kind. -/
def signedNumber (e : Expr) : Except String NumberKind :=
  match e with
  | .unary o x =>
    if o == "+" || o == "-" then
      match numberKind? x with
      | some k => .ok k
      | none => .error (malformed x)
    else .error (malformed e)
  | _ =>
    match numberKind? e with
    | some k => .ok k
    | none => .error (malformed e)

mutual

/-- Evaluates a node as a literal, giving what hashing it would tell. -/
def evaluate : Expr → Except String Shape
  | .constant _ => .ok .hashable
  | .tuple items => (evaluateAll items).map .tuple
  | .list items => (evaluateAll items).map fun _ => .unhashable "list"
  | .set items => (evaluateMembers items).map fun _ => .unhashable "set"
  | .call (.name "set") [] => .ok (.unhashable "set")
  | .dict entries => (evaluateEntries entries).map fun _ => .unhashable "dict"
  | .binary o l r =>
    if o == "+" || o == "-" then do
      let left ← signedNumber l
      let right ← match numberKind? r with
        | some k => .ok k
        | none => .error (malformed r)
      if left != .imaginary && right == .imaginary then .ok .hashable
      else .error (malformed (.binary o l r))
    else .error (malformed (.binary o l r))
  | e => (signedNumber e).map fun _ => .hashable

/-- Evaluates nodes in order. -/
def evaluateAll : List Expr → Except String (List Shape)
  | [] => .ok []
  | e :: rest => do
    let s ← evaluate e
    let ss ← evaluateAll rest
    pure (s :: ss)

/-- Evaluates the items of a set, hashing each as it is added. -/
def evaluateMembers : List Expr → Except String Unit
  | [] => .ok ()
  | e :: rest => do
    let s ← evaluate e
    if let some m := s.hashError then throw m
    evaluateMembers rest

/-- Evaluates the entries of a dictionary: each key, then its value, then the key is hashed. An
entry that unpacks another mapping has no key to evaluate. -/
def evaluateEntries : List (Option Expr × Expr) → Except String Unit
  | [] => .ok ()
  | (none, _) :: _ => .error "malformed node or string: None"
  | (some k, v) :: rest => do
    let s ← evaluate k
    let _ ← evaluate v
    if let some m := s.hashError then throw m
    evaluateEntries rest

end

/-- The message of a text that cannot be encoded for reading: its first lone surrogate. -/
def encodingError (text : String) : Option String :=
  let codes := Text.codes text
  match codes.zipIdx.find? fun (n, _) => Text.isSurrogateCode n with
  | some (n, pos) =>
    some ("'utf-8' codec can't encode character '\\u" ++ String.ofList (Nat.toDigits 16 n) ++
      "' in position " ++ toString pos ++ ": surrogates not allowed")
  | none => none

/-- Why a text is not a literal, or `none` when it is one. -/
def check (text : String) : Option Refusal :=
  match encodingError text with
  | some m => some (.other m)
  | none =>
    if text.contains '\x00' then some (.other "source code string cannot contain null bytes")
    else
      let text := String.ofList (text.toList.dropWhile fun c => c = ' ' || c = '\t')
      match read text with
      | .syntaxError m => some (.grammar m)
      | .parsed e =>
        match evaluate e with
        | .ok _ => none
        | .error m => some (.other m)

end Literal
end EngineFit
