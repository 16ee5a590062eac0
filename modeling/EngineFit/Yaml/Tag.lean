import EngineFit.Yaml.Timestamp
import EngineFit.Yaml.Cursor

/-!
# Tags and the tags of plain scalars

A node's tag says what kind of value it stands for. The tags of the YAML 1.1 types this reader
constructs are named; any other tag is kept by its URI and names no value.

A plain scalar with no tag (or the non-specific tag `!`) gets its tag from its text
(`Tag.resolve`), by the first character and then by patterns tried in order:

* booleans: `yes`, `no`, `true`, `false`, `on`, `off`, each lower-case, capitalised or upper-case;
* floats: a point is required: `1.5`, `1.`, `.5`, `1_000.0`, with an optional exponent with a
  sign (`1.0e+3`); sexagesimal `1:30.5`; `.inf`, `-.Inf`, `.NaN`;
* integers: `0b1010`, `017` (octal), `0x1F`, decimal with `_` separators, sexagesimal `1:30`;
* the merge key `<<`; null: `~`, `null`, `Null`, `NULL` and the empty text;
* timestamps: `2001-12-14`, or a date with a time (see `DateText.parse`);
* the value key `=`.

Anything else is a text. A pattern matches the whole text, or the whole text but a final line
feed.
-/

namespace EngineFit
namespace Yaml

/-- The tag of a node. -/
inductive Tag where
  | null
  | bool
  | int
  | float
  | timestamp
  | str
  | seq
  | map
  /-- Base64 text standing for a byte string. -/
  | binary
  /-- A mapping whose keys form a set. -/
  | set
  /-- A sequence of single-entry mappings standing for an ordered map, as a list of pairs. -/
  | omap
  /-- A sequence of single-entry mappings standing for a list of pairs. -/
  | pairs
  /-- The merge key `<<`. -/
  | merge
  /-- The value key `=`. -/
  | value
  /-- A tag this reader constructs no value for. -/
  | other (uri : String)
deriving Repr, DecidableEq, BEq, Inhabited

/-- The full name of a tag. -/
def Tag.uri : Tag → String
  | .null => "tag:yaml.org,2002:null"
  | .bool => "tag:yaml.org,2002:bool"
  | .int => "tag:yaml.org,2002:int"
  | .float => "tag:yaml.org,2002:float"
  | .timestamp => "tag:yaml.org,2002:timestamp"
  | .str => "tag:yaml.org,2002:str"
  | .seq => "tag:yaml.org,2002:seq"
  | .map => "tag:yaml.org,2002:map"
  | .binary => "tag:yaml.org,2002:binary"
  | .set => "tag:yaml.org,2002:set"
  | .omap => "tag:yaml.org,2002:omap"
  | .pairs => "tag:yaml.org,2002:pairs"
  | .merge => "tag:yaml.org,2002:merge"
  | .value => "tag:yaml.org,2002:value"
  | .other u => u

/-- The named tags. -/
def Tag.named : List Tag :=
  [.null, .bool, .int, .float, .timestamp, .str, .seq, .map, .binary, .set, .omap, .pairs,
    .merge, .value]

/-- The tag a full name denotes. -/
def Tag.ofUri (u : String) : Tag :=
  (Tag.named.find? (·.uri == u)).getD (.other u)

/-- A digit or an underscore. -/
def isDigitOrUnderscore (c : Char) : Bool := isDigitChar c || c = '_'

/-- The rest after `[0-9][0-9_]*`. -/
def afterDigitRun : List Char → Option (List Char)
  | d :: r => if isDigitChar d then some (r.dropWhile isDigitOrUnderscore) else none
  | [] => none

/-- An exponent `[eE][-+][0-9]+`, or nothing. -/
def isExponentTail : List Char → Bool
  | [] => true
  | e :: s :: ds => (e = 'e' || e = 'E') && (s = '-' || s = '+') && !ds.isEmpty && ds.all isDigitChar
  | _ => false

/-- The rest after sexagesimal groups `:[0-5]?[0-9]`; `n` counts the groups read, and at least
one is needed. A group takes two digits when the first is at most 5 and a second follows. -/
def afterSexagesimal (cs : List Char) (n : Nat) : Option (List Char) :=
  match cs with
  | ':' :: a :: b :: rest =>
    if isDigitChar a then
      if '0' ≤ a && a ≤ '5' && isDigitChar b then afterSexagesimal rest (n + 1)
      else afterSexagesimal (b :: rest) (n + 1)
    else if n > 0 then some cs else none
  | [':', a] =>
    if isDigitChar a then afterSexagesimal [] (n + 1)
    else if n > 0 then some cs else none
  | _ => if n > 0 then some cs else none
termination_by cs.length

/-- Drops an optional sign. -/
def dropSign : List Char → List Char
  | '-' :: r => r
  | '+' :: r => r
  | r => r

/-- The boolean words. -/
def booleanWords : List String :=
  ["yes", "Yes", "YES", "no", "No", "NO", "true", "True", "TRUE", "false", "False", "FALSE",
    "on", "On", "ON", "off", "Off", "OFF"]

/-- A float of YAML 1.1. -/
def isFloatText (cs : List Char) : Bool :=
  let body := dropSign cs
  let pointed :=
    match afterDigitRun body with
    | some ('.' :: r) => isExponentTail (r.dropWhile isDigitOrUnderscore)
    | _ => false
  let leadingPoint :=
    match cs with
    | '.' :: d :: r => isDigitChar d && isExponentTail (r.dropWhile isDigitOrUnderscore)
    | _ => false
  let sexagesimal :=
    match (afterDigitRun body).bind (afterSexagesimal · 0) with
    | some ('.' :: r) => r.all isDigitOrUnderscore
    | _ => false
  let special := [".inf", ".Inf", ".INF"].contains (String.ofList body) ||
    [".nan", ".NaN", ".NAN"].contains (String.ofList cs)
  pointed || leadingPoint || sexagesimal || special

/-- An integer of YAML 1.1. -/
def isIntText (cs : List Char) : Bool :=
  match dropSign cs with
  | '0' :: 'b' :: r => !r.isEmpty && r.all fun c => c = '0' || c = '1' || c = '_'
  | '0' :: 'x' :: r => !r.isEmpty && r.all fun c => isHexChar c || c = '_'
  | ['0'] => true
  | '0' :: r => r.all fun c => ('0' ≤ c && c ≤ '7') || c = '_'
  | d :: r =>
    '1' ≤ d && d ≤ '9' &&
      (let r := r.dropWhile isDigitOrUnderscore
       r.isEmpty || afterSexagesimal r 0 == some [])
  | [] => false

/-- A timestamp of YAML 1.1: a date of exactly `YYYY-MM-DD`, or a date with a time. -/
def isTimestampText (cs : List Char) : Bool :=
  (cs.length = 10 && (takeDigits 4 cs).isSome && cs[4]? = some '-' &&
    (takeDigits 2 (cs.drop 5)).isSome && cs[7]? = some '-' && (takeDigits 2 (cs.drop 8)).isSome) ||
  (match DateText.parse cs with
   | some d => d.time.isSome
   | none => false)

/-- Whether a text has the form of a tag's values. -/
def Tag.fits (t : Tag) (cs : List Char) : Bool :=
  match t with
  | .bool => booleanWords.contains (String.ofList cs)
  | .null => ["~", "null", "Null", "NULL", ""].contains (String.ofList cs)
  | .float => isFloatText cs
  | .int => isIntText cs
  | .timestamp => isTimestampText cs
  | .merge => cs = ['<', '<']
  | .value => cs = ['=']
  | .other _ => cs = ['!'] || cs = ['&'] || cs = ['*']
  | _ => false

/-- Whether a text has the form of a tag's values, ignoring one final line feed. -/
def Tag.matches (t : Tag) (cs : List Char) : Bool :=
  t.fits cs || (cs.getLast? == some '\n' && t.fits cs.dropLast)

/-- The tags a plain scalar may get, in the order they are tried, by its first character. -/
def Tag.candidates (c : Char) : List Tag :=
  if c = 'y' || c = 'Y' || c = 't' || c = 'T' || c = 'f' || c = 'F' || c = 'o' || c = 'O' then
    [.bool]
  else if c = 'n' || c = 'N' then [.bool, .null]
  else if c = '-' || c = '+' then [.float, .int]
  else if isDigitChar c then [.float, .int, .timestamp]
  else if c = '.' then [.float]
  else if c = '<' then [.merge]
  else if c = '~' then [.null]
  else if c = '=' then [.value]
  else if c = '!' || c = '&' || c = '*' then [.other "tag:yaml.org,2002:yaml"]
  else []

/-- The tag of a scalar with no specific tag: guessed from the text of a plain scalar (or one
tagged `!`), a text otherwise. -/
def Tag.resolve (text : String) (plainImplicit : Bool) : Tag :=
  if !plainImplicit then .str
  else
    match text.toList with
    | [] => .null
    | cs@(c :: _) => ((Tag.candidates c).find? (·.matches cs)).getD .str

end Yaml
end EngineFit
