import EngineFit.Number.Shortest

/-!
# Document values

Manifests, snapshots, configuration files and tool outputs are documents: trees of null,
booleans, integers, doubles, strings, dates, timestamps, lists and mappings, and from tagged
YAML also byte strings, sets and tuples (the pairs of an ordered map). A mapping keeps its
entries in insertion order; writing a key that is already present replaces the value in
place and keeps the first key.

Values compare as numbers across kinds: `true`, `1` and `1.0` are one value, so they are also
one mapping key. A NaN equals nothing, itself included.

**Collections that contain themselves.** A YAML alias inside the collection it names makes a
collection that is its own item. Such a collection is `.anchor id body`, where `.recur id` in
`body` stands for the whole; ids are distinct within a document. `view` unfolds an anchor once,
putting the anchored collection itself where `body` refers to it, so a reader can look at the
items; the anchors it leaves in the items still mark which items are the collection itself.
-/

namespace EngineFit

/-- A calendar date. -/
structure Date where
  year : Nat
  month : Nat
  day : Nat
deriving DecidableEq, Repr

/-- A date with a time of day, and an offset from UTC in seconds when the timestamp has a
zone. -/
structure Stamp where
  date : Date
  hour : Nat
  minute : Nat
  second : Nat
  micro : Nat
  offset : Option Int
deriving DecidableEq, Repr

/-- Whether a year of the Gregorian calendar is a leap year. -/
def Date.isLeap (y : Nat) : Bool :=
  y % 4 == 0 && (y % 100 != 0 || y % 400 == 0)

/-- Number of days of a month (1 to 12) in a year. -/
def Date.daysIn (y m : Nat) : Nat :=
  if m = 2 then (if Date.isLeap y then 29 else 28)
  else if m = 4 ∨ m = 6 ∨ m = 9 ∨ m = 11 then 30
  else 31

/-- Days from 1 January of year 1 to the date (the first day is day 1). -/
def Date.ordinal (d : Date) : Nat :=
  let y := d.year - 1
  let before := y * 365 + y / 4 - y / 100 + y / 400
  let months := (List.range (d.month - 1)).foldl (fun n m => n + Date.daysIn d.year (m + 1)) 0
  before + months + d.day

/-- Microseconds from the start of day 1 to the timestamp, in its own local time. -/
def Stamp.localMicros (t : Stamp) : Int :=
  ((t.date.ordinal * 86400 + t.hour * 3600 + t.minute * 60 + t.second : Nat) : Int) * 1000000
    + t.micro

/-- Two timestamps denote the same instant; a timestamp with a zone never equals one
without. -/
def Stamp.same (s t : Stamp) : Bool :=
  match s.offset, t.offset with
  | none, none => s == t
  | some a, some b => s.localMicros - a * 1000000 == t.localMicros - b * 1000000
  | _, _ => false

/-- A document value. -/
inductive Value where
  | null
  | bool (b : Bool)
  | int (n : Int)
  | float (x : Float)
  | str (s : String)
  | date (d : Date)
  | stamp (t : Stamp)
  /-- A byte string. -/
  | bytes (data : List UInt8)
  /-- A fixed sequence. -/
  | tuple (items : List Value)
  /-- An unordered collection of distinct keys. -/
  | set (items : List Value)
  | list (items : List Value)
  | dict (entries : List (Value × Value))
  /-- A collection that contains itself: `body`, where `.recur id` stands for the whole. -/
  | anchor (id : Nat) (body : Value)
  /-- The collection of the enclosing `.anchor id`. -/
  | recur (id : Nat)

instance : Inhabited Value := ⟨.null⟩

namespace Value

mutual
/-- Puts `r` where `.recur id` stands in a value, except inside another anchor of the same id,
which stands for itself there. -/
def subst (id : Nat) (r : Value) : Value → Value
  | .recur j => if j = id then r else .recur j
  | .anchor j b => if j = id then .anchor j b else .anchor j (subst id r b)
  | .tuple xs => .tuple (substItems id r xs)
  | .set xs => .set (substItems id r xs)
  | .list xs => .list (substItems id r xs)
  | .dict kvs => .dict (substEntries id r kvs)
  | v => v
/-- `subst` on every item. -/
def substItems (id : Nat) (r : Value) : List Value → List Value
  | [] => []
  | x :: xs => subst id r x :: substItems id r xs
/-- `subst` on every key and value. -/
def substEntries (id : Nat) (r : Value) : List (Value × Value) → List (Value × Value)
  | [] => []
  | (k, v) :: rest => (subst id r k, subst id r v) :: substEntries id r rest
end

/-- A value as a reader sees it: an anchored collection unfolded once, so that where it
contains itself it holds `.anchor id body` again; any other value as it is. -/
def view : Value → Value
  | .anchor id b => subst id (.anchor id b) b
  | v => v

/-- A value counts as true unless it is null, false, zero, or an empty text, byte string or
collection. A collection that contains itself is not empty. -/
def truthy : Value → Bool
  | .null => false
  | .bool b => b
  | .int n => n != 0
  | .float x => x != 0.0
  | .str s => !s.isEmpty
  | .date _ => true
  | .stamp _ => true
  | .bytes bs => !bs.isEmpty
  | .tuple xs => !xs.isEmpty
  | .set xs => !xs.isEmpty
  | .list xs => !xs.isEmpty
  | .dict kvs => !kvs.isEmpty
  | .anchor _ _ => true
  | .recur _ => true

/-- What iterating over a value yields: the characters of a text, the numbers of a byte string,
the items of a list, tuple or set, the keys of a mapping; `none` for a value that cannot be
iterated. -/
def members (v : Value) : Option (List Value) :=
  match v.view with
  | .str s => some (s.toList.map fun c => .str (String.singleton c))
  | .bytes bs => some (bs.map fun b => .int b.toNat)
  | .tuple xs | .set xs | .list xs => some xs
  | .dict kvs => some (kvs.map (·.1))
  | _ => none

mutual
/-- Whether a value can be a mapping key: lists, sets and mappings cannot, nor a tuple holding
one. -/
def hashable : Value → Bool
  | .list _ | .dict _ | .set _ | .anchor _ _ | .recur _ => false
  | .tuple xs => hashableItems xs
  | _ => true
/-- Whether every item can be a mapping key. -/
def hashableItems : List Value → Bool
  | [] => true
  | x :: xs => hashable x && hashableItems xs
end

/-- A value is set unless it is null, an empty text, an empty list or an empty mapping;
`0` and `false` are set. -/
def isSet : Value → Bool
  | .null => false
  | .str s => !s.isEmpty
  | .list xs => !xs.isEmpty
  | .dict kvs => !kvs.isEmpty
  | _ => true

/-- The name of a value's kind, as type errors report it. -/
def kindName : Value → String
  | .null => "NoneType"
  | .bool _ => "bool"
  | .int _ => "int"
  | .float _ => "float"
  | .str _ => "str"
  | .date _ => "date"
  | .stamp _ => "datetime"
  | .bytes _ => "bytes"
  | .tuple _ => "tuple"
  | .set _ => "set"
  | .list _ => "list"
  | .dict _ => "dict"
  | .anchor _ b => kindName b
  | .recur _ => "object"

/-- Whether a double equals an integer exactly. -/
def floatEqInt (x : Float) (n : Int) : Bool :=
  let bits := x.toBits
  let e := ((bits >>> 52) &&& 0x7FF).toNat
  if e == 0x7FF then false
  else
    let b := Number.Binary.ofBits bits
    let negative := bits >>> 63 == 1
    if b.m = 0 then n = 0
    else if negative != decide (n < 0) then false
    else
      let k := n.natAbs
      if b.q ≥ 0 then b.m * Nat.pow 2 b.q.toNat = k else b.m = k * Nat.pow 2 (-b.q).toNat

/-- How a double compares with an integer, exactly; `none` when the double is NaN. -/
def floatCmpInt (x : Float) (n : Int) : Option Ordering :=
  let bits := x.toBits
  let e := ((bits >>> 52) &&& 0x7FF).toNat
  let negative := bits >>> 63 == 1
  if e == 0x7FF then
    if bits &&& 0xFFFFFFFFFFFFF != 0 then none
    else some (if negative then .lt else .gt)
  else
    let b := Number.Binary.ofBits bits
    let m : Int := if negative then -(b.m : Int) else b.m
    if b.q ≥ 0 then some (compare (m * (Nat.pow 2 b.q.toNat : Nat)) n)
    else some (compare m (n * (Nat.pow 2 (-b.q).toNat : Nat)))

/-- A number as an integer or a double; a boolean counts as 0 or 1. -/
def numeral? : Value → Option (Int ⊕ Float)
  | .bool b => some (.inl (if b then 1 else 0))
  | .int n => some (.inl n)
  | .float x => some (.inr x)
  | _ => none

/-- How two numbers of any kinds compare; `none` when either is NaN or not a number.
An integer meets a double exactly, not rounded. -/
def numCompare (a b : Value) : Option Ordering :=
  match numeral? a, numeral? b with
  | some (.inl m), some (.inl n) => some (compare m n)
  | some (.inr x), some (.inr y) =>
    if x < y then some .lt else if y < x then some .gt else if x == y then some .eq else none
  | some (.inr x), some (.inl n) => floatCmpInt x n
  | some (.inl n), some (.inr x) => (floatCmpInt x n).map Ordering.swap
  | _, _ => none

/-- Equality of two numbers of any kinds. -/
def numEq : Value → Value → Bool
  | .int a, .int b => a == b
  | .bool a, .bool b => a == b
  | .bool a, .int b => (if a then 1 else 0) == b
  | .int a, .bool b => a == (if b then 1 else 0)
  | .float x, .float y => x == y
  | .float x, .int n => floatEqInt x n
  | .int n, .float x => floatEqInt x n
  | .float x, .bool b => floatEqInt x (if b then 1 else 0)
  | .bool b, .float x => floatEqInt x (if b then 1 else 0)
  | _, _ => false

/-- Whether a value is a number (`bool`, `int` or `float`). -/
def isNumber : Value → Bool
  | .bool _ | .int _ | .float _ => true
  | _ => false

mutual
/-- Whether two values can be one mapping key: equal scalars, byte strings or tuples of them;
NaN is never a repeated key. -/
def keySame : Value → Value → Bool
  | .null, .null => true
  | .str x, .str y => x == y
  | .date x, .date y => x == y
  | .stamp x, .stamp y => x.same y
  | .bytes x, .bytes y => x == y
  | .tuple xs, .tuple ys => keySameItems xs ys
  | x, y => numEq x y
/-- Whether two tuples' items are the same keys, item by item. -/
def keySameItems : List Value → List Value → Bool
  | [], [] => true
  | x :: xs, y :: ys => keySame x y && keySameItems xs ys
  | _, _ => false
end

/-- The entry of mapping `kvs` under key `k`. -/
def lookup (kvs : List (Value × Value)) (k : Value) : Option Value :=
  (kvs.find? fun p => keySame p.1 k).map (·.2)

/-- Writes `v` under `k`: an existing key keeps its place and its first spelling. -/
def insertEntry (kvs : List (Value × Value)) (k v : Value) : List (Value × Value) :=
  if kvs.any (fun p => keySame p.1 k) then
    kvs.map fun p => if keySame p.1 k then (p.1, v) else p
  else kvs ++ [(k, v)]

mutual
/-- Equality of values: numbers by value across kinds, lists and tuples in order, sets as sets
of items, mappings as sets of entries. Two collections that contain themselves are equal when
they are one collection, or their bodies are equal. -/
def same : Value → Value → Bool
  | .list xs, .list ys => sameList xs ys
  | .tuple xs, .tuple ys => sameList xs ys
  | .set xs, .set ys => xs.length == ys.length && sameMembers xs ys
  | .dict xs, .dict ys => xs.length == ys.length && sameEntries xs ys
  | .anchor i a, .anchor j b => i == j || same a b
  | .recur i, .recur j => i == j
  | .null, .null => true
  | .str x, .str y => x == y
  | .date x, .date y => x == y
  | .stamp x, .stamp y => x.same y
  | .bytes x, .bytes y => x == y
  | x, y => numEq x y
/-- Every item of the first set is equal to an item of the second. -/
def sameMembers : List Value → List Value → Bool
  | [], _ => true
  | x :: xs, ys => ys.any (fun y => same x y) && sameMembers xs ys
/-- Equality of lists, item by item. -/
def sameList : List Value → List Value → Bool
  | [], [] => true
  | x :: xs, y :: ys => same x y && sameList xs ys
  | _, _ => false
/-- Every entry of the first mapping is in the second, with an equal value. -/
def sameEntries : List (Value × Value) → List (Value × Value) → Bool
  | [], _ => true
  | (k, v) :: rest, ys =>
    (match lookup ys k with
     | some w => same v w
     | none => false) && sameEntries rest ys
end

/-- The entry under a text key, for mappings; `none` for other values. -/
def get? (v : Value) (key : String) : Option Value :=
  match v.view with
  | .dict kvs => lookup kvs (.str key)
  | _ => none

/-- The entry under a text key, null when absent. -/
def getD (v : Value) (key : String) : Value :=
  (v.get? key).getD .null

/-- Builds a mapping with text keys, in the given order. -/
def obj (kvs : List (String × Value)) : Value :=
  .dict (kvs.map fun (k, v) => (.str k, v))

end Value

end EngineFit
