import EngineFit.Yaml.Node
import EngineFit.Yaml.Scalar
import EngineFit.Text.Base64

/-!
# From a graph of nodes to a document value

`Yaml.read` reads a YAML text as one document value: tokens, events, the graph of nodes, and then
the value of the graph.

**Values of nodes.** A scalar tagged null, bool, int, float, timestamp or str has the value of
its text under that tag (`Scalar`), and one tagged binary the bytes of its ASCII base64 text
(`Text.decodeBase64`). A node tagged seq is a list and one tagged map a mapping; a mapping
tagged set is the set of its keys, and a sequence tagged omap or pairs, whose items are
mappings of one entry each, a list of (key, value) tuples. A scalar tag on a mapping reads the
text under its first `=` key, and goes on while that text is a mapping; going round a cycle
that way never ends, and is the recursion error. A mapping key must not be a collection. Any
other tag, or a tag on the wrong kind of node, is a fault.

**One value per node.** A node reached from several places is built once, so the places share
one value; a collection that contains itself is an anchored value (`Value.anchor`).

**Order.** Building goes breadth-first, in rounds. A scalar is built as soon as it is met; a
collection is made empty when it is met and filled in the next round, collections of one round
in the order they were met. Filling a sequence builds its items in order, filling a mapping its
keys and values in order. The first fault met in this order is the one reported.

**Merging.** Before a mapping is filled, its merge keys `<<` are taken out and replaced by the
entries of their values, a mapping or a list of mappings, each merged first itself; merged
entries come before the mapping's own, and of a list the last mapping first. Since a later
entry overrides an earlier one, the mapping's own entries win over merged ones, and earlier
merged mappings over later ones. A merge key leaves its mapping before the mapping it names
is merged, so a mapping that merges itself merges its other entries again. In the same pass
each `=` key of the mapping becomes the text `=`, for good: an alias to that key, built
later, is the text too, while one built before meets a tag with no value.

Merging and the `=` keys change the nodes themselves, and every place that reaches a node
sees the change: the graph is part of the state of building.
-/

namespace EngineFit
namespace Yaml

/-- Lifts a scalar error into a read error. -/
def ofScalar {α : Type} : Except ScalarError α → Except ReadError α
  | .ok a => .ok a
  | .error e => .error (.scalar e)

/-- A value being built: a finished value, or a collection by the place of its box. -/
inductive Made where
  | value (v : Value)
  | box (place : Nat)
deriving Inhabited

/-- What a collection being built holds. Keys are finished values, since a collection cannot
be a key. -/
inductive Box where
  | list (items : List Made)
  | dict (entries : List (Value × Made))
  | set (keys : List Value)
  | pairs (items : List (Made × Made))
deriving Inhabited

/-- The state of building a document's value: the nodes as merging has left them, what each
node was built as, the boxes of the collections, and the collections waiting to be filled in
the next round (node and box places, the latest first). -/
structure Builder where
  nodes : Array Node
  made : Array (Option Made)
  boxes : Array Box := #[]
  waiting : List (Nat × Nat) := []

/-- A step of building, which may fail. -/
abbrev BuildM := StateT Builder (Except ReadError)

namespace Builder

/-- The node at a place. -/
def node (b : Builder) (place : Nat) : Node := b.nodes.getD place default

/-- The entries of the mapping at a place; none for another node. -/
def entriesOf (b : Builder) (place : Nat) : List (Nat × Nat) :=
  match (b.node place).content with
  | .mapping es => es
  | _ => []

/-- Sets the entries of the mapping at a place. -/
def setEntries (b : Builder) (place : Nat) (es : List (Nat × Nat)) : Builder :=
  { b with nodes := b.nodes.modify place fun n => { n with content := .mapping es } }

/-- Sets the tag of the node at a place. -/
def setTag (b : Builder) (place : Nat) (t : Tag) : Builder :=
  { b with nodes := b.nodes.modify place fun n => { n with tag := t } }

/-- The text a scalar tag reads from the node at a place: a scalar's text, or for a mapping
what it reads from the value under its first `=` key. More steps than there are nodes go
round a cycle, which never ends. -/
def scalarText (b : Builder) : Nat → Nat → Except ReadError String
  | 0, _ => .error (.scalar .tooDeep)
  | fuel + 1, place =>
    match (b.node place).content with
    | .scalar s => .ok s
    | .mapping es =>
      match es.find? (fun (k, _) => (b.node k).tag == .value) with
      | some (_, v) => b.scalarText fuel v
      | none => .error (.fault .notScalar)
    | .sequence _ => .error (.fault .notScalar)

/-- The value of the node at a place under a scalar tag. -/
def scalarValue (b : Builder) (t : Tag) (place : Nat) : Except ReadError Value := do
  let text : Unit → Except ReadError String := fun _ => b.scalarText (b.nodes.size + 1) place
  match t with
  | .null => let _ ← text (); pure .null
  | .bool => .bool <$> ofScalar (boolOfText (← text ()))
  | .int => .int <$> ofScalar (intOfText (← text ()))
  | .float => .float <$> ofScalar (floatOfText (← text ()))
  | .timestamp => ofScalar (stampOfText (← text ()))
  | .str => .str <$> text ()
  | .binary => do
    let s ← text ()
    if s.toList.any (fun c => c.toNat ≥ 128) then throw (.fault .badBinary)
    match Text.decodeBase64 s with
    | some bs => pure (.bytes bs)
    | none => throw (.fault .badBinary)
  | t => throw (.fault (.undefinedTag t.uri))

/-- The empty box of a collection tag; none for a scalar tag. -/
def emptyBox : Tag → Option Box
  | .seq => some (.list [])
  | .map => some (.dict [])
  | .set => some (.set [])
  | .omap | .pairs => some (.pairs [])
  | _ => none

/-- Builds the node at a place: what it was built as before, or for a collection an empty box
that waits for the next round, or the value of a scalar tag. -/
def make (place : Nat) : BuildM Made := do
  let b ← get
  match b.made.getD place none with
  | some m => pure m
  | none =>
    let n := b.node place
    match emptyBox n.tag with
    | some box =>
      let m := Made.box b.boxes.size
      set { b with boxes := b.boxes.push box, made := b.made.modify place fun _ => some m,
                   waiting := (place, b.boxes.size) :: b.waiting }
      pure m
    | none =>
      let v ← match b.scalarValue n.tag place with
        | .ok v => pure v
        | .error e => throw e
      let m := Made.value v
      modify fun b => { b with made := b.made.modify place fun _ => some m }
      pure m

mutual

/-- Merges the mapping at a place, as described above. -/
def flatten : Nat → Nat → BuildM Unit
  | 0, _ => throw (.fault .stalled)
  | fuel + 1, place => do
    let merge ← flattenFrom fuel place 0 []
    if !merge.isEmpty then
      modify fun b => b.setEntries place (merge ++ b.entriesOf place)

/-- Goes through the entries of the mapping at a place from `index` on, with the entries
merged so far: a merge key is taken out and its mapping or mappings merged, a `=` key becomes
a text key. -/
def flattenFrom : Nat → Nat → Nat → List (Nat × Nat) → BuildM (List (Nat × Nat))
  | 0, _, _, _ => throw (.fault .stalled)
  | fuel + 1, place, index, merge => do
    let b ← get
    let es := b.entriesOf place
    match es[index]? with
    | none => pure merge
    | some (k, v) =>
      let keyTag := (b.node k).tag
      if keyTag == .merge then
        set (b.setEntries place (es.eraseIdx index))
        match ((← get).node v).content with
        | .mapping _ =>
          flatten fuel v
          let sub := (← get).entriesOf v
          flattenFrom fuel place index (merge ++ sub)
        | .sequence items =>
          let subs ← mergeItems fuel items []
          flattenFrom fuel place index (merge ++ subs.reverse.flatten)
        | .scalar _ => throw (.fault .badMerge)
      else if keyTag == .value then
        set (b.setTag k .str)
        flattenFrom fuel place (index + 1) merge
      else flattenFrom fuel place (index + 1) merge

/-- Merges each mapping of a list to be merged, in order, and gives their entries. -/
def mergeItems : Nat → List Nat → List (List (Nat × Nat)) → BuildM (List (List (Nat × Nat)))
  | 0, _, _ => throw (.fault .stalled)
  | _ + 1, [], acc => pure acc.reverse
  | fuel + 1, i :: rest, acc => do
    match ((← get).node i).content with
    | .mapping _ =>
      flatten fuel i
      let es := (← get).entriesOf i
      mergeItems fuel rest (es :: acc)
    | _ => throw (.fault .badMerge)

end

/-- Writes an entry into a mapping being built. A NaN key is the same key as another NaN:
every `.nan` of a document is one value. -/
def insertKey {α : Type} (kvs : List (Value × α)) (k : Value) (v : α) : List (Value × α) :=
  let same (a : Value) : Bool :=
    Value.keySame a k || (match a, k with
      | .float x, .float y => x.isNaN && y.isNaN
      | _, _ => false)
  if kvs.any (fun p => same p.1) then kvs.map fun p => if same p.1 then (p.1, v) else p
  else kvs ++ [(k, v)]

/-- Builds the keys and values of mapping entries in order into a mapping. -/
def makeEntries : List (Nat × Nat) → List (Value × Made) → BuildM (List (Value × Made))
  | [], acc => pure acc
  | (k, v) :: rest, acc => do
    match ← make k with
    | .box _ => throw (.fault .unhashableKey)
    | .value key =>
      let value ← make v
      makeEntries rest (insertKey acc key value)

/-- Builds the pairs of a sequence of single-entry mappings in order. -/
def makePairs : List Nat → List (Made × Made) → BuildM (List (Made × Made))
  | [], acc => pure acc.reverse
  | i :: rest, acc => do
    match ((← get).node i).content with
    | .mapping [(k, v)] =>
      let key ← make k
      let value ← make v
      makePairs rest ((key, value) :: acc)
    | _ => throw (.fault .notPair)

/-- Sets the contents of a box. -/
def setBox (box : Nat) (contents : Box) : BuildM Unit :=
  modify fun b => { b with boxes := b.boxes.modify box fun _ => contents }

/-- The entries of the mapping at a place after merging, for a mapping or a set. -/
def mergedEntries (fuel place : Nat) : BuildM (List (Value × Made)) := do
  if let .mapping _ := ((← get).node place).content then flatten fuel place
  match ((← get).node place).content with
  | .mapping es => makeEntries es []
  | _ => throw (.fault .notMapping)

/-- Fills the box of the collection at a place. -/
def fill (fuel place box : Nat) : BuildM Unit := do
  let b ← get
  match b.boxes.getD box default, (b.node place).content with
  | .list _, .sequence items => setBox box (.list (← items.mapM make))
  | .list _, _ => throw (.fault .notSequence)
  | .dict _, _ => setBox box (.dict (← mergedEntries fuel place))
  | .set _, _ => setBox box (.set ((← mergedEntries fuel place).map (·.1)))
  | .pairs _, .sequence items => setBox box (.pairs (← makePairs items []))
  | .pairs _, _ => throw (.fault .notSequence)

/-- Fills the collections waiting, round after round, until none waits. -/
def rounds (fuel : Nat) : Nat → BuildM Unit
  | 0 => throw (.fault .stalled)
  | n + 1 => do
    let waiting := (← get).waiting.reverse
    if waiting.isEmpty then pure ()
    else
      modify fun b => { b with waiting := [] }
      for (place, box) in waiting do
        fill fuel place box
      rounds fuel n

/-- The value of something built, `path` holding the boxes being written: a box met again
inside itself is `.recur`. Also gives the boxes on the path that were met again. -/
def valueOf (b : Builder) : Nat → List Nat → Made → Value × List Nat
  | _, _, .value v => (v, [])
  | 0, _, .box _ => (.null, [])
  | fuel + 1, path, .box i =>
    if path.contains i then (.recur i, [i])
    else
      let path := i :: path
      let write := b.valueOf fuel path
      let (body, refs) : Value × List Nat :=
        match b.boxes.getD i default with
        | .list items =>
          let vs := items.map write
          (.list (vs.map (·.1)), vs.flatMap (·.2))
        | .dict es =>
          let vs := es.map fun (k, m) => (k, write m)
          (.dict (vs.map fun (k, v) => (k, v.1)), vs.flatMap (·.2.2))
        | .set ks => (.set ks, [])
        | .pairs ps =>
          let vs := ps.map fun (k, m) => (write k, write m)
          (.list (vs.map fun (k, v) => .tuple [k.1, v.1]), vs.flatMap fun (k, v) => k.2 ++ v.2)
      if refs.contains i then (.anchor i body, refs.filter (· != i)) else (body, refs)

end Builder

/-- The value of a document's graph, or its first fault in building order. -/
def Graph.toValue (g : Graph) : Except ReadError Value := do
  let start : Builder := { nodes := g.nodes, made := Array.replicate g.nodes.size none }
  let fuel := 1000000 + 4 * g.nodes.size
  let (root, b) ← (Builder.make g.root).run start
  let ((), b) ← (Builder.rounds fuel (g.nodes.size + 2)).run b
  pure (b.valueOf (b.boxes.size + 2) [] root).1

/-- Why a YAML text yields nothing of the kind sought: its document is rejected, with an error
of type `ε`, or one of its scalars denotes no value. -/
inductive TextError (ε : Type) where
  | rejected (e : ε)
  | scalar (e : ScalarError)

/-- The value of a YAML text holding at most one document, read with `room` call levels
(`Calls`); null when it holds none. -/
def read (room : Nat) (text : String) : Except ReadError Value := do
  match ← Graph.ofEvents room (Event.ofTokens (Token.scan text)) with
  | none => pure .null
  | some g => g.toValue

end Yaml
end EngineFit
