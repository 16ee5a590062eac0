import EngineFit.Calls
import EngineFit.Yaml.Event
import EngineFit.Yaml.Tag

/-!
# From events to a graph of nodes

`Graph.ofEvents` turns the events of a stream into the nodes of its single document: scalars
with their tags, sequences and mappings (entries in the order written, repeated keys kept).

The nodes of a document form a graph, not a tree. Each node has a place, its index in
`Graph.nodes`, and a collection holds the places of its items and entries. An anchor names a
node and an alias stands for that same node, so one node can be reached from several places:
reading the document later treats it as one node (it is built once, and a change made to it
is seen from every place). A collection is named by its anchor as soon as it begins, so an
alias inside it makes the collection contain itself.

A scalar with no tag, or with the non-specific tag `!`, gets the tag its text suggests
(`Tag.resolve`); a collection gets the sequence or mapping tag. An alias to no anchor and a
second definition of an anchor are faults, and so is a second document.

The reader nests its calls as the nodes nest, and has `room` call levels (`Calls`). Reading a
node inside `d` collections takes `nodeLevels d` of them; a node that needs more is an error
(`tooDeep`). The text is read ahead of the nodes, except past a window of the text that a
braced mapping as the value of a braced mapping may leave: such a mapping reads its first entry
itself, which takes `entryLevels d` levels, and when even the levels before the last are
missing, the record of the entry's position cannot be made (`tooDeepToRecord`).
-/

namespace EngineFit
namespace Yaml

/-- What a node holds: a scalar's text, or the places of a sequence's items or of a mapping's
keys and values. -/
inductive Content where
  | scalar (text : String)
  | sequence (items : List Nat)
  | mapping (entries : List (Nat × Nat))
deriving Repr, Inhabited

/-- A node of a document: its tag and what it holds. -/
structure Node where
  tag : Tag
  content : Content
deriving Repr, Inhabited

/-- The nodes of a document, each at its place, and the place of the root. -/
structure Graph where
  nodes : Array Node
  root : Nat
deriving Repr, Inhabited

/-- The call levels that reading a node inside `depth` collections takes. -/
def nodeLevels (depth : Nat) : Nat := 2 * depth + 12

/-- The call levels that reading the first entry of a braced mapping inside `depth` collections
takes, when the mapping reads it itself. -/
def entryLevels (depth : Nat) : Nat := 2 * depth + 17

/-- The state of composition: the events left, the fault met after them, the anchors defined
so far with the places they name, and the nodes made so far. -/
structure Composer where
  events : List Event
  fault : Option ReadError
  anchors : List (String × Nat) := []
  nodes : Array Node := #[]

/-- The anchor an event defines, if any. -/
def Event.anchor : Event → Option String
  | .scalar a _ _ _ => a
  | .sequenceStart a _ => a
  | .mappingStart a _ _ => a
  | _ => none

/-- The tag of a collection: the given one, or `default` when there is none or it is `!`. -/
def collectionTag (tag : Option String) (default : Tag) : Tag :=
  match tag with
  | none => default
  | some "!" => default
  | some u => Tag.ofUri u

namespace Composer

/-- The next event; past the last one, the fault that stopped the events. -/
def peek (c : Composer) : Except ReadError Event :=
  match c.events with
  | e :: _ => .ok e
  | [] => .error (c.fault.getD (.fault .stalled))

/-- Drops the next event. -/
def skip (c : Composer) : Composer := { c with events := c.events.drop 1 }

/-- Names a place by an anchor. -/
def define (c : Composer) (anchor : Option String) (place : Nat) : Composer :=
  match anchor with
  | some a => { c with anchors := (a, place) :: c.anchors }
  | none => c

/-- Adds a node, named by its anchor, and gives its place. -/
def add (c : Composer) (anchor : Option String) (n : Node) : Nat × Composer :=
  let place := c.nodes.size
  (place, { c with nodes := c.nodes.push n }.define anchor place)

/-- Sets what the node at a place holds. -/
def fill (c : Composer) (place : Nat) (content : Content) : Composer :=
  { c with nodes := c.nodes.modify place fun n => { n with content } }

mutual

/-- Reads one node inside `depth` collections, with `room` call levels, and gives its place.
`bracedValue` tells whether the node is the value of an entry of a braced mapping. -/
def node (room depth : Nat) (bracedValue : Bool) : Nat → Composer → Except ReadError (Nat × Composer)
  | 0, _ => .error (.fault .stalled)
  | fuel + 1, c => do
    if nodeLevels depth > room then throw (.scalar .tooDeep)
    let e ← c.peek
    match e with
    | .alias name =>
      match c.anchors.find? (·.1 == name) with
      | some (_, place) => pure (place, c.skip)
      | none => throw (.fault (.undefinedAlias name))
    | _ =>
      if let some a := e.anchor then
        if c.anchors.any (·.1 == a) then throw (.fault (.duplicateAnchor a))
      match e with
      | .scalar anchor tag plainImplicit text =>
        let t := match tag with
          | none => Tag.resolve text plainImplicit
          | some "!" => Tag.resolve text plainImplicit
          | some u => Tag.ofUri u
        pure (c.skip.add anchor ⟨t, .scalar text⟩)
      | .sequenceStart anchor tag =>
        let (place, c) := c.skip.add anchor ⟨collectionTag tag .seq, .sequence []⟩
        let (items, c) ← sequenceItems room (depth + 1) fuel c []
        pure (place, c.fill place (.sequence items))
      | .mappingStart anchor tag braced =>
        if braced && bracedValue then
          if entryLevels depth - 1 > room then throw (.scalar .tooDeepToRecord)
          if entryLevels depth > room then throw (.scalar .tooDeep)
        let (place, c) := c.skip.add anchor ⟨collectionTag tag .map, .mapping []⟩
        let (entries, c) ← mappingEntries room (depth + 1) braced fuel c []
        pure (place, c.fill place (.mapping entries))
      | _ => throw (.fault .unexpectedToken)

/-- Reads the items of a sequence, through its end. -/
def sequenceItems (room depth : Nat) : Nat → Composer → List Nat →
    Except ReadError (List Nat × Composer)
  | 0, _, _ => .error (.fault .stalled)
  | fuel + 1, c, acc => do
    match ← c.peek with
    | .sequenceEnd => pure (acc.reverse, c.skip)
    | _ =>
      let (n, c) ← node room depth false fuel c
      sequenceItems room depth fuel c (n :: acc)

/-- Reads the entries of a mapping, through its end; `braced` tells whether the mapping is
written between braces. -/
def mappingEntries (room depth : Nat) (braced : Bool) : Nat → Composer → List (Nat × Nat) →
    Except ReadError (List (Nat × Nat) × Composer)
  | 0, _, _ => .error (.fault .stalled)
  | fuel + 1, c, acc => do
    match ← c.peek with
    | .mappingEnd => pure (acc.reverse, c.skip)
    | _ =>
      let (k, c) ← node room depth false fuel c
      let (v, c) ← node room depth braced fuel c
      mappingEntries room depth braced fuel c ((k, v) :: acc)

end

end Composer

/-- The nodes of the only document of a stream, read with `room` call levels; `none` for a
stream with no document. -/
def Graph.ofEvents (room : Nat) (es : Events) : Except ReadError (Option Graph) := do
  let c : Composer := { events := es.events, fault := es.fault }
  match ← c.peek with
  | .streamEnd => pure none
  | _ =>
    let (root, c) ← Composer.node room 0 false (2 * es.events.length + 2) c.skip
    let _ ← c.peek
    let nodes := c.nodes
    let c := c.skip
    match ← c.peek with
    | .streamEnd => pure (some ⟨nodes, root⟩)
    | _ => throw (.fault .extraDocument)

end Yaml
end EngineFit
