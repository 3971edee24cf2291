import PatchReview.Value
import PatchReview.Yaml.Grammar
import PatchReview.Yaml.Number

/-!
# Values of documents

The value of each node of a document. Collections are completed in the order of their distance from
the outermost node, so the first fault in that order is the error. A collection may hold itself, so
a value is unrolled to a depth only.
-/

namespace PatchReview
namespace Yaml

/-! ## Taking over entries -/

/-- The mappings whose entries are taken over: a node itself, or the items of a sequence. -/
def sourcesOf (g : Graph) (id : Nat) : Except Error (List Nat) :=
  match (g.node id).content with
  | .mapping _ => .ok [id]
  | .sequence items => .ok items
  | .scalar _ => .error .malformed

/-- Puts the entries that a mapping takes over in front of its own, and turns the key of a default
value into a text. Of several sources the later ones come first. -/
def takeOver : (fuel : Nat) → Graph → (id : Nat) → Except Error Graph
  | 0, _, _ => .error .malformed
  | fuel + 1, g, id => do
    let some entries := g.entries? id | .error .malformed
    let (merges, own) := entries.partition fun (key, _) => (g.node key).tag == .merge
    let g := own.foldl (fun g (key, _) =>
      if (g.node key).tag == .defaultValue then g.setTag key .text else g) g
    let g := g.setContent id (.mapping own)
    let (g, taken) ← merges.foldlM (fun (g, taken) (_, value) => do
      let (g, lists) ← (← sourcesOf g value).foldlM (fun (g, lists) source => do
        let g ← takeOver fuel g source
        return (g, (g.entries? source).getD [] :: lists)) (g, [])
      return (g, taken ++ lists.flatten)) (g, [])
    return if merges.isEmpty then g else g.setContent id (.mapping (taken ++ own))

/-! ## Construction -/

/-- What is known of the value of a node. -/
inductive Shape where
  | scalar (v : Value)
  | list
  /-- A list of that many pairs. -/
  | pairs (count : Nat)
  | mapping
  | set
  deriving Inhabited

def Shape.isKey : Shape → Bool
  | .scalar _ => true
  | _ => false

/-- The state of construction: collections wait until those before them are complete. -/
structure BuiltState where
  graph : Graph
  shapes : List (Nat × Shape) := []
  waiting : List Nat := []

abbrev Construct := StateT BuiltState (Except Error)

/-- The text of a scalar. A mapping with a default value stands for that. -/
def scalarText (g : Graph) : (fuel : Nat) → (id : Nat) → Except Error String
  | 0, _ => .error .malformed
  | fuel + 1, id =>
    match (g.node id).content with
    | .scalar text => .ok text
    | .sequence _ => .error .malformed
    | .mapping entries =>
      match entries.find? fun (key, _) => (g.node key).tag == .defaultValue with
      | some (_, value) => scalarText g fuel value
      | none => .error .malformed

/-- The value of a text under the tag of a scalar; none under other tags. -/
def scalarValue? (tag : Tag) (text : String) : Option (Except Error Value) :=
  match tag with
  | .null => some (.ok .null)
  | .text => some (.ok (.text text))
  | .bool => some ((readTruth text).map .bool)
  | .int => some ((readInt text).map .int)
  | .float => some ((readFloat text).map .float)
  | .binary => some (if isBinary text then .ok .other else .error .malformed)
  | .timestamp => some ((checkTime text).map fun _ => .other)
  | _ => none

/-- The shape of a node under the tag of a collection, before it is complete. -/
def collectionShape? : Tag → Option Shape
  | .sequence => some .list
  | .orderedMap => some (.pairs 0)
  | .pairs => some (.pairs 0)
  | .mapping => some .mapping
  | .set => some .set
  | _ => none

/-- Constructs a node, if that has not been done. A collection then waits to be completed. -/
def construct (id : Nat) : Construct Shape := do
  let s ← get
  match s.shapes.lookup id with
  | some shape => return shape
  | none =>
    let tag := (s.graph.node id).tag
    match collectionShape? tag with
    | some shape =>
      set { s with shapes := (id, shape) :: s.shapes, waiting := s.waiting ++ [id] }
      return shape
    | none =>
      if tag == .merge || tag == .defaultValue || tag == .unknown then throw .malformed
      let text ← scalarText s.graph (s.graph.size + 1) id
      match scalarValue? tag text with
      | none => throw .malformed
      | some value =>
        let shape := Shape.scalar (← value)
        set { s with shapes := (id, shape) :: s.shapes }
        return shape

def completeMapping (id : Nat) : Construct Unit := do
  let s ← get
  let graph ← takeOver (s.graph.size + 2) s.graph id
  set { s with graph }
  ((graph.entries? id).getD []).forM fun (key, value) => do
    if !(← construct key).isKey then throw .malformed
    let _ ← construct value

/-- Constructs the key and the value of a mapping with a single entry. -/
def completePair (id : Nat) : Construct Unit := do
  match (← get).graph.entries? id with
  | some [(key, value)] =>
    let _ ← construct key
    let _ ← construct value
  | _ => throw .malformed

def complete (id : Nat) : Construct Unit := do
  let n := (← get).graph.node id
  match n.tag, n.content with
  | .sequence, .sequence items => items.forM fun item => do let _ ← construct item
  | .orderedMap, .sequence items | .pairs, .sequence items =>
    items.forM completePair
    modify fun s => { s with shapes := (id, .pairs items.length) :: s.shapes }
  | .mapping, .mapping _ | .set, .mapping _ => completeMapping id
  | _, _ => throw .malformed

/-- Completes the collections that wait, in order. -/
def completeAll : (fuel : Nat) → Construct Unit
  | 0 => throw .malformed
  | fuel + 1 => do
    let s ← get
    match s.waiting with
    | [] => return ()
    | id :: waiting =>
      set { s with waiting }
      complete id
      completeAll fuel

/-! ## Values -/

/-- Sets the value under a key; a key that is there already keeps its place. -/
def setEntry (key : String) (value : Value) : List (String × Value) → List (String × Value)
  | [] => [(key, value)]
  | (k, v) :: rest => if k == key then (k, value) :: rest else (k, v) :: setEntry key value rest

/-- The value of a node, unrolled to a depth. -/
def BuiltState.value (s : BuiltState) : (depth : Nat) → (id : Nat) → Value
  | 0, _ => .other
  | depth + 1, id =>
    match s.shapes.lookup id, (s.graph.node id).content with
    | some (.scalar v), _ => v
    | some .list, .sequence items => .list (items.map (s.value depth))
    | some (.pairs count), _ => .list (List.replicate count .other)
    | some .mapping, .mapping entries =>
      .mapping (entries.foldl (fun es (key, value) =>
        match s.shapes.lookup key with
        | some (.scalar (.text k)) => setEntry k (s.value depth value) es
        | _ => es) [])
    | _, _ => .other

/-- The value of a document, unrolled to a depth. -/
def Document.toValue (d : Document) (depth : Nat) : Except Error Value := do
  let build : Construct Unit := do
    let _ ← construct d.root
    completeAll (d.graph.size + 2)
  let (_, s) ← build.run { graph := d.graph }
  return s.value depth d.root

/-- The value of a text, unrolled to a depth; null where it holds no document. -/
def parse (depth : Nat) (text : List Char) : Except Error Value := do
  match ← Document.parse text with
  | some d => d.toValue depth
  | none => return .null

end Yaml
end PatchReview
