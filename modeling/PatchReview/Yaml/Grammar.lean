import PatchReview.Yaml.Lexer
import PatchReview.Yaml.Node

/-!
# The document of a list of tokens

A recursive-descent reader of tokens. A text holds at most one document; anchors name nodes, and an
alias must come after the anchor that it names.
-/

namespace PatchReview
namespace Yaml

/-- The state of reading tokens. -/
structure BuildState where
  tokens : List Token
  graph : Graph := #[]
  anchors : List (String × Nat) := []
  /-- What the handles of tags stand for. -/
  handles : List (String × String) := []

/-- Steps of reading tokens. -/
abbrev Build := StateT BuildState (Except Error)

namespace Build

/-- Fails, as the tokens break the grammar. -/
def malformed {α : Type} : Build α := throw .malformed

/-- The next token. A fault of the text is met here. -/
def peek : Build Token := do
  match (← get).tokens with
  | .fault e :: _ => throw e
  | t :: _ => return t
  | [] => return .streamEnd

def drop : Build Unit := modify fun s => { s with tokens := s.tokens.tail }

/-- Takes a token if it comes next. -/
def accept (t : Token) : Build Bool := do
  if (← peek) == t then drop; return true else return false

/-- Takes a token that must come next. -/
def expect (t : Token) : Build Unit := do
  if !(← accept t) then malformed

def add (n : Node) : Build Nat := do
  let s ← get
  set { s with graph := s.graph.push n }
  return s.graph.size

/-- Adds a node for a value that is left out. -/
def addEmpty : Build Nat := add ⟨.null, .scalar ""⟩

/-- Refuses a name that a node has already. -/
def checkNew (anchor : Option String) : Build Unit := do
  let names := (← get).anchors
  if anchor.any fun a => (names.lookup a).isSome then malformed

def name (anchor : Option String) (id : Nat) : Build Unit :=
  match anchor with
  | some a => modify fun s => { s with anchors := (a, id) :: s.anchors }
  | none => return ()

end Build

/-! ## Properties -/

/-- What stands in front of a node. -/
structure Properties where
  anchor : Option String := none
  tag : Option String := none

def fullTag (t : TagText) : Build String := do
  match t.handle with
  | none => return t.suffix
  | some handle =>
    match (← get).handles.lookup handle with
    | some start => return start ++ t.suffix
    | none => Build.malformed

/-- The properties in front of a node, in either order. -/
def properties : Build Properties := do
  match ← Build.peek with
  | .anchor a =>
    Build.drop
    match ← Build.peek with
    | .tag t => Build.drop; return { anchor := some a, tag := some (← fullTag t) }
    | _ => return { anchor := some a }
  | .tag t =>
    Build.drop
    match ← Build.peek with
    | .anchor a => Build.drop; return { anchor := some a, tag := some (← fullTag t) }
    | _ => return { tag := some (← fullTag t) }
  | _ => return {}

/-- The tag of a scalar; the tag of one sign asks for the tag of a plain scalar. -/
def scalarTag (p : Properties) (text : String) (plain : Bool) : Tag :=
  match p.tag with
  | none => if plain then implicitTag text else .text
  | some "!" => implicitTag text
  | some name => .ofName name

def collectionTag (p : Properties) (default : Tag) : Tag :=
  match p.tag with
  | none => default
  | some "!" => default
  | some name => .ofName name

/-! ## Nodes -/

/-- The context of a node. -/
inductive Context where
  | flow
  | block
  /-- A block in which a sequence may start without being further in. -/
  | blockOrEntries
  deriving DecidableEq, Repr

/-- Whether a token ends a key or a value in a block mapping. -/
def endsBlockPart (t : Token) : Bool := t == .key || t == .value || t == .blockEnd

def endsFlowKey (close t : Token) : Bool := t == .value || t == .flowEntry || t == close

def endsFlowValue (close t : Token) : Bool := t == .flowEntry || t == close

mutual

def node : (fuel : Nat) → Context → Build Nat
  | 0, _ => Build.malformed
  | fuel + 1, context => do
    match ← Build.peek with
    | .alias name =>
      Build.drop
      match (← get).anchors.lookup name with
      | some id => return id
      | none => Build.malformed
    | _ =>
      let p ← properties
      let t ← Build.peek
      Build.checkNew p.anchor
      if context == .blockOrEntries && t == .blockEntry then
        let id ← Build.add ⟨collectionTag p .sequence, .sequence []⟩
        Build.name p.anchor id
        fillSequence id (← blockEntries fuel true [])
      else match t with
      | .scalar text plain =>
        Build.drop
        let id ← Build.add ⟨scalarTag p text plain, .scalar text⟩
        Build.name p.anchor id
        return id
      | .flowSequenceStart =>
        Build.drop
        let id ← Build.add ⟨collectionTag p .sequence, .sequence []⟩
        Build.name p.anchor id
        fillSequence id (← flowItems fuel [])
      | .flowMappingStart =>
        Build.drop
        let id ← Build.add ⟨collectionTag p .mapping, .mapping []⟩
        Build.name p.anchor id
        fillMapping id (← flowEntries fuel [])
      | .blockSequenceStart =>
        if context == .flow then Build.malformed
        Build.drop
        let id ← Build.add ⟨collectionTag p .sequence, .sequence []⟩
        Build.name p.anchor id
        let items ← blockEntries fuel false []
        Build.expect .blockEnd
        fillSequence id items
      | .blockMappingStart =>
        if context == .flow then Build.malformed
        Build.drop
        let id ← Build.add ⟨collectionTag p .mapping, .mapping []⟩
        Build.name p.anchor id
        fillMapping id (← blockPairs fuel [])
      | _ =>
        if p.anchor.isNone && p.tag.isNone then Build.malformed
        let id ← Build.add ⟨scalarTag p "" true, .scalar ""⟩
        Build.name p.anchor id
        return id

def fillSequence (id : Nat) (items : List Nat) : Build Nat := do
  modify fun s => { s with graph := s.graph.setContent id (.sequence items) }
  return id

def fillMapping (id : Nat) (entries : List (Nat × Nat)) : Build Nat := do
  modify fun s => { s with graph := s.graph.setContent id (.mapping entries) }
  return id

/-- Reads the entries of a block sequence, each behind a dash. -/
def blockEntries : (fuel : Nat) → (indentless : Bool) → List Nat → Build (List Nat)
  | 0, _, _ => Build.malformed
  | fuel + 1, indentless, before => do
    if !(← Build.accept .blockEntry) then return before
    let t ← Build.peek
    let ends := t == .blockEntry || t == .blockEnd || (indentless && (t == .key || t == .value))
    let item ← if ends then Build.addEmpty else node fuel .block
    blockEntries fuel indentless (before ++ [item])

/-- Reads the pairs of a block mapping up to its end. -/
def blockPairs : (fuel : Nat) → List (Nat × Nat) → Build (List (Nat × Nat))
  | 0, _ => Build.malformed
  | fuel + 1, before => do
    if ← Build.accept .key then
      let key ← if endsBlockPart (← Build.peek) then Build.addEmpty else node fuel .blockOrEntries
      let value ← if ← Build.accept .value then
          (do if endsBlockPart (← Build.peek) then Build.addEmpty else node fuel .blockOrEntries)
        else Build.addEmpty
      blockPairs fuel (before ++ [(key, value)])
    else
      Build.expect .blockEnd
      return before

/-- Reads the key and the value of a pair between brackets, behind the sign of a key. -/
def flowPair : (fuel : Nat) → (close : Token) → Build (Nat × Nat)
  | 0, _ => Build.malformed
  | fuel + 1, close => do
    let key ← if endsFlowKey close (← Build.peek) then Build.addEmpty else node fuel .flow
    let value ← if ← Build.accept .value then
        (do if endsFlowValue close (← Build.peek) then Build.addEmpty else node fuel .flow)
      else Build.addEmpty
    return (key, value)

/-- Reads the items of a flow sequence up to its end. A pair is a mapping of its own. -/
def flowItems : (fuel : Nat) → List Nat → Build (List Nat)
  | 0, _ => Build.malformed
  | fuel + 1, before => do
    if ← Build.accept .flowSequenceEnd then return before
    if !before.isEmpty then Build.expect .flowEntry
    if ← Build.accept .flowSequenceEnd then return before
    if ← Build.accept .key then
      let id ← Build.add ⟨.mapping, .mapping []⟩
      let pair ← flowPair fuel .flowSequenceEnd
      let _ ← fillMapping id [pair]
      flowItems fuel (before ++ [id])
    else
      let item ← node fuel .flow
      flowItems fuel (before ++ [item])

/-- Reads the entries of a flow mapping up to its end. A node alone is a key without a value. -/
def flowEntries : (fuel : Nat) → List (Nat × Nat) → Build (List (Nat × Nat))
  | 0, _ => Build.malformed
  | fuel + 1, before => do
    if ← Build.accept .flowMappingEnd then return before
    if !before.isEmpty then Build.expect .flowEntry
    if ← Build.accept .flowMappingEnd then return before
    if ← Build.accept .key then
      let pair ← flowPair fuel .flowMappingEnd
      flowEntries fuel (before ++ [pair])
    else
      let key ← node fuel .flow
      let value ← Build.addEmpty
      flowEntries fuel (before ++ [(key, value)])

end

/-! ## Documents -/

/-- What the handles of tags stand for without directives. -/
def standardHandles : List (String × String) :=
  [("!", "!"), ("!!", "tag:yaml.org,2002:")]

/-- Reads directives. There is at most one for the version, which is of the first series. -/
def directives : (fuel : Nat) → (version : Bool) → List (String × String) →
    Build (List (String × String))
  | 0, _, _ => Build.malformed
  | fuel + 1, version, handles => do
    match ← Build.peek with
    | .directive d =>
      Build.drop
      match d with
      | .version major =>
        if version || major != 1 then Build.malformed
        directives fuel true handles
      | .tag handle start =>
        if (handles.lookup handle).isSome then Build.malformed
        directives fuel version ((handle, start) :: handles)
      | .unknown => directives fuel version handles
    | _ => return handles

def dropDocumentEnds : (fuel : Nat) → Build Unit
  | 0 => return ()
  | fuel + 1 => do if ← Build.accept .documentEnd then dropDocumentEnds fuel

/-- Whether a token cannot be the start of the content of a document. -/
def endsDocument : Token → Bool
  | .directive _ => true
  | .documentStart => true
  | .documentEnd => true
  | .streamEnd => true
  | _ => false

/-- Whether a token is a directive or the mark of a document start. -/
def isMark : Token → Bool
  | .directive _ => true
  | .documentStart => true
  | _ => false

/-- Reads the content of the document, if there is one. -/
def content (fuel : Nat) : Build (Option Nat) := do
  let t ← Build.peek
  if t == .streamEnd then return none
  else if isMark t then
    let handles ← directives fuel false []
    modify fun s => { s with handles := handles ++ standardHandles }
    Build.expect .documentStart
    if endsDocument (← Build.peek) then some <$> Build.addEmpty else some <$> node fuel .block
  else
    modify fun s => { s with handles := standardHandles }
    some <$> node fuel .block

/-- Reads the document of a text, if there is one, and nothing behind it. -/
def document (fuel : Nat) : Build (Option Nat) := do
  match ← content fuel with
  | none => return none
  | some root =>
    dropDocumentEnds fuel
    Build.expect .streamEnd
    return some root

/-- The document of a text, if it holds one. -/
def Document.parse (text : List Char) : Except Error (Option Document) := do
  let tokens := tokens text
  let (root, s) ← (document (4 * tokens.length + 16)).run { tokens }
  return root.map fun root => { graph := s.graph, root }

end Yaml
end PatchReview
