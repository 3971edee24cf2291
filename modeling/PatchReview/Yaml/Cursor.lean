import PatchReview.Yaml.Token

/-!
# The state of scanning a YAML text

The place in the text, the indentation of the open block collections, and the places where a key
may have started. A key in front of a colon is recognised only at the colon; its token is put in at
the place where it started.
-/

namespace PatchReview
namespace Yaml

/-! ## Characters -/

/-- A line end. -/
def isBreak (c : Char) : Bool := c == '\n' || c == '\x85' || c == '\u2028' || c == '\u2029'

/-- A character, or the end of the text, that ends a word. -/
def endsWord : Option Char → Bool
  | none => true
  | some c => c == ' ' || c == '\t' || isBreak c

def endsLine : Option Char → Bool
  | none => true
  | some c => isBreak c

/-- A blank, a line end or the end of the text. -/
def endsItem : Option Char → Bool
  | none => true
  | some c => c == ' ' || isBreak c

/-- A letter, a digit or one of two signs that names are made of. -/
def isNameChar (c : Char) : Bool := c.isAlphanum || c == '-' || c == '_'

/-! ## State -/

/-- A place where a key may have started. -/
structure KeyPlace where
  /-- The number of tokens before it. -/
  tokens : Nat
  /-- Whether a colon must follow. -/
  required : Bool
  index : Nat
  line : Nat
  column : Nat

/-- The state of scanning. -/
structure Cursor where
  rest : List Char
  index : Nat := 0
  line : Nat := 0
  column : Nat := 0
  /-- The depth of flow collections. -/
  flow : Nat := 0
  /-- The column of the innermost block collection. -/
  indent : Int := -1
  /-- The columns of the block collections around it. -/
  outer : List Int := []
  /-- Whether a key may start here. -/
  keyAllowed : Bool := true
  /-- The places where keys may have started, by the depth of flow collections. -/
  keys : List (Nat × KeyPlace) := []
  tokens : Array Token := #[]

namespace Cursor

def peek? (s : Cursor) (k : Nat) : Option Char := s.rest[k]?

def advance (s : Cursor) : Cursor :=
  match s.rest with
  | [] => s
  | c :: cs =>
    if isBreak c then { s with rest := cs, index := s.index + 1, line := s.line + 1, column := 0 }
    else { s with
      rest := cs
      index := s.index + 1
      column := if c == '\ufeff' then s.column else s.column + 1 }

def advanceBy (s : Cursor) : Nat → Cursor
  | 0 => s
  | n + 1 => s.advance.advanceBy n

def push (s : Cursor) (t : Token) : Cursor := { s with tokens := s.tokens.push t }

def insertAt (s : Cursor) (i : Nat) (t : Token) : Cursor :=
  { s with tokens := s.tokens.extract 0 i ++ #[t] ++ s.tokens.extract i s.tokens.size }

/-- Whether three signs of a kind stand here as a word. -/
def atMarker (s : Cursor) (c : Char) : Bool :=
  s.peek? 0 == some c && s.peek? 1 == some c && s.peek? 2 == some c && endsWord (s.peek? 3)

/-- Whether the start or the end of a document stands here. -/
def atDocumentMarker (s : Cursor) : Bool := s.atMarker '-' || s.atMarker '.'

end Cursor

/-! ## Steps -/

/-- Steps of scanning; the state stays when one fails. -/
abbrev Scan := ExceptT Error (StateM Cursor)

namespace Scan

/-- Fails, as the text breaks the grammar. -/
def malformed {α : Type} : Scan α := throw .malformed

def peek? (k : Nat) : Scan (Option Char) := return (← get).peek? k

def skip (n : Nat) : Scan Unit := modify (·.advanceBy n)

def takeWhile (p : Char → Bool) : Scan (List Char) := do
  let taken := (← get).rest.takeWhile p
  skip taken.length
  return taken

def takeLine : Scan (List Char) := takeWhile fun c => !isBreak c

def skipBlanks : Scan Unit := do let _ ← takeWhile (· == ' ')

def skipComment : Scan Unit := do
  if (← peek? 0) == some '#' then let _ ← takeLine

/-- Takes a line end, if one stands here, as it counts in a text. -/
def takeBreak : Scan (List Char) := do
  match ← peek? 0 with
  | some c =>
    if c == '\n' || c == '\x85' then skip 1; return ['\n']
    else if c == '\u2028' || c == '\u2029' then skip 1; return [c]
    else return []
  | none => return []

/-- Sets whether a key may start here. -/
def allowKey (allowed : Bool) : Scan Unit := modify fun s => { s with keyAllowed := allowed }

def push (t : Token) : Scan Unit := modify (·.push t)

/-! ### Indentation -/

/-- Closes the block collections that are further in than a column. -/
def closeBlocks (column : Int) : Scan Unit := do
  let s ← get
  if s.flow == 0 then
    let closed := (s.indent :: s.outer).takeWhile (column < ·)
    match (s.indent :: s.outer).drop closed.length with
    | [] => return ()
    | indent :: outer =>
      set { s with
        indent, outer, tokens := s.tokens ++ Array.replicate closed.length Token.blockEnd }

/-- Opens a block collection at a column, if that is further in than the innermost one. -/
def openBlock (column : Nat) : Scan Bool := do
  let s ← get
  if s.indent < column then
    set { s with indent := (column : Int), outer := s.indent :: s.outer }
    return true
  else return false

/-! ### Keys -/

/-- Forgets where a key of this depth may have started; a required key must not be forgotten. -/
def forgetKey : Scan Unit := do
  let s ← get
  match s.keys.lookup s.flow with
  | some place =>
    if place.required then malformed
    set { s with keys := s.keys.filter fun (flow, _) => flow != s.flow }
  | none => return ()

/-- Notes that a key may start here. -/
def noteKey : Scan Unit := do
  let s ← get
  if s.keyAllowed then
    forgetKey
    modify fun s => { s with
      keys := (s.flow, {
        tokens := s.tokens.size
        required := s.flow == 0 && s.indent == (s.column : Int)
        index := s.index
        line := s.line
        column := s.column }) :: s.keys }

/-- Whether a key can no longer be the one before a colon here. -/
def isStale (s : Cursor) (place : KeyPlace) : Bool :=
  place.line != s.line || 1024 < s.index - place.index

/-- Forgets the keys that are on other lines or too far back. -/
def forgetStaleKeys : Scan Unit := do
  let s ← get
  if s.keys.any fun (_, place) => isStale s place && place.required then malformed
  set { s with keys := s.keys.filter fun (_, place) => !isStale s place }

end Scan
end Yaml
end PatchReview
