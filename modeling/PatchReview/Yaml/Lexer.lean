import PatchReview.Yaml.Scalar

/-!
# Scanning YAML texts

The tokens of a YAML text. Block collections are opened and closed by indentation, and a key is
opened once the colon behind it is found.
-/

namespace PatchReview
namespace Yaml

open Scan

/-! ## Indicators -/

/-- Skips blanks, comments and line ends; a key may start on a new line. -/
def skipToToken : (fuel : Nat) → Scan Unit
  | 0 => return ()
  | fuel + 1 => do
    skipBlanks
    skipComment
    if !(← takeBreak).isEmpty then
      if (← get).flow == 0 then allowKey true
      skipToToken fuel

def fetchDocumentMarker (t : Token) : Scan Unit := do
  closeBlocks (-1)
  forgetKey
  allowKey false
  skip 3
  push t

/-- The opening bracket of a flow collection. -/
def fetchFlowStart (t : Token) : Scan Unit := do
  noteKey
  modify fun s => { s with flow := s.flow + 1 }
  allowKey true
  skip 1
  push t

/-- The closing bracket of a flow collection. -/
def fetchFlowEnd (t : Token) : Scan Unit := do
  forgetKey
  modify fun s => { s with flow := s.flow - 1 }
  allowKey false
  skip 1
  push t

/-- A comma. -/
def fetchFlowEntry : Scan Unit := do
  allowKey true
  forgetKey
  skip 1
  push .flowEntry

/-- Opens a block collection where a key may start. -/
def openCollection (t : Token) : Scan Unit := do
  if (← get).flow == 0 then
    if !(← get).keyAllowed then malformed
    if ← openBlock (← get).column then push t

/-- A dash. -/
def fetchBlockEntry : Scan Unit := do
  openCollection .blockSequenceStart
  allowKey true
  forgetKey
  skip 1
  push .blockEntry

/-- A question mark. -/
def fetchKey : Scan Unit := do
  openCollection .blockMappingStart
  allowKey ((← get).flow == 0)
  forgetKey
  skip 1
  push .key

/-- A colon, which makes what stands before it a key where that may be one. -/
def fetchValue : Scan Unit := do
  let s ← get
  match s.keys.lookup s.flow with
  | some place =>
    set { s.insertAt place.tokens .key with keys := s.keys.filter fun (flow, _) => flow != s.flow }
    if s.flow == 0 then
      if ← openBlock place.column then modify (·.insertAt place.tokens .blockMappingStart)
    allowKey false
  | none =>
    openCollection .blockMappingStart
    allowKey (s.flow == 0)
    forgetKey
  skip 1
  push .value

/-! ## Items -/

def fetchItem (scan : Scan Token) : Scan Unit := do
  noteKey
  allowKey false
  push (← scan)

def fetchBlockScalar (fold : Bool) : Scan Unit := do
  allowKey true
  forgetKey
  push (.scalar (← scanBlock fold) false)

/-- Characters that no plain scalar starts with. -/
def isIndicator (c : Char) : Bool := "-?:,[]\x7b\x7d#&*!|>'\"%@\x60".toList.contains c

/-- Whether a plain scalar starts with a character before another. -/
def startsPlain (flow : Bool) (c : Char) (next : Option Char) : Bool :=
  (!endsWord (some c) && !isIndicator c) ||
    (!endsWord next && (c == '-' || (!flow && (c == '?' || c == ':'))))

def fetchAt (c : Char) : Scan Unit := do
  let s ← get
  let next := s.peek? 1
  let flow := s.flow != 0
  if c == '%' && s.column == 0 then
    closeBlocks (-1)
    forgetKey
    allowKey false
    push (.directive (← scanDirective))
  else if s.column == 0 && s.atMarker '-' then fetchDocumentMarker .documentStart
  else if s.column == 0 && s.atMarker '.' then fetchDocumentMarker .documentEnd
  else if c == '[' then fetchFlowStart .flowSequenceStart
  else if c == '\x7b' then fetchFlowStart .flowMappingStart
  else if c == ']' then fetchFlowEnd .flowSequenceEnd
  else if c == '\x7d' then fetchFlowEnd .flowMappingEnd
  else if c == ',' then fetchFlowEntry
  else if c == '-' && endsWord next then fetchBlockEntry
  else if c == '?' && (flow || endsWord next) then fetchKey
  else if c == ':' && (flow || endsWord next) then fetchValue
  else if c == '*' then fetchItem (return .alias (← scanName))
  else if c == '&' then fetchItem (return .anchor (← scanName))
  else if c == '!' then fetchItem (return .tag (← scanTag))
  else if c == '|' && !flow then fetchBlockScalar false
  else if c == '>' && !flow then fetchBlockScalar true
  else if c == '\'' then fetchItem (return .scalar (← scanQuoted false) false)
  else if c == '"' then fetchItem (return .scalar (← scanQuoted true) false)
  else if startsPlain flow c next then fetchItem (return .scalar (← scanPlain) true)
  else malformed

def fetchEnd : Scan Unit := do
  closeBlocks (-1)
  forgetKey
  push .streamEnd

def fetchAll : (fuel : Nat) → Scan Unit
  | 0 => malformed
  | fuel + 1 => do
    skipToToken ((← get).rest.length + 1)
    forgetStaleKeys
    closeBlocks (← get).column
    match ← peek? 0 with
    | none => fetchEnd
    | some c => fetchAt c; fetchAll fuel

/-! ## Texts -/

/-- A character that YAML texts may hold. -/
def isAllowed (c : Char) : Bool :=
  let n := c.toNat
  n == 0x09 || n == 0x0A || n == 0x0D || (0x20 ≤ n && n ≤ 0x7E) || n == 0x85 ||
    (0xA0 ≤ n && n ≤ 0xFFFD) || 0x10000 ≤ n

/-- A text without a byte order mark at its start. -/
def dropMark : List Char → List Char
  | '\ufeff' :: cs => cs
  | cs => cs

def tokens (text : List Char) : List Token :=
  let text := Text.normalizeLineEnds text
  if !text.all isAllowed then [.fault .malformed]
  else
    match (fetchAll (text.length + 2)).run.run { rest := dropMark text } with
    | (.ok _, s) => s.tokens.toList
    | (.error e, s) => s.tokens.toList ++ [.fault e]

end Yaml
end PatchReview
