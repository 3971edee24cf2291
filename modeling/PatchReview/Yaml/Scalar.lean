import PatchReview.Text.Pieces
import PatchReview.Text.Utf8
import PatchReview.Yaml.Cursor

/-!
# Scalars, names and tags of YAML texts

Scanning of the tokens that carry text. Line ends inside of scalars fold: a single one becomes a
blank, and of several the first one is dropped.
-/

namespace PatchReview
namespace Yaml

open Scan

/-! ## Names and tags -/

/-- The name behind the sign of an anchor or an alias. -/
def scanName : Scan String := do
  skip 1
  let name ← takeWhile isNameChar
  if name.isEmpty then malformed
  match ← peek? 0 with
  | none => pure ()
  | some c =>
    if !endsWord (some c) &&
        !(['?', ':', ',', ']', '\x7d', '%', '@', '\x60'].contains c) then malformed
  return String.ofList name

def isTagChar (c : Char) : Bool :=
  c.isAlphanum || "-;/?:@&=+$,_.!~*'()[]".toList.contains c

def isHex (c : Char) : Bool := c.toNat < 0x80 && (Decimal.digitOf? 16 c).isSome

def hexValue (ds : List Char) : Nat := Decimal.valueOf 16 (Decimal.digitOf? 16) ds

/-- Takes an exact number of hexadecimal digits. -/
def takeHex (n : Nat) : Scan Nat := do
  let ds := (← get).rest.take n
  if ds.length != n || !ds.all isHex then malformed
  skip n
  return hexValue ds

/-- Takes escaped bytes, which must be UTF-8 together. -/
def takeEscapedBytes : (fuel : Nat) → Scan (List UInt8)
  | 0 => return []
  | fuel + 1 => do
    if (← peek? 0) != some '%' then return []
    skip 1
    let n ← takeHex 2
    return n.toUInt8 :: (← takeEscapedBytes fuel)

/-- Takes the characters of a tag, of which some may be escaped. -/
def takeTagChars : (fuel : Nat) → Scan (List Char)
  | 0 => return []
  | fuel + 1 => do
    let plain ← takeWhile isTagChar
    if (← peek? 0) == some '%' then
      match Text.decodeUtf8? (← takeEscapedBytes fuel) with
      | none => malformed
      | some cs => return plain ++ cs ++ (← takeTagChars fuel)
    else return plain

/-- Takes the characters of a tag, of which there must be some. -/
def takeTagText : Scan String := do
  let before := (← get).index
  let cs ← takeTagChars ((← get).rest.length + 1)
  if (← get).index == before then malformed
  return String.ofList cs

def takeHandle : Scan String := do
  if (← peek? 0) != some '!' then malformed
  skip 1
  if (← peek? 0) == some ' ' then return "!"
  let name ← takeWhile isNameChar
  if (← peek? 0) != some '!' then malformed
  skip 1
  return String.ofList ('!' :: name ++ ['!'])

def scanTag : Scan TagText := do
  let tag ← match ← peek? 1 with
    | some '<' =>
      skip 2
      let suffix ← takeTagText
      if (← peek? 0) != some '>' then malformed
      skip 1
      pure { handle := none, suffix }
    | next =>
      if endsWord next then
        skip 1
        pure { handle := none, suffix := "!" }
      else
        let word := ((← get).rest.drop 1).takeWhile fun c => !endsItem (some c)
        let handle ← if word.contains '!' then takeHandle else do skip 1; pure "!"
        pure { handle := some handle, suffix := ← takeTagText }
  if endsItem (← peek? 0) then return tag else malformed

/-! ## Directives -/

/-- Skips blanks and a comment up to the end of the line, and the line end. -/
def endDirectiveLine : Scan Unit := do
  skipBlanks
  skipComment
  if !endsLine (← peek? 0) then malformed
  let _ ← takeBreak

def takeVersionPart : Scan Nat := do
  let ds ← takeWhile Char.isDigit
  if ds.isEmpty then malformed
  match Decimal.readDigits ds with
  | .ok n => return n
  | .error e => throw (.digits e)

def scanDirective : Scan Directive := do
  skip 1
  let name ← takeWhile isNameChar
  if name.isEmpty || !endsItem (← peek? 0) then malformed
  let directive ← match String.ofList name with
    | "YAML" =>
      skipBlanks
      let major ← takeVersionPart
      if (← peek? 0) != some '.' then malformed
      skip 1
      let _ ← takeVersionPart
      if !endsItem (← peek? 0) then malformed
      pure (.version major)
    | "TAG" =>
      skipBlanks
      let handle ← takeHandle
      if (← peek? 0) != some ' ' then malformed
      skipBlanks
      let start ← takeTagText
      if !endsItem (← peek? 0) then malformed
      pure (.tag handle start)
    | _ =>
      let _ ← takeLine
      pure .unknown
  endDirectiveLine
  return directive

/-! ## Folding -/

/-- What a line end and the empty lines behind it leave of themselves. -/
def folded (lineBreak : List Char) (breaks : List Char) : List Char :=
  if lineBreak != ['\n'] then lineBreak ++ breaks
  else if breaks.isEmpty then [' ']
  else breaks

/-! ## Plain scalars -/

/-- Whether a plain scalar ends before a character that comes before another. -/
def endsPlain (flow : Bool) (c : Char) (next : Option Char) : Bool :=
  endsWord (some c) ||
    (c == ':' && (endsWord next || (flow && next.any [',', '[', ']', '\x7b', '\x7d'].contains))) ||
    (flow && [',', '?', '[', ']', '\x7b', '\x7d'].contains c)

/-- The length of the part of a plain scalar up to the next blank. -/
def plainLength (flow : Bool) : List Char → Nat
  | [] => 0
  | c :: cs => if endsPlain flow c cs.head? then 0 else plainLength flow cs + 1

/-- Takes the empty lines inside of a plain scalar; none where a document marker follows. -/
def takePlainBreaks : (fuel : Nat) → List Char → Scan (Option (List Char))
  | 0, taken => return some taken
  | fuel + 1, taken => do
    match ← peek? 0 with
    | some c =>
      if c == ' ' then skip 1; takePlainBreaks fuel taken
      else if isBreak c then
        let taken := taken ++ (← takeBreak)
        if (← get).atDocumentMarker then return none
        takePlainBreaks fuel taken
      else return some taken
    | none => return some taken

/-- Takes the blanks between two parts of a plain scalar, as they count in it. -/
def takePlainSpaces : Scan (List Char) := do
  let blanks ← takeWhile (· == ' ')
  match ← peek? 0 with
  | some c =>
    if isBreak c then
      let lineBreak ← takeBreak
      allowKey true
      if (← get).atDocumentMarker then return []
      match ← takePlainBreaks (← get).rest.length [] with
      | some breaks => return folded lineBreak breaks
      | none => return []
    else return blanks
  | none => return blanks

/-- Takes the parts of a plain scalar; lines must be at least at a column. -/
def takePlainParts (column : Int) : (fuel : Nat) → (spaces : List Char) → Scan (List Char)
  | 0, _ => return []
  | fuel + 1, spaces => do
    let s ← get
    if s.peek? 0 == some '#' then return []
    let n := plainLength (s.flow != 0) s.rest
    if n == 0 then return []
    allowKey false
    skip n
    let between ← takePlainSpaces
    let now ← get
    let part := spaces ++ s.rest.take n
    if between.isEmpty || now.peek? 0 == some '#' || (now.flow == 0 && (now.column : Int) < column)
    then return part
    else return part ++ (← takePlainParts column fuel between)

def scanPlain : Scan String := do
  let s ← get
  return String.ofList (← takePlainParts (s.indent + 1) (s.rest.length + 1) [])

/-! ## Quoted scalars -/

def escapedChar? : Char → Option Char
  | '0' => some '\x00'
  | 'a' => some '\x07'
  | 'b' => some '\x08'
  | 't' => some '\t'
  | '\t' => some '\t'
  | 'n' => some '\n'
  | 'v' => some '\x0b'
  | 'f' => some '\x0c'
  | 'r' => some '\r'
  | 'e' => some '\x1b'
  | ' ' => some ' '
  | '"' => some '"'
  | '\\' => some '\\'
  | '/' => some '/'
  | 'N' => some '\x85'
  | '_' => some '\xa0'
  | 'L' => some '\u2028'
  | 'P' => some '\u2029'
  | _ => none

/-- Takes the line ends and blanks at the start of a line inside of a quoted scalar. -/
def takeQuotedBreaks : (fuel : Nat) → Scan (List Char)
  | 0 => return []
  | fuel + 1 => do
    if (← get).atDocumentMarker then malformed
    let _ ← takeWhile fun c => c == ' ' || c == '\t'
    let lineBreak ← takeBreak
    if lineBreak.isEmpty then return []
    return lineBreak ++ (← takeQuotedBreaks fuel)

/-- The character of a code point; a surrogate is none and is replaced. -/
def charOfCode (code : Nat) : Scan Char := do
  if 0x10FFFF < code then throw (.notCharacter code)
  return if 0xD800 ≤ code && code ≤ 0xDFFF then '\ufffd' else Char.ofNat code

/-- Takes an escape of a quoted scalar, behind its backslash. -/
def takeEscape : Scan (List Char) := do
  match ← peek? 0 with
  | none => malformed
  | some c =>
    match escapedChar? c with
    | some e => skip 1; return [e]
    | none =>
      let digits := match c with
        | 'x' => some 2
        | 'u' => some 4
        | 'U' => some 8
        | _ => none
      match digits with
      | some n =>
        skip 1
        let ds := (← get).rest.take n
        if ds.length != n || !ds.all isHex then malformed
        let c ← charOfCode (hexValue ds)
        skip n
        return [c]
      | none =>
        if isBreak c then
          let _ ← takeBreak
          takeQuotedBreaks (← get).rest.length
        else malformed

/-- Takes the characters of a quoted scalar up to a blank, a line end or the closing quote. -/
def takeQuotedWord (double : Bool) : (fuel : Nat) → Scan (List Char)
  | 0 => return []
  | fuel + 1 => do
    let word ← takeWhile fun c => c != '\'' && c != '"' && c != '\\' && !endsWord (some c)
    match ← peek? 0, ← peek? 1 with
    | some '\'', next =>
      if double then skip 1; return word ++ '\'' :: (← takeQuotedWord double fuel)
      else if next == some '\'' then skip 2; return word ++ '\'' :: (← takeQuotedWord double fuel)
      else return word
    | some '"', _ =>
      if double then return word
      else skip 1; return word ++ '"' :: (← takeQuotedWord double fuel)
    | some '\\', _ =>
      skip 1
      if double then
        let escaped ← takeEscape
        return word ++ escaped ++ (← takeQuotedWord double fuel)
      else return word ++ '\\' :: (← takeQuotedWord double fuel)
    | _, _ => return word

/-- Takes the blanks or line ends between two words of a quoted scalar, as they count in it. -/
def takeQuotedSpaces : Scan (List Char) := do
  let blanks ← takeWhile fun c => c == ' ' || c == '\t'
  match ← peek? 0 with
  | none => malformed
  | some c =>
    if isBreak c then
      let lineBreak ← takeBreak
      return folded lineBreak (← takeQuotedBreaks ((← get).rest.length + 1))
    else return blanks

def takeQuotedWords (double : Bool) : (fuel : Nat) → Scan (List Char)
  | 0 => malformed
  | fuel + 1 => do
    let word ← takeQuotedWord double ((← get).rest.length + 1)
    if (← peek? 0) == some (if double then '"' else '\'') then return word
    let spaces ← takeQuotedSpaces
    return word ++ spaces ++ (← takeQuotedWords double fuel)

def scanQuoted (double : Bool) : Scan String := do
  skip 1
  let text ← takeQuotedWords double ((← get).rest.length + 1)
  skip 1
  return String.ofList text

/-! ## Block scalars -/

/-- What becomes of the line ends at the end of a block scalar. -/
inductive Chomping where
  | strip
  | clip
  | keep
  deriving DecidableEq, Repr

/-- Takes the sign for line ends in the header of a block scalar. -/
def takeChomping? : Scan (Option Chomping) := do
  match ← peek? 0 with
  | some '+' => skip 1; return some .keep
  | some '-' => skip 1; return some .strip
  | _ => return none

/-- Takes the indentation in the header of a block scalar. -/
def takeIncrement? : Scan (Option Nat) := do
  match ← peek? 0 with
  | some c =>
    if c.isDigit then
      if c == '0' then malformed
      skip 1
      return some (c.toNat - '0'.toNat)
    else return none
  | none => return none

/-- Takes the signs in the header of a block scalar, which stand in either order. -/
def takeBlockHeader : Scan (Chomping × Option Nat) := do
  let header ← match ← takeChomping? with
    | some chomping => pure (chomping, ← takeIncrement?)
    | none =>
      match ← takeIncrement? with
      | some n => pure ((← takeChomping?).getD .clip, some n)
      | none => pure (.clip, none)
  if !endsItem (← peek? 0) then malformed
  endDirectiveLine
  return header

def skipToColumn (column : Int) : (fuel : Nat) → Scan Unit
  | 0 => return ()
  | fuel + 1 => do
    let s ← get
    if (s.column : Int) < column && s.peek? 0 == some ' ' then skip 1; skipToColumn column fuel

/-- Takes empty lines, and the blanks of the next line up to a column. -/
def takeBlockBreaks (column : Int) : (fuel : Nat) → Scan (List Char)
  | 0 => return []
  | fuel + 1 => do
    skipToColumn column (← get).rest.length
    let lineBreak ← takeBreak
    if lineBreak.isEmpty then return []
    return lineBreak ++ (← takeBlockBreaks column fuel)

/-- Takes the empty lines in front of a block scalar, and finds the furthest column in them. -/
def takeBlockLead : (fuel : Nat) → (furthest : Nat) → Scan (List Char × Nat)
  | 0, furthest => return ([], furthest)
  | fuel + 1, furthest => do
    match ← peek? 0 with
    | some c =>
      if c == ' ' then
        skip 1
        takeBlockLead fuel (max furthest (← get).column)
      else if isBreak c then
        let lineBreak ← takeBreak
        let (breaks, furthest) ← takeBlockLead fuel furthest
        return (lineBreak ++ breaks, furthest)
      else return ([], furthest)
    | none => return ([], furthest)

def startsBlank (c : Option Char) : Bool := c == some ' ' || c == some '\t'

/-- Takes the lines of a block scalar at a column: its text, the last line end and the empty lines
behind it. -/
def takeBlockLines (fold : Bool) (column : Int) :
    (fuel : Nat) → (breaks : List Char) → Scan (List Char × List Char × List Char)
  | 0, breaks => return ([], [], breaks)
  | fuel + 1, breaks => do
    let first ← peek? 0
    let line ← takeLine
    let lineBreak ← takeBreak
    let next ← takeBlockBreaks column ((← get).rest.length + 1)
    let s ← get
    if (s.column : Int) == column && (s.peek? 0).isSome then
      let joint := if fold && lineBreak == ['\n'] && !startsBlank first && !startsBlank (s.peek? 0)
        then (if next.isEmpty then [' '] else []) else lineBreak
      let (text, lastBreak, tail) ← takeBlockLines fold column fuel next
      return (breaks ++ line ++ joint ++ text, lastBreak, tail)
    else return (breaks ++ line, lineBreak, next)

def scanBlock (fold : Bool) : Scan String := do
  skip 1
  let (chomping, increment) ← takeBlockHeader
  let least := max 1 ((← get).indent + 1)
  let fuel := (← get).rest.length + 1
  let (breaks, column) ← match increment with
    | some n =>
      let column := least + n - 1
      pure (← takeBlockBreaks column fuel, column)
    | none =>
      let (breaks, furthest) ← takeBlockLead fuel 0
      pure (breaks, max least furthest)
  let s ← get
  let (text, lastBreak, tail) ←
    if (s.column : Int) == column && (s.peek? 0).isSome then takeBlockLines fold column fuel breaks
    else pure ([], [], breaks)
  return String.ofList (text ++ match chomping with
    | .strip => []
    | .clip => lastBreak
    | .keep => lastBreak ++ tail)

end Yaml
end PatchReview
