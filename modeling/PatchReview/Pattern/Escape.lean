import PatchReview.Pattern.Piece
import PatchReview.Pattern.Reader

/-!
# Escapes and sets

What a backslash and the character behind it stand for inside and outside of sets, and sets between
brackets.
-/

namespace PatchReview
namespace Pattern

/-! ## Escapes -/

/-- The code point of hexadecimal or octal digits. -/
def codeOf (base : Nat) (ds : List Char) : Nat := Decimal.valueOf base (Decimal.digitOf? base) ds

def isAsciiLetter (c : Char) : Bool := c.toNat < 0x80 && c.isAlpha

def isHexDigit (c : Char) : Bool := c.toNat < 0x80 && (Decimal.digitOf? 16 c).isSome

def isOctalDigit (c : Char) : Bool := '0' ≤ c && c ≤ '7'

/-- The control characters that a letter names. -/
def controlEscape? : Char → Option Nat
  | 'a' => some 0x07
  | 'b' => some 0x08
  | 'f' => some 0x0C
  | 'n' => some 0x0A
  | 'r' => some 0x0D
  | 't' => some 0x09
  | 'v' => some 0x0B
  | '\\' => some 0x5C
  | _ => none

def classEscape? (flags : Flags) : Char → Option CharClass
  | 'd' => some ⟨.digit, false, flags.ascii⟩
  | 'D' => some ⟨.digit, true, flags.ascii⟩
  | 's' => some ⟨.blank, false, flags.ascii⟩
  | 'S' => some ⟨.blank, true, flags.ascii⟩
  | 'w' => some ⟨.word, false, flags.ascii⟩
  | 'W' => some ⟨.word, true, flags.ascii⟩
  | _ => none

def anchorEscape? (flags : Flags) : Char → Option Anchor
  | 'A' => some .textStart
  | 'Z' => some .absoluteEnd
  | 'b' => some (.wordBoundary flags.ascii)
  | 'B' => some (.noWordBoundary flags.ascii)
  | _ => none

open Reader in
/-- The code point of an exact number of hexadecimal digits. -/
def hexEscape (count : Nat) : Reader Nat := do
  let ds ← takeUpTo isHexDigit count
  if ds.length != count then malformed
  let code := codeOf 16 ds
  if code > 0x10FFFF then malformed
  return code

open Reader in
/-- The code point of an escape that means the same inside and outside of sets, but for digits. -/
def codeEscape (c : Char) : Reader Nat := do
  match c with
  | 'x' => hexEscape 2
  | 'u' => hexEscape 4
  | 'U' => hexEscape 8
  | _ => if isAsciiLetter c then malformed else return c.toNat

open Reader in
def setEscape (flags : Flags) (c : Char) : Reader Member := do
  match controlEscape? c, classEscape? flags c with
  | some code, _ => return .code code
  | none, some k => return .cls k
  | none, none =>
    if isOctalDigit c then
      let code := codeOf 8 (c :: (← takeUpTo isOctalDigit 2))
      if code > 0o377 then malformed
      return .code code
    else if c.isDigit then malformed
    else return .code (← codeEscape c)
/-! ## Sets -/

open Reader in
/-- One end of a range, or a member that stands alone. -/
def setMember (flags : Flags) (t : Token) : Reader Member :=
  match t with
  | .char c => return .code c.toNat
  | .escape c => setEscape flags c
  | .dangling => malformed

open Reader in
/-- The members of a set up to its closing bracket, which is a member where it comes first. -/
def setMembers (flags : Flags) : (fuel : Nat) → List Member → Reader (List Member)
  | 0, _ => malformed
  | fuel + 1, members => do
    let some this ← next? | malformed
    if this == .char ']' && !members.isEmpty then return members
    let first ← setMember flags this
    if !(← accept '-') then return ← setMembers flags fuel (members ++ [first])
    let some that ← next? | malformed
    if that == .char ']' then return members ++ [first, .code '-'.toNat]
    match first, ← setMember flags that with
    | .code lo, .code hi =>
      if hi < lo then malformed
      setMembers flags fuel (members ++ [.range lo hi])
    | _, _ => malformed

open Reader in
/-- A set behind its opening bracket. A set of one literal is that literal. -/
def setTest (flags : Flags) : Reader CharTest := do
  let complement ← accept '^'
  let members ← setMembers flags ((← get).tokens.length + 1) []
  match members with
  | .code c :: rest =>
    if rest.all (· == .code c) then
      return if complement then .otherThan flags.caseRule c else .literal flags.caseRule c
    else return .set flags.caseRule complement members
  | _ => return .set flags.caseRule complement members
/-! ## Escapes in sequences -/

open Reader in
/-- A piece that starts with a digit escape: octal digits, or a reference to a group. -/
def digitEscape (flags : Flags) (c : Char) : Reader Piece := do
  let literal (ds : List Char) : Piece := .test (.literal flags.caseRule (codeOf 8 ds))
  if c == '0' then return literal (c :: (← takeUpTo isOctalDigit 2))
  let more ← takeUpTo Char.isDigit 1
  match more with
  | d :: _ =>
    if isOctalDigit c && isOctalDigit d then
      if let e :: _ ← takeUpTo isOctalDigit 1 then
        if codeOf 8 [c, d, e] > 0o377 then malformed
        return literal [c, d, e]
  | [] => pure ()
  return .backref flags.caseRule (← reference (codeOf 10 (c :: more)))

open Reader in
def escapePiece (flags : Flags) (c : Char) : Reader Piece := do
  match anchorEscape? flags c, classEscape? flags c, controlEscape? c with
  | some a, _, _ => return .anchor a
  | none, some k, _ => return .test (.set flags.caseRule false [.cls k])
  | none, none, some code => return .test (.literal flags.caseRule code)
  | none, none, none =>
    if c.isDigit then digitEscape flags c
    else return .test (.literal flags.caseRule (← codeEscape c))

end Pattern
end PatchReview
