import PatchReview.Pattern.Escape
import PatchReview.Pattern.Matcher
import PatchReview.Text.Identifier

/-!
# Reading patterns

A recursive-descent reader of pattern texts. Flags are resolved while reading: flags of the whole
pattern can only stand at its start, and the others hold inside their parentheses.
-/

namespace PatchReview
namespace Pattern

/-! ## Repetition -/

/-- The number of rounds from which on no number is accepted. -/
def roundsLimit : Nat := 4294967295

/-- The number of rounds that digits denote. -/
def roundsOf (ds : List Char) : Reader Nat := do
  match Decimal.readDigits ds with
  | .error error => throw (.digits error)
  | .ok n => if n < roundsLimit then return n else throw .roundsTooLarge

/-- The least and the greatest number of rounds. -/
structure Bounds where
  least : Nat
  most : Option Nat

open Reader in
/-- The bounds between braces, behind the opening one; none where the brace is a literal. -/
def bracedBounds? : Reader (Option Bounds) := do
  let saved := (← get).tokens
  if saved.head? == some (.char '\x7d') then return none
  let lo ← takeWhile Char.isDigit
  let hi ← if ← accept ',' then takeWhile Char.isDigit else pure lo
  if !(← accept '\x7d') then
    setTokens saved
    return none
  let least ← if lo.isEmpty then pure 0 else roundsOf lo
  let most ← if hi.isEmpty then pure none else some <$> roundsOf hi
  if most.any (· < least) then malformed
  return some ⟨least, most⟩

open Reader in
/-- The bounds of a repetition sign; none where it is a literal. -/
def bounds? (c : Char) : Reader (Option Bounds) :=
  match c with
  | '?' => return some ⟨0, some 1⟩
  | '*' => return some ⟨0, none⟩
  | '+' => return some ⟨1, none⟩
  | _ => bracedBounds?

open Reader in
/-- The mode that the sign behind a repetition sign chooses. -/
def repeatMode : Reader RepeatMode := do
  if ← accept '?' then return .lazy
  else if ← accept '+' then return .possessive
  else return .greedy

open Reader in
/-- Repeats the last element. Anchors and repetitions cannot be repeated. -/
def repeatLast (elements : List Element) (b : Bounds) : Reader (List Element) := do
  let body ← match elements.getLast? with
    | none => malformed
    | some (.piece (.anchor _)) => malformed
    | some (.piece (.repetition _)) => malformed
    | some e => pure (sequence e.toPieces)
  let mode ← repeatMode
  modify fun s => { s with repeats := true }
  return elements.dropLast ++ [.piece (.repetition (.rounds mode b.least b.most body))]
/-! ## Flag changes -/

open Reader in
/-- The flags that letters turn on, from the first letter on, and the character behind them. -/
def flagsOn : (fuel : Nat) → Char → Flags → Reader (Flags × Char)
  | 0, _, _ => malformed
  | fuel + 1, c, f => do
    let some f := f.turnOn? c | malformed
    if f.ascii && f.unicode then malformed
    let some (.char c) ← next? | malformed
    if c == ')' || c == '-' || c == ':' then return (f, c)
    flagsOn fuel c f

open Reader in
/-- The flags that letters turn off, from the first letter up to a colon. -/
def flagsOff : (fuel : Nat) → Char → Flags → Reader Flags
  | 0, _, _ => malformed
  | fuel + 1, c, f => do
    let some f := f.turnOn? c | malformed
    if f.ascii || f.unicode then malformed
    let some (.char c) ← next? | malformed
    if c == ':' then return f
    flagsOff fuel c f

/-- What flags between parentheses are for. -/
inductive FlagChange where
  | wholePattern (on : Flags)
  | inside (on off : Flags)

open Reader in
/-- The flags behind an opening parenthesis and a question mark. -/
def flagChange (c : Char) : Reader FlagChange := do
  let fuel := (← get).tokens.length + 2
  let (on, c) ← if c == '-' then pure (noFlags, c) else flagsOn fuel c noFlags
  if c == ')' then return .wholePattern on
  if on.template then malformed
  if c == ':' then return .inside on noFlags
  let some (.char c) ← next? | malformed
  let off ← flagsOff fuel c noFlags
  if off.template || on.meet off then malformed
  return .inside on off
/-! ## Groups -/

/-- What a pair of parentheses is, read up to where its body starts. -/
inductive GroupKind where
  | capture (name : Option (List Char))
  | plain
  | scoped (on off : Flags)
  | atomic
  | look (behind wanted : Bool)
  | condition
  /-- Nothing that takes part in matching. -/
  | nothing
  | reference (group : Nat)
  | wholeFlags (on : Flags)

open Reader in
def skipComment : Reader Unit := do
  match untilChar? ')' (← get).tokens with
  | some (_, rest) => setTokens rest
  | none => malformed

open Reader in
/-- The extension behind `?P`. -/
def namedGroup : Reader GroupKind := do
  if ← accept '<' then
    let name ← nameUntil '>'
    if !Text.isIdentifier name then malformed
    return .capture (some name)
  expect '='
  let name ← nameUntil ')'
  if !Text.isIdentifier name then malformed
  match (← get).names.lookup name with
  | some group => return .reference (← reference group)
  | none => malformed

open Reader in
/-- What stands behind an opening parenthesis. -/
def groupKind : Reader GroupKind := do
  if !(← accept '?') then return .capture none
  let some (.char c) ← next? | malformed
  match c with
  | 'P' => namedGroup
  | ':' => return .plain
  | '#' => skipComment; return .nothing
  | '=' => return .look false true
  | '!' => return .look false false
  | '<' =>
    match ← next? with
    | some (.char '=') => return .look true true
    | some (.char '!') => return .look true false
    | _ => malformed
  | '(' => return .condition
  | '>' => return .atomic
  | _ =>
    if isFlag c || c == '-' then
      match ← flagChange c with
      | .wholePattern on => return .wholeFlags on
      | .inside on off => return .scoped on off
    else malformed

open Reader in
def openGroup (name : Option (List Char)) : Reader Nat := do
  let s ← get
  match name with
  | none => set { s with groups := s.groups + 1 }
  | some name =>
    if (s.names.lookup name).isSome then malformed
    set { s with groups := s.groups + 1, names := s.names ++ [(name, s.groups)] }
  return s.groups

def ReaderState.widths (s : ReaderState) (group : Nat) : Width :=
  (s.closed.lookup group).getD (.exactly 0)

open Reader in
def closeGroup (group : Nat) (body : Regex) : Reader Unit :=
  modify fun s => { s with closed := (group, body.width s.widths) :: s.closed }

open Reader in
/-- The group that a condition asks for, by name or by number. -/
def conditionGroup : Reader Nat := do
  let name ← nameUntil ')'
  if Text.isIdentifier name then
    match (← get).names.lookup name with
    | some group => checkLookbehind group; return group
    | none => malformed
  else
    match Decimal.readTyped 10 name with
    | .ok (some (.ofNat (group + 1))) =>
      if 1073741823 ≤ group + 1 then malformed
      modify fun s => { s with asked := (group + 1) :: s.asked }
      checkLookbehind (group + 1)
      return group + 1
    | _ => malformed

/-- The width that a lookbehind can have at most. -/
def lookbehindLimit : Nat := 4294967295

open Reader in
/-- The side of an assertion with a body; a lookbehind without a fixed width is noted. -/
def lookSide (behind : Bool) (body : Regex) : Reader LookSide := do
  if !behind then return .ahead
  match (body.width (← get).widths).fixed? with
  | some width =>
    if width ≤ lookbehindLimit then return .behind width
    modify fun s => { s with unfixedLookbehind := true }
    return .behind 0
  | none =>
    modify fun s => { s with unfixedLookbehind := true }
    return .behind 0
/-! ## Sequences -/

/-- A blank that verbose patterns pass over. -/
def isVerboseBlank (c : Char) : Bool := c == ' ' || (0x09 ≤ c.toNat && c.toNat ≤ 0x0D)

/-- The tokens behind the next line feed; a dangling backslash is not passed over. -/
def afterLineFeed : List Token → List Token
  | [] => []
  | .dangling :: _ => [.dangling]
  | t :: ts => if t == .char '\n' then ts else afterLineFeed ts

/-- A character that repeats what stands before it. -/
def isRepeatSign (c : Char) : Bool := ['*', '+', '?', '\x7b'].contains c

mutual

/-- Reads alternatives up to a closing parenthesis or the end of the text. -/
def alternatives : (fuel : Nat) → (top : Bool) → Flags → List (List Piece) → Reader (List Piece)
  | 0, _, _, _ => Reader.malformed
  | fuel + 1, top, flags, before => do
    let ps ← elements fuel (top && before.isEmpty) flags []
    let all := before ++ [ps]
    if ← Reader.accept '|' then
      let whole := (← get).flags
      alternatives fuel top (if top then whole else flags) all
    else return choice flags.caseRule all

/-- Reads a sequence. Flags of the whole pattern can stand at the front of the first one. -/
def elements : (fuel : Nat) → (first : Bool) → Flags → List Element → Reader (List Piece)
  | 0, _, _, _ => Reader.malformed
  | fuel + 1, first, flags, before => do
    let done := before.flatMap Element.toPieces
    match ← Reader.peek? with
    | none => return done
    | some .dangling => Reader.malformed
    | some (.escape c) =>
      let _ ← Reader.next?
      let p ← escapePiece flags c
      elements fuel first flags (before ++ [.piece p])
    | some (.char c) =>
      if c == '|' || c == ')' then return done
      let _ ← Reader.next?
      if flags.verbose && isVerboseBlank c then elements fuel first flags before
      else if flags.verbose && c == '#' then
        Reader.setTokens (afterLineFeed (← get).tokens)
        elements fuel first flags before
      else if c == '[' then
        let test ← setTest flags
        elements fuel first flags (before ++ [.piece (.test test)])
      else if isRepeatSign c then
        match ← bounds? c with
        | some b => elements fuel first flags (← repeatLast before b)
        | none =>
          elements fuel first flags (before ++ [.piece (.test (.literal flags.caseRule c.toNat))])
      else if c == '.' then
        elements fuel first flags (before ++ [.piece (.test (.any flags.dotAll))])
      else if c == '^' then
        let a := if flags.multiline then Anchor.lineStart else .textStart
        elements fuel first flags (before ++ [.piece (.anchor a)])
      else if c == '$' then
        let a := if flags.multiline then Anchor.lineEnd else .textEnd
        elements fuel first flags (before ++ [.piece (.anchor a)])
      else if c == '(' then
        match ← groupKind with
        | .nothing => elements fuel first flags before
        | .wholeFlags on =>
          if !first || !before.isEmpty then Reader.malformed
          modify fun s => { s with flags := s.flags.add on }
          elements fuel first (← get).flags before
        | .reference group =>
          elements fuel first flags (before ++ [.piece (.backref flags.caseRule group)])
        | kind =>
          let e ← group fuel flags kind
          Reader.expect ')'
          elements fuel first flags (before ++ [e])
      else elements fuel first flags (before ++ [.piece (.test (.literal flags.caseRule c.toNat))])

/-- Reads the body of a group up to its closing parenthesis. -/
def group : (fuel : Nat) → Flags → GroupKind → Reader Element
  | 0, _, _ => Reader.malformed
  | fuel + 1, flags, kind => do
    match kind with
    | .capture name =>
      let number ← openGroup name
      let body := sequence (← alternatives fuel false flags [])
      if (← Reader.peek?) != some (.char ')') then Reader.malformed
      closeGroup number body
      return .piece (.compound (.capture number body))
    | .plain => return .plain (← alternatives fuel false flags [])
    | .scoped on off =>
      let ps ← alternatives fuel false (flags.change on off) []
      return .piece (.compound (sequence ps))
    | .atomic =>
      return .piece (.compound (.atomic (sequence (← alternatives fuel false flags []))))
    | .look behind wanted =>
      let outer := (← get).beforeLookbehind
      if behind && outer.isNone then
        modify fun s => { s with beforeLookbehind := some s.groups }
      let body := sequence (← alternatives fuel false flags [])
      if behind && outer.isNone then modify fun s => { s with beforeLookbehind := none }
      let side ← lookSide behind body
      return .piece (.compound (.look side wanted body))
    | .condition =>
      let number ← conditionGroup
      let present ← elements fuel false flags []
      let absent ← if ← Reader.accept '|' then elements fuel false flags [] else pure []
      if (← Reader.peek?) == some (.char '|') then Reader.malformed
      return .piece (.compound (.ifGroup number (sequence present) (sequence absent)))
    | _ => Reader.malformed

end
/-! ## Patterns -/

/-- Reads a whole pattern and judges what could not be judged before its end. -/
def wholePattern (fuel : Nat) : Reader Regex := do
  Reader.setTokens (← get).tokens
  let ps ← alternatives fuel true (← get).flags []
  let s ← get
  if s.flags.ascii && s.flags.unicode then throw .bothAlphabets
  if !s.tokens.isEmpty then Reader.malformed
  if s.asked.any (s.groups ≤ ·) then Reader.malformed
  if s.unfixedLookbehind || (s.flags.template && s.repeats) then Reader.malformed
  return sequence ps

end Pattern

/-- A pattern that can be searched for: an expression and the number of its groups. -/
structure Pattern where
  regex : Pattern.Regex
  groups : Nat

namespace Pattern

def compile (text : String) : Except PatternError Pattern := do
  let tokens := Token.ofChars text.toList
  let (regex, s) ← (wholePattern (3 * tokens.length + 8)).run { tokens }
  return { regex, groups := s.groups }

def occursIn (p : Pattern) (text : String) : Bool :=
  p.regex.occursIn p.groups text.toList.toArray

end Pattern
end PatchReview
