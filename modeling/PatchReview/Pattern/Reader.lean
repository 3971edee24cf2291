import PatchReview.Pattern.Flags
import PatchReview.Pattern.Regex
import PatchReview.Pattern.Token

/-!
# The reader of patterns

The state of reading a pattern and the steps from which reading is made. What can only be judged at
the end of the pattern is noted in the state.
-/

namespace PatchReview
namespace Pattern

/-- What reading has found so far. -/
structure ReaderState where
  tokens : List Token
  /-- The flags of the whole pattern. -/
  flags : Flags := {}
  /-- The number of groups that have been opened, with the whole pattern as the first. -/
  groups : Nat := 1
  /-- The groups that have names. -/
  names : List (List Char × Nat) := []
  /-- The widths of the groups that are closed. -/
  closed : List (Nat × Width) := []
  /-- The number of groups before the outermost lookbehind around the place. -/
  beforeLookbehind : Option Nat := none
  /-- The groups that conditions ask for. -/
  asked : List Nat := []
  /-- Whether a lookbehind has no fixed width. -/
  unfixedLookbehind : Bool := false
  /-- Whether there is a repetition. -/
  repeats : Bool := false

abbrev Reader := StateT ReaderState (Except PatternError)

namespace Reader

/-- Fails, as the text breaks the grammar. -/
def malformed {α : Type} : Reader α := throw .malformed

/-- Sets what is left of the text; a dangling backslash at its front is a fault. -/
def setTokens (tokens : List Token) : Reader Unit := do
  match tokens with
  | .dangling :: _ => malformed
  | _ => modify fun s => { s with tokens }

/-- The next token, which stays. -/
def peek? : Reader (Option Token) := return (← get).tokens.head?

def next? : Reader (Option Token) := do
  match (← get).tokens with
  | [] => return none
  | t :: ts => setTokens ts; return some t

/-- Takes a character if it comes next. -/
def accept (c : Char) : Reader Bool := do
  match (← get).tokens with
  | .char d :: ts => if c == d then setTokens ts; return true else return false
  | _ => return false

/-- Takes a character that must come next. -/
def expect (c : Char) : Reader Unit := do
  unless ← accept c do malformed

def takeUpTo (p : Char → Bool) : Nat → Reader (List Char)
  | 0 => return []
  | n + 1 => do
    match (← get).tokens with
    | .char c :: ts => if p c then setTokens ts; return c :: (← takeUpTo p n) else return []
    | _ => return []

def takeWhile (p : Char → Bool) : Reader (List Char) := do takeUpTo p (← get).tokens.length

/-- The tokens before the first occurrence of a character, and those after it. -/
def untilChar? (c : Char) : List Token → Option (List Token × List Token)
  | [] => none
  | t :: ts =>
    if t == .char c then some ([], ts) else (untilChar? c ts).map fun (a, b) => (t :: a, b)

/-- Takes a name up to a character, and that character. -/
def nameUntil (c : Char) : Reader (List Char) := do
  match untilChar? c (← get).tokens with
  | some (name@(_ :: _), rest) =>
    if rest.head? == some .dangling then malformed
    setTokens rest
    return name.flatMap Token.toChars
  | _ => malformed

def closedWidth? (group : Nat) : Reader (Option Width) := return (← get).closed.lookup group

/-- Refuses a reference to a group that may not be asked for inside a lookbehind. -/
def checkLookbehind (group : Nat) : Reader Unit := do
  match (← get).beforeLookbehind with
  | none => return ()
  | some before => if (← closedWidth? group).isNone || before ≤ group then malformed

def reference (group : Nat) : Reader Nat := do
  if (← closedWidth? group).isNone then malformed
  checkLookbehind group
  return group

end Reader

end Pattern
end PatchReview
