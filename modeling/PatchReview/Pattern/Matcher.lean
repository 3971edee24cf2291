import PatchReview.Pattern.Regex

/-!
# Matching

A backtracking matcher. A matcher takes a state and a continuation and tries its ways in order until
the continuation accepts one; the rounds of a repetition are bounded by what is left of the text, as
a round that takes nothing is the last one.
-/

namespace PatchReview
namespace Pattern

/-- A position in the text, and for each group the positions where it last started and ended. -/
structure MatchState where
  pos : Nat
  starts : Array (Option Nat)
  ends : Array (Option Nat)

/-- What is done at the end of a partial match: the state of the whole match, or none. -/
abbrev Continuation := MatchState → Option MatchState

/-- A way to match a part of a text. -/
abbrev Matcher := MatchState → Continuation → Option MatchState

/-! ## Positions -/

def charBefore? (text : Array Char) (pos : Nat) : Option Char :=
  if pos == 0 then none else text[pos - 1]?

/-- Whether a character is part of a word. -/
def isWordChar (asciiOnly : Bool) (c : Char) : Bool :=
  CharClass.holds ⟨.word, false, asciiOnly⟩ c

/-- Whether just one of the two characters at a position is part of a word. -/
def atWordBoundary (asciiOnly : Bool) (text : Array Char) (pos : Nat) : Bool :=
  (charBefore? text pos).any (isWordChar asciiOnly) != (text[pos]?).any (isWordChar asciiOnly)

/-- Whether an anchor holds at a position; an empty text has neither kind of word boundary. -/
def Anchor.holds (text : Array Char) (pos : Nat) : Anchor → Bool
  | .textStart => pos == 0
  | .textEnd => pos == text.size || (pos + 1 == text.size && text[pos]? == some '\n')
  | .absoluteEnd => pos == text.size
  | .lineStart => pos == 0 || charBefore? text pos == some '\n'
  | .lineEnd => pos == text.size || text[pos]? == some '\n'
  | .wordBoundary asciiOnly => text.size != 0 && atWordBoundary asciiOnly text pos
  | .noWordBoundary asciiOnly => text.size != 0 && !atWordBoundary asciiOnly text pos

/-! ## Groups -/

def MatchState.start (s : MatchState) (group : Nat) : MatchState :=
  { s with starts := s.starts.setIfInBounds group (some s.pos) }

def MatchState.finish (s : MatchState) (group : Nat) : MatchState :=
  { s with ends := s.ends.setIfInBounds group (some s.pos) }

/-- The start and the end of what a group has matched. -/
def MatchState.span? (s : MatchState) (group : Nat) : Option (Nat × Nat) :=
  match (s.starts[group]?).join, (s.ends[group]?).join with
  | some a, some b => if a ≤ b then some (a, b) else none
  | _, _ => none

/-- Whether two characters are equal under a case rule. -/
def sameChar (rule : CaseRule) (a b : Char) : Bool := rule.lower a.toNat == rule.lower b.toNat

/-- Whether `count` characters from one position on repeat those from another position on. -/
def repeatsAt (rule : CaseRule) (text : Array Char) : (count source pos : Nat) → Bool
  | 0, _, _ => true
  | count + 1, source, pos =>
    match text[source]?, text[pos]? with
    | some a, some b => sameChar rule a b && repeatsAt rule text count (source + 1) (pos + 1)
    | _, _ => false

/-! ## Repetition -/

/-- A fixed number of rounds. -/
def exactRounds (m : Matcher) : Nat → Matcher
  | 0, s, k => k s
  | n + 1, s, k => m s fun s => exactRounds m n s k

/-- Up to a number of rounds, more of them first. -/
def greedyRounds (m : Matcher) : Nat → Matcher
  | 0, s, k => k s
  | n + 1, s, k =>
    match m s (fun s' => if s'.pos == s.pos then k s' else greedyRounds m n s' k) with
    | some r => some r
    | none => k s

/-- Up to a number of rounds, fewer of them first. -/
def lazyRounds (m : Matcher) : Nat → Matcher
  | 0, s, k => k s
  | n + 1, s, k =>
    match k s with
    | some r => some r
    | none => m s fun s' => if s'.pos == s.pos then k s' else lazyRounds m n s' k

/-- The state after as many rounds as there are, each matched in its first way. -/
def possessiveRounds (m : Matcher) : Nat → MatchState → MatchState
  | 0, s => s
  | n + 1, s =>
    match m s some with
    | some s' => if s'.pos == s.pos then s' else possessiveRounds m n s'
    | none => s

/-- A fixed number of rounds, each matched in its first way. -/
def exactPossessive (m : Matcher) : Nat → MatchState → Option MatchState
  | 0, s => some s
  | n + 1, s => (m s some).bind (exactPossessive m n)

/-- The number of rounds after the least number that can matter at a position. -/
def extraRounds (text : Array Char) (pos least : Nat) : Option Nat → Nat
  | some most => min (most - least) (text.size - pos + 1)
  | none => text.size - pos + 1

def repeated (text : Array Char) (mode : RepeatMode) (least : Nat) (most : Option Nat)
    (m : Matcher) : Matcher := fun s k =>
  match mode with
  | .greedy => exactRounds m least s fun s => greedyRounds m (extraRounds text s.pos least most) s k
  | .lazy => exactRounds m least s fun s => lazyRounds m (extraRounds text s.pos least most) s k
  | .possessive =>
    match exactPossessive m least s with
    | some s => k (possessiveRounds m (extraRounds text s.pos least most) s)
    | none => none

/-! ## Expressions -/

def Regex.matcher (text : Array Char) : Regex → Matcher
  | .empty, s, k => k s
  | .char test, s, k =>
    match text[s.pos]? with
    | some c => if test.holds c then k { s with pos := s.pos + 1 } else none
    | none => none
  | .anchor a, s, k => if a.holds text s.pos then k s else none
  | .seq a b, s, k => a.matcher text s fun s => b.matcher text s k
  | .alt a b, s, k =>
    match a.matcher text s k with
    | some r => some r
    | none => b.matcher text s k
  | .capture group body, s, k => body.matcher text (s.start group) fun s => k (s.finish group)
  | .atomic body, s, k =>
    match body.matcher text s some with
    | some s => k s
    | none => none
  | .look side wanted body, s, k =>
    let found := match side with
      | .ahead => body.matcher text s some
      | .behind width =>
        if width ≤ s.pos then body.matcher text { s with pos := s.pos - width } some else none
    match found, wanted with
    | some s', true => k { s' with pos := s.pos }
    | none, false => k s
    | _, _ => none
  | .backref rule group, s, k =>
    match s.span? group with
    | some (a, b) =>
      if repeatsAt rule text (b - a) a s.pos then k { s with pos := s.pos + (b - a) } else none
    | none => none
  | .ifGroup group present absent, s, k =>
    if (s.span? group).isSome then present.matcher text s k else absent.matcher text s k
  | .rounds mode least most body, s, k => repeated text mode least most (body.matcher text) s k

/-- Whether an expression matches at one of `count` positions from one position on. -/
def Regex.matchesFrom (r : Regex) (groups : Nat) (text : Array Char) : (count pos : Nat) → Bool
  | 0, _ => false
  | count + 1, pos =>
    (r.matcher text ⟨pos, Array.replicate groups none, Array.replicate groups none⟩ some).isSome ||
      r.matchesFrom groups text count (pos + 1)

/-- Whether an expression with a number of groups matches somewhere in a text. -/
def Regex.occursIn (r : Regex) (groups : Nat) (text : Array Char) : Bool :=
  r.matchesFrom groups text (text.size + 1) 0

end Pattern
end PatchReview
