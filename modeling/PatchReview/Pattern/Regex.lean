import PatchReview.Pattern.CharTest

/-!
# Regular expressions

The tree of a pattern, with the flags of a pattern already resolved into its leaves, and the widths
of the texts that a tree can match.
-/

namespace PatchReview
namespace Pattern

/-- Conditions on a position that take no character. -/
inductive Anchor where
  | textStart
  /-- The end of the text, or the place before a final line feed. -/
  | textEnd
  | absoluteEnd
  | lineStart
  | lineEnd
  | wordBoundary (asciiOnly : Bool)
  | noWordBoundary (asciiOnly : Bool)
  deriving DecidableEq, Repr

/-- How a repetition chooses its number of rounds. -/
inductive RepeatMode where
  /-- As many as possible, then fewer. -/
  | greedy
  /-- As few as possible, then more. -/
  | lazy
  /-- As many as possible, and no fewer afterwards. -/
  | possessive
  deriving DecidableEq, Repr

/-- The side of a position that an assertion looks at. -/
inductive LookSide where
  | ahead
  /-- The given number of characters before the position. -/
  | behind (width : Nat)
  deriving DecidableEq, Repr

/-- A regular expression. -/
inductive Regex where
  | empty
  | char (test : CharTest)
  | anchor (anchor : Anchor)
  | seq (first second : Regex)
  | alt (first second : Regex)
  | capture (group : Nat) (body : Regex)
  /-- The body as it matches first, without going back into it. -/
  | atomic (body : Regex)
  /-- The body next to the position, or its absence. -/
  | look (side : LookSide) (wanted : Bool) (body : Regex)
  /-- The text of a group again. -/
  | backref (rule : CaseRule) (group : Nat)
  /-- One of two bodies, by whether a group has matched. -/
  | ifGroup (group : Nat) (present absent : Regex)
  /-- A number of rounds; `most` is none where there is no upper limit. -/
  | rounds (mode : RepeatMode) (least : Nat) (most : Option Nat) (body : Regex)
  deriving Repr

namespace Regex

def ofSeq : List Regex → Regex
  | [] => .empty
  | [r] => r
  | r :: rs => .seq r (ofSeq rs)

/-- The choice between expressions, the earlier ones first. -/
def ofAlternatives : List Regex → Regex
  | [] => .empty
  | [r] => r
  | r :: rs => .alt r (ofAlternatives rs)

end Regex

/-! ## Widths -/

/-- The least and the greatest width of a match; no greatest where there is no limit. -/
structure Width where
  least : Nat
  most : Option Nat
  deriving DecidableEq, Repr

namespace Width

/-- The width of an exact number of characters. -/
def exactly (n : Nat) : Width := ⟨n, some n⟩

def addLimits : Option Nat → Option Nat → Option Nat
  | some a, some b => some (a + b)
  | _, _ => none

def maxLimits : Option Nat → Option Nat → Option Nat
  | some a, some b => some (max a b)
  | _, _ => none

/-- The width of a match after another. -/
def add (a b : Width) : Width := ⟨a.least + b.least, addLimits a.most b.most⟩

/-- The width of a match of one kind or another. -/
def choice (a b : Width) : Width := ⟨min a.least b.least, maxLimits a.most b.most⟩

def times (least : Nat) (most : Option Nat) (w : Width) : Width :=
  ⟨w.least * least,
    match most, w.most with
    | some n, some m => some (m * n)
    | none, some 0 => some 0
    | some 0, none => some 0
    | _, _ => none⟩

/-- The number of characters of all matches, where they have one. -/
def fixed? (w : Width) : Option Nat := if w.most == some w.least then some w.least else none

end Width

/-- The width of an expression, given the widths of the groups before it. -/
def Regex.width (groups : Nat → Width) : Regex → Width
  | .empty => .exactly 0
  | .char _ => .exactly 1
  | .anchor _ => .exactly 0
  | .seq a b => (a.width groups).add (b.width groups)
  | .alt a b => (a.width groups).choice (b.width groups)
  | .capture _ body => body.width groups
  | .atomic body => body.width groups
  | .look _ _ _ => .exactly 0
  | .backref _ group => groups group
  | .ifGroup _ present absent => (present.width groups).choice (absent.width groups)
  | .rounds _ least most body => (body.width groups).times least most

end Pattern
end PatchReview
