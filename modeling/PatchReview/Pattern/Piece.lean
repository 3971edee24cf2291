import PatchReview.Pattern.Regex

/-!
# Pieces of patterns

The elements of a sequence as they are read, and the choice between sequences. Alternatives share
the leaves that all of them start with, and a choice between single characters is a set.
-/

namespace PatchReview
namespace Pattern

/-! ## Pieces -/

/-- An element of a sequence. Leaves are told apart, as alternatives share them at their starts. -/
inductive Piece where
  | test (test : CharTest)
  | anchor (anchor : Anchor)
  | backref (rule : CaseRule) (group : Nat)
  | compound (r : Regex)
  /-- A repetition, which cannot be repeated as it is. -/
  | repetition (r : Regex)

def Piece.toRegex : Piece → Regex
  | .test t => .char t
  | .anchor a => .anchor a
  | .backref rule group => .backref rule group
  | .compound r => r
  | .repetition r => r

def Piece.sameLeaf : Piece → Piece → Bool
  | .test a, .test b => a == b
  | .anchor a, .anchor b => a == b
  | .backref rule₁ group₁, .backref rule₂ group₂ => rule₁ == rule₂ && group₁ == group₂
  | _, _ => false

def sequence (ps : List Piece) : Regex := .ofSeq (ps.map Piece.toRegex)

/-- An element of a sequence that is being read: a piece, or parentheses that only group. -/
inductive Element where
  | piece (p : Piece)
  | plain (ps : List Piece)

/-- The pieces of elements, with plain parentheses taken away. -/
def Element.toPieces : Element → List Piece
  | .piece p => [p]
  | .plain ps => ps
/-! ## Alternatives -/

/-- The leaf that all alternatives start with. -/
def commonHead? : List (List Piece) → Option Piece
  | (p :: _) :: rest =>
    if rest.all fun alternative =>
      match alternative with
      | q :: _ => p.sameLeaf q
      | [] => false
    then some p else none
  | _ => none

/-- The leaves that all alternatives start with, and the alternatives without them. -/
def splitCommon : (fuel : Nat) → List (List Piece) → List Piece × List (List Piece)
  | 0, alternatives => ([], alternatives)
  | fuel + 1, alternatives =>
    match commonHead? alternatives with
    | some p =>
      let (common, rest) := splitCommon fuel (alternatives.map List.tail)
      (p :: common, rest)
    | none => ([], alternatives)

def membersOf? : List Piece → Option (List Member)
  | [.test (.literal _ code)] => some [.code code]
  | [.test (.set _ false members)] => some members
  | _ => none

/-- The pieces of a choice. A choice between literals and sets is one set. -/
def choice (rule : CaseRule) (alternatives : List (List Piece)) : List Piece :=
  match alternatives with
  | [ps] => ps
  | _ =>
    let depth := (alternatives.map List.length).foldl max 0
    let (common, rest) := splitCommon depth alternatives
    match rest.mapM membersOf? with
    | some members => common ++ [.test (.set rule false members.flatten)]
    | none => common ++ [.compound (.ofAlternatives (rest.map sequence))]

end Pattern
end PatchReview
