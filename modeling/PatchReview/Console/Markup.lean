import PatchReview.Console.Pictograph
import PatchReview.Console.Style

/-!
# Console markup

Texts with tags in square brackets that turn styles on and off. On a console without colours the
tags vanish, but they must still be balanced: a closing tag closes the last open tag of its style. A
backslash in front of a tag makes it plain text.
-/

namespace PatchReview
namespace Console

/-- Why a text with tags cannot be shown. The position is that of the tag in the text. -/
inductive MarkupError where
  | unmatched (tag : String) (position : Nat)
  | nothingOpen (position : Nat)
  deriving DecidableEq, Repr

def MarkupError.message : MarkupError → String
  | .unmatched tag position =>
    "closing tag '" ++ tag ++ "' at position " ++ toString position ++ " doesn't match any open tag"
  | .nothingOpen position =>
    "closing tag '[/]' at position " ++ toString position ++ " has nothing to close"

/-- A part of a text: plain text, or what stands between brackets. -/
inductive Chunk where
  | plain (s : List Char)
  | tag (position : Nat) (text : List Char)
  deriving DecidableEq, Repr

/-- The characters up to a closing bracket, with no opening bracket among them, and the rest. -/
def untilBracket? (s : List Char) : Option (List Char × List Char) := Text.upTo? ']' (· == '[') s

/-- Whether a character can be the first one of a tag. -/
def isTagStart (c : Char) : Bool := ('a' ≤ c && c ≤ 'z') || c == '#' || c == '/' || c == '@'

/-- A tag at the start of a text: its backslashes, what stands between its brackets, and the
rest. -/
def tagAt? (s : List Char) : Option (Nat × List Char × List Char) :=
  let (slashes, rest) := s.span (· == '\\')
  match rest with
  | '[' :: c :: cs =>
    if isTagStart c then (untilBracket? cs).map fun (a, b) => (slashes.length, c :: a, b) else none
  | _ => none

/-- The parts of a text, from a position on. The characters since the last tag come in reverse. -/
def chunks : (fuel : Nat) → (position : Nat) → (before : List Char) → List Char → List Chunk
  | 0, _, _, _ => []
  | _, _, before, [] => if before.isEmpty then [] else [.plain before.reverse]
  | fuel + 1, position, before, c :: cs =>
    match tagAt? (c :: cs) with
    | none => chunks fuel (position + 1) (c :: before) cs
    | some (slashes, tag, rest) =>
      let here := (if before.isEmpty then [] else [Chunk.plain before.reverse]) ++
        (if slashes < 2 then [] else [.plain (List.replicate (slashes / 2) '\\')])
      let next := position + slashes + tag.length + 2
      let chunk := if slashes % 2 == 1 then Chunk.plain ('[' :: tag ++ [']'])
        else .tag (position + slashes / 2 * 2) tag
      here ++ chunk :: chunks fuel next [] rest

/-- Plain text with its escaped brackets as they are shown. -/
def unescape : List Char → List Char
  | '\\' :: '[' :: cs => '[' :: unescape cs
  | c :: cs => c :: unescape cs
  | [] => []

/-- Characters that a console drops from texts. -/
def isDropped (c : Char) : Bool := [0x07, 0x08, 0x0B, 0x0C, 0x0D].contains c.toNat

/-- The name of a tag, before its parameters. -/
def tagName (tag : List Char) : List Char := tag.takeWhile (· != '=')

/-- The open styles after a tag, the last one first. -/
def applyTag (position : Nat) (tag : List Char) (stack : List String) :
    Except MarkupError (List String) :=
  match tagName tag with
  | '/' :: name =>
    if name.all Text.isBlank then
      match stack with
      | [] => .error (.nothingOpen position)
      | _ :: stack => .ok stack
    else
      let style := normalizeStyle (Text.trimBy Text.isBlank name)
      if stack.contains style then .ok (stack.erase style)
      else .error (.unmatched (String.ofList ('[' :: tag ++ [']'])) position)
  | name => .ok (normalizeStyle name :: stack)

/-- The plain text of parts, given the open styles. -/
def plainOf : List String → List Chunk → Except MarkupError (List Char)
  | _, [] => .ok []
  | stack, .plain s :: rest => do
    let shown := showPictographs (s.length + 1) (unescape s)
    return shown.filter (fun c => !isDropped c) ++ (← plainOf stack rest)
  | stack, .tag position tag :: rest => do plainOf (← applyTag position tag stack) rest

/-- The plain text of a text with tags. -/
def renderMarkup (s : String) : Except MarkupError (List Char) :=
  plainOf [] (chunks (s.toList.length + 1) 0 [] s.toList)

end Console
end PatchReview
