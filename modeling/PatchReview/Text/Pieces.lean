/-!
# Cutting texts

Splitting a text at a character or at a mark, finding the last occurrence of a mark, and joining
pieces again. All functions recurse on the characters.
-/

namespace PatchReview
namespace Text

/-- The pieces between the occurrences of a character; there is always at least one. -/
def splitAtChar (sep : Char) : List Char → List (List Char)
  | [] => [[]]
  | c :: cs =>
    if c == sep then [] :: splitAtChar sep cs
    else match splitAtChar sep cs with
      | [] => [[c]]
      | piece :: pieces => (c :: piece) :: pieces

def afterStart? : (mark : List Char) → List Char → Option (List Char)
  | [], s => some s
  | _ :: _, [] => none
  | m :: mark, c :: cs => if m == c then afterStart? mark cs else none

def startsWith (mark : String) (s : List Char) : Bool := (afterStart? mark.toList s).isSome

/-- The text before and after the first occurrence of a mark. -/
def cutFirst? (mark : List Char) : List Char → Option (List Char × List Char)
  | [] => if mark.isEmpty then some ([], []) else none
  | c :: cs =>
    match afterStart? mark (c :: cs) with
    | some rest => some ([], rest)
    | none => (cutFirst? mark cs).map fun (before, after) => (c :: before, after)

/-- The text before and after the last occurrence of a mark. -/
def cutLast? (mark : List Char) : List Char → Option (List Char × List Char)
  | [] => if mark.isEmpty then some ([], []) else none
  | c :: cs =>
    match cutLast? mark cs with
    | some (before, after) => some (c :: before, after)
    | none => (afterStart? mark (c :: cs)).map fun rest => ([], rest)

/-- The characters up to the next closing one, with no barred one among them, and the rest. -/
def upTo? (close : Char) (barred : Char → Bool) : List Char → Option (List Char × List Char)
  | [] => none
  | c :: cs =>
    if c == close then some ([], cs)
    else if barred c then none
    else (upTo? close barred cs).map fun (before, after) => (c :: before, after)

def occursIn (mark s : List Char) : Bool := (cutFirst? mark s).isSome

/-- The pieces put together with a separator between neighbours. -/
def joinWith (sep : List Char) : List (List Char) → List Char
  | [] => []
  | [piece] => piece
  | piece :: pieces => piece ++ sep ++ joinWith sep pieces

/-- A text with a line feed for each line end, be that a carriage return, a line feed or both. -/
def normalizeLineEnds : List Char → List Char
  | '\r' :: '\n' :: cs => '\n' :: normalizeLineEnds cs
  | '\r' :: cs => '\n' :: normalizeLineEnds cs
  | c :: cs => c :: normalizeLineEnds cs
  | [] => []

end Text
end PatchReview
