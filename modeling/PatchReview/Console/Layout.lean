import PatchReview.Text.Blank
import PatchReview.Text.Pieces
import PatchReview.Text.Width

/-!
# Lines on a console

Breaking texts into lines of a limited number of columns, and placing lines in a width. Lines are
broken between words; a word that is wider than the width is folded or cut off.
-/

namespace PatchReview
namespace Console

/-- What happens to what does not fit. -/
inductive Overflow where
  /-- It goes on in the next line. -/
  | fold
  /-- It is cut off, with an ellipsis in its place. -/
  | ellipsis
  deriving DecidableEq, Repr

/-- Where a line is placed. -/
inductive Justify where
  /-- At the left, without filling up the line. -/
  | ragged
  | left
  | center
  | right
  deriving DecidableEq, Repr

abbrev width (s : List Char) : Nat := Text.textColumns s

def blanks (n : Nat) : List Char := List.replicate n ' '

/-- A line with its tabs turned into blanks, to the next multiple of eight columns. -/
def expandTabs (line : List Char) : List Char :=
  let step := fun (out : List Char) (piece : List Char) =>
    let out := out ++ piece ++ [' ']
    out ++ blanks ((8 - width out % 8) % 8)
  let pieces := Text.splitAtChar '\t' line
  pieces.dropLast.foldl step [] ++ (pieces.getLast?.getD [])

/-! ## Breaking -/

/-- The words of a line, each with the blanks behind it; the first has those before it too. -/
def wordsOf : (fuel : Nat) → List Char → List (List Char)
  | 0, _ => []
  | fuel + 1, s =>
    let (before, s) := s.span Text.isBlank
    let (word, s) := s.span fun c => !Text.isBlank c
    let (after, s) := s.span Text.isBlank
    if word.isEmpty then [] else (before ++ word ++ after) :: wordsOf fuel s

/-- A word cut into pieces of at most a width. -/
def chop (limit : Nat) : (piece : List Char) → (used : Nat) → List Char → List (List Char)
  | piece, _, [] => [piece]
  | piece, used, c :: cs =>
    if used + Text.columns c > limit then piece :: chop limit [c] (Text.columns c) cs
    else chop limit (piece ++ [c]) (used + Text.columns c) cs

/-- Puts words into lines: `line` is the line at hand, and `used` the columns it counts for. -/
def breakWords (overflow : Overflow) (limit : Nat) :
    (line : List Char) → (used : Nat) → (first : Bool) → List (List Char) → List (List Char)
  | line, _, _, [] => [line]
  | line, used, first, word :: rest =>
    let size := width (Text.dropEnd Text.isBlank word)
    if used + size ≤ limit then
      breakWords overflow limit (line ++ word) (used + width word) false rest
    else if limit < size then
      match overflow with
      | .fold =>
        let pieces := chop limit [] 0 word
        let last := pieces.getLast?.getD []
        (if first then [] else [line]) ++ pieces.dropLast ++
          breakWords overflow limit last (width last) false rest
      | .ellipsis =>
        (if first then [] else [line]) ++ breakWords overflow limit word (width word) false rest
    else if used != 0 && !first then
      line :: breakWords overflow limit word (width word) false rest
    else breakWords overflow limit (line ++ word) used false rest

/-- Drops blanks at the end of a line that has more characters than a limit. -/
def cropEnd (limit : Nat) (line : List Char) : List Char :=
  let blanksAtEnd := line.length - (Text.dropEnd Text.isBlank line).length
  line.take (line.length - min blanksAtEnd (line.length - limit))

/-! ## Placing -/

/-- As many characters of a line as fit, and blanks up to the limit. -/
def fit (limit : Nat) : List Char → List Char
  | [] => blanks limit
  | c :: cs =>
    if Text.columns c ≤ limit then c :: fit (limit - Text.columns c) cs else blanks limit

/-- A line cut off at a limit. -/
def truncate (overflow : Overflow) (limit : Nat) (line : List Char) : List Char :=
  if width line ≤ limit then line
  else match overflow with
  | .fold => fit limit line
  | .ellipsis => fit (limit - 1) line ++ ['…']

/-- A line placed in a width. -/
def place (justify : Justify) (overflow : Overflow) (limit : Nat) (line : List Char) : List Char :=
  match justify with
  | .ragged => truncate overflow limit line
  | .left =>
    let line := truncate overflow limit line
    line ++ blanks (limit - width line)
  | .center =>
    let line := truncate overflow limit (Text.dropEnd Text.isBlank line)
    let line := blanks ((limit - width line) / 2) ++ line
    line ++ blanks (limit - width line)
  | .right =>
    let line := truncate overflow limit (Text.dropEnd Text.isBlank line)
    blanks (limit - width line) ++ line

/-- How a text is put into lines. -/
structure Layout where
  limit : Nat
  justify : Justify := .ragged
  overflow : Overflow := .fold
  /-- Whether lines are left whole. -/
  unbroken : Bool := false

def Layout.lines (l : Layout) (text : List Char) : List (List Char) :=
  (Text.splitAtChar '\n' text).flatMap fun line =>
    let line := expandTabs line
    let words := wordsOf (line.length + 1) line
    let broken := if l.unbroken || words.isEmpty then [line]
      else breakWords l.overflow l.limit [] 0 true words
    broken.map fun part => place l.justify l.overflow l.limit (cropEnd l.limit part)

end Console
end PatchReview
