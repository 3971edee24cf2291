import PatchReview.Text.Pieces
import PatchReview.Toml.Error

/-!
# Texts in TOML

Texts between quotes: as they are between single quotes, with escapes between double ones, and over
several lines between three of either.
-/

namespace PatchReview
namespace Toml

/-- A way of reading something at the start of a text: it gives what is read and the rest. -/
abbrev Reader (α : Type) := List Char → Except Error (α × List Char)

/-- A blank inside of a line. -/
def isSpace (c : Char) : Bool := c == ' ' || c == '\t'

def isSpaceOrLine (c : Char) : Bool := isSpace c || c == '\n'

def skipSpace (s : List Char) : List Char := s.dropWhile isSpace

/-- A character that may stand in a text of one line or in a comment. -/
def allowedInLine (c : Char) : Bool := (32 ≤ c.toNat && c.toNat != 127) || c == '\t'

/-- A character that may stand in a text of one line, or of several lines. -/
def allowed (lines : Bool) (c : Char) : Bool := allowedInLine c || (lines && c == '\n')

def hexDigit? (c : Char) : Option Nat :=
  if c.isDigit then some (c.toNat - '0'.toNat)
  else if 'a' ≤ c && c ≤ 'f' then some (c.toNat - 'a'.toNat + 10)
  else if 'A' ≤ c && c ≤ 'F' then some (c.toNat - 'A'.toNat + 10)
  else none

def readCodePoint (count : Nat) : Reader (List Char) := fun s =>
  match (s.take count).mapM hexDigit? with
  | none => .error (.malformed .hexValue s)
  | some ds =>
    let code := ds.foldl (fun n d => n * 16 + d) 0
    if ds.length != count then .error (.malformed .hexValue s)
    else if code.isValidChar then .ok ([Char.ofNat code], s.drop count)
    else .error (.malformed .notCharacter (s.drop count))

/-- The characters that letters behind a backslash stand for. -/
def escapeLetters : List (Char × Char) :=
  [('b', '\x08'), ('t', '\t'), ('n', '\n'), ('f', '\x0c'), ('r', '\r'), ('"', '"'), ('\\', '\\')]

/-- What stands for an escape, behind its backslash. In texts of several lines a line end is escaped
together with all blanks around it. -/
def readEscape (lines : Bool) : Reader (List Char)
  | [] => .error (.malformed .escape [])
  | c :: s =>
    if lines && isSpaceOrLine c then
      match skipSpace (c :: s) with
      | '\n' :: rest => .ok ([], rest.dropWhile isSpaceOrLine)
      | [] => .ok ([], [])
      | rest => .error (.malformed .escape rest)
    else if c == 'u' then readCodePoint 4 s
    else if c == 'U' then readCodePoint 8 s
    else match escapeLetters.lookup c with
      | some d => .ok ([d], s)
      | none => .error (.malformed .escape s)

/-- The text up to its double quotes, one or three, in a number of steps. -/
def readBasicIn (lines : Bool) : (fuel : Nat) → Reader (List Char)
  | 0, _ => .error (.malformed .unterminated [])
  | _, [] => .error (.malformed .unterminated [])
  | fuel + 1, '"' :: s =>
    if lines then
      match s with
      | '"' :: '"' :: rest => .ok ([], rest)
      | _ => do
        let (text, rest) ← readBasicIn lines fuel s
        return ('"' :: text, rest)
    else .ok ([], s)
  | fuel + 1, '\\' :: s => do
    let (piece, s) ← readEscape lines s
    let (text, rest) ← readBasicIn lines fuel s
    return (piece ++ text, rest)
  | fuel + 1, c :: s =>
    if allowed lines c then do
      let (text, rest) ← readBasicIn lines fuel s
      return (c :: text, rest)
    else .error (.malformed (.illegalCharacter c) (c :: s))

/-- The text up to its double quotes, one or three. -/
def readBasic (lines : Bool) : Reader (List Char) := fun s => readBasicIn lines s.length s

/-- What a text starts with, unless a character of it may not stand there. -/
def checked {α : Type} (lines : Bool) (start s : List Char) (result : α) : Except Error α :=
  match start.find? (!allowed lines ·) with
  | some c => .error (.malformed (.invalidCharacter c) (s.dropWhile (allowed lines)))
  | none => .ok result

/-- The text up to its single quotes, one or three. -/
def readLiteral (lines : Bool) : Reader (List Char) := fun s =>
  match Text.cutFirst? (if lines then ['\'', '\'', '\''] else ['\'']) s with
  | some (text, rest) => checked lines text s (text, rest)
  | none => .error (.malformed (.quotes lines) [])

/-- Of quotes that follow the end of a text of several lines, two may belong to the text. -/
def takeQuotes (quote : Char) (text : List Char) (s : List Char) : List Char × List Char :=
  let extra := (s.take 2).takeWhile (· == quote)
  (text ++ extra, s.drop extra.length)

/-- A line end at the start of a text of several lines is left out. -/
def dropFirstLine : List Char → List Char
  | '\n' :: s => s
  | s => s

/-- A text between quotes, if there is one; of several lines only if that is asked for. -/
def readQuoted? (lines : Bool) : List Char → Option (Except Error (String × List Char))
  | '"' :: s =>
    match lines, s with
    | true, '"' :: '"' :: s => some do
      let (text, rest) ← readBasic true (dropFirstLine s)
      let (text, rest) := takeQuotes '"' text rest
      return (String.ofList text, rest)
    | _, _ => some ((readBasic false s).map fun (text, rest) => (String.ofList text, rest))
  | '\'' :: s =>
    match lines, s with
    | true, '\'' :: '\'' :: s => some do
      let (text, rest) ← readLiteral true (dropFirstLine s)
      let (text, rest) := takeQuotes '\'' text rest
      return (String.ofList text, rest)
    | _, _ => some ((readLiteral false s).map fun (text, rest) => (String.ofList text, rest))
  | _ => none

end Toml
end PatchReview
