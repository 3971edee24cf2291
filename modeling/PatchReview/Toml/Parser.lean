import PatchReview.Toml.Document
import PatchReview.Toml.Quote
import PatchReview.Toml.Scalar

/-!
# Reading TOML documents

A document is read statement by statement. A statement is the header of a table, the header of one
more table of a list, or a key with its value; blanks and comments stand around statements.
-/

namespace PatchReview
namespace Toml

/-! ## Blanks and comments -/

/-- Drops a comment up to the end of its line. -/
def skipComment (s : List Char) : Except Error (List Char) :=
  match s with
  | '#' :: behind =>
    let text := behind.takeWhile (· != '\n')
    checked false text behind (behind.drop text.length)
  | _ => .ok s

/-- Drops blanks, line ends and comments, in a number of steps. -/
def skipLinesIn : (fuel : Nat) → List Char → Except Error (List Char)
  | 0, s => .ok s
  | fuel + 1, s =>
    match s.dropWhile isSpaceOrLine with
    | '#' :: rest => do skipLinesIn fuel (← skipComment ('#' :: rest))
    | rest => .ok rest

/-- Drops blanks, line ends and comments. -/
def skipLines (s : List Char) : Except Error (List Char) := skipLinesIn s.length s

def expect (mark : String) (rule : Breach) (s : List Char) : Except Error (List Char) :=
  match Text.afterStart? mark.toList s with
  | some rest => .ok rest
  | none => .error (.malformed rule s)

/-- Something that may break a rule where a text starts. -/
def built {α : Type} (s : List Char) (x : Except Breach α) : Except Error α :=
  x.mapError (.malformed · s)

/-! ## Keys -/

/-- A character of a key without quotes. -/
def isBare (c : Char) : Bool := c.isAlphanum || c == '-' || c == '_'

def readName : Reader String := fun s =>
  match readQuoted? false s with
  | some result => result
  | none =>
    let name := s.takeWhile isBare
    if name.isEmpty then .error (.malformed .keyStart s)
    else .ok (String.ofList name, s.drop name.length)

/-- The names that follow a name of a key behind points, in a number of steps. -/
def readNamesIn : (fuel : Nat) → Reader Key
  | 0, s => .ok ([], s)
  | fuel + 1, s =>
    match skipSpace s with
    | '.' :: s => do
      let (name, s) ← readName (skipSpace s)
      let (names, s) ← readNamesIn fuel s
      return (name :: names, s)
    | s => .ok ([], s)

/-- A key, with the blanks behind it. -/
def readKey : Reader Key := fun s => do
  let (name, s) ← readName s
  let (names, s) ← readNamesIn s.length s
  return (name :: names, s)

/-! ## Values -/

/-- A value of one piece, if there is one. -/
def readScalar? (s : List Char) : Option (Except Error (Value × List Char)) :=
  match readQuoted? true s with
  | some result => some (result.map fun (text, rest) => (.text text, rest))
  | none =>
    match Text.afterStart? "true".toList s, Text.afterStart? "false".toList s with
    | some rest, _ => some (.ok (.bool true, rest))
    | _, some rest => some (.ok (.bool false, rest))
    | none, none =>
      match readMoment? s with
      | some result => some (result.map fun (m, rest) => (.moment m, rest))
      | none => readNumber? s

/-- The room that is left inside of a bracket. -/
def enter : (room : Nat) → Except Error Nat
  | 0 => .error .nested
  | room + 1 => .ok room

mutual

/-- A value, in a number of steps, with room for a number of brackets inside of each other. -/
def readValue : (fuel room : Nat) → Reader Value
  | 0, _, s => .error (.malformed .value s)
  | fuel + 1, room, s =>
    match s with
    | '[' :: s => do
      let (items, rest) ← readItems fuel (← enter room) (← skipLines s)
      return (.list items, rest)
    | '\x7b' :: s => do
      let room ← enter room
      match skipSpace s with
      | '\x7d' :: rest => return (.table [], rest)
      | s =>
        let (entries, rest) ← readInline fuel room [] [] s
        return (.table entries, rest)
    | s => (readScalar? s).getD (.error (.malformed .value s))

def readItems : (fuel room : Nat) → Reader (List Value)
  | 0, _, s => .error (.malformed .openList s)
  | fuel + 1, room, s =>
    match s with
    | ']' :: rest => .ok ([], rest)
    | s => do
      let (v, s) ← readValue fuel room s
      match ← skipLines s with
      | ']' :: rest => return ([v], rest)
      | ',' :: s =>
        let (items, rest) ← readItems fuel room (← skipLines s)
        return (v :: items, rest)
      | s => throw (.malformed .openList s)

/-- The entries of a table inside of braces up to its end, added to those before them. -/
def readInline : (fuel room : Nat) → Entries → (closed : List Key) → Reader Entries
  | 0, _, _, _, s => .error (.malformed .openTable s)
  | fuel + 1, room, entries, closed, s => do
    let (key, s) ← readKey s
    let (v, s) ← readValue fuel room (skipSpace (← expect "=" .equals s))
    let entries ← built s (addInline entries closed key v)
    match skipSpace s with
    | '\x7d' :: rest => return (entries, rest)
    | ',' :: s =>
      let closed := if v.isClosed then closed ++ [key] else closed
      readInline fuel room entries closed (skipSpace s)
    | s => throw (.malformed .openTable s)

end

/-! ## Statements -/

def startsName (c : Char) : Bool := isBare c || c == '"' || c == '\''

/-- The statement at the start of a text, which is not blank. -/
def readStatement (room : Nat) (d : Document) : Reader Document
  | '[' :: '[' :: s => do
    let (key, s) ← readKey (skipSpace s)
    let d ← built s (d.openListed key)
    return (d, ← expect "]]" .listedEnd s)
  | '[' :: s => do
    let (key, s) ← readKey (skipSpace s)
    let d ← built s (d.openTable key)
    return (d, ← expect "]" .tableEnd s)
  | s => do
    if !s.head?.any startsName then throw (.malformed .statement s)
    let (key, s) ← readKey s
    let s := skipSpace (← expect "=" .equals s)
    let (v, rest) ← readValue (2 * s.length + 1) room s
    return (← built rest (d.add key v), rest)

/-- The end of a line behind a statement: the rest, or nothing at the end of the text. -/
def endLine (s : List Char) : Except Error (Option (List Char)) := do
  match ← skipComment (skipSpace s) with
  | [] => return none
  | '\n' :: rest => return some rest
  | s => throw (.malformed .lineEnd s)

/-- The document of a text that goes on from another, in a number of steps. -/
def readDocument (room : Nat) : (fuel : Nat) → Document → List Char → Except Error Document
  | 0, d, _ => .ok d
  | fuel + 1, d, s => do
    let s := skipSpace s
    let starts := match s with
      | [] => false
      | c :: _ => c != '\n' && c != '#'
    let (d, s) ← if starts then readStatement room d s else pure (d, s)
    match ← endLine s with
    | some rest => readDocument room fuel d rest
    | none => return d

/-- A text with a line feed for each carriage return that is followed by one. -/
def joinLineEnds : List Char → List Char
  | [] => []
  | [c] => [c]
  | c :: d :: s =>
    if c == '\r' && d == '\n' then '\n' :: joinLineEnds s else c :: joinLineEnds (d :: s)

/-- The entries of the document of a text, with room for a number of brackets inside of each
other. -/
def parse (room : Nat) (text : List Char) : Except Error Entries := do
  let s := joinLineEnds text
  let d ← readDocument room (s.length + 1) {} s
  return d.entries

end Toml
end PatchReview
